import UpnpBinding.Xml.Source
/-!
Decoding undoes UTF-8 encoding: the bytes of a text decode to its characters and end complete.
The decoder reads one character at a time, from its lead byte; each of the four lengths of an
encoding passes the decoder's checks (no overlong form, no surrogate, nothing past U+10FFFF)
because the character is a Unicode scalar value.
-/
namespace UpnpBinding.Xml

theorem getElem?_data_of_drop {B : ByteArray} {i : Nat} {bs : List UInt8}
    (h : B.data.toList.drop i = bs) (k : Nat) : B.data[i + k]? = bs[k]? := by
  rw [← h, List.getElem?_drop, Array.getElem?_toList]

theorem get!_eq_of_drop {B : ByteArray} {i : Nat} {bs : List UInt8}
    (h : B.data.toList.drop i = bs) {k : Nat} (hk : k < bs.length) :
    B.get! (i + k) = bs[k] := by
  have hget := getElem?_data_of_drop h k
  rw [List.getElem?_eq_getElem hk] at hget
  cases B with
  | mk data => simp only [ByteArray.get!, getElem!_def, hget]

theorem getElem_eq_of_drop {B : ByteArray} {i : Nat} {b : UInt8} {bs : List UInt8}
    (h : B.data.toList.drop i = b :: bs) : ∃ hi : i < B.size, B[i] = b := by
  have hget := getElem?_data_of_drop h 0
  rw [Nat.add_zero, List.getElem?_cons_zero] at hget
  obtain ⟨hi, hb⟩ := Array.getElem?_eq_some_iff.mp hget
  exact ⟨hi, hb⟩

theorem size_of_drop {B : ByteArray} {i : Nat} {bs : List UInt8} (h : B.data.toList.drop i = bs) :
    B.size = i + bs.length ∨ bs = [] := by
  have := congrArg List.length h
  simp only [List.length_drop, Array.length_toList] at this
  simp only [ByteArray.size]
  rcases bs with _ | ⟨b, bs⟩
  · exact .inr rfl
  · left; simp only [List.length_cons] at this ⊢; omega

theorem toList_loop (B : ByteArray) (i : Nat) (r : List UInt8) (hi : i ≤ B.size) :
    ByteArray.toList.loop B i r = r.reverse ++ B.data.toList.drop i := by
  induction h : B.size - i generalizing i r with
  | zero =>
    rw [ByteArray.toList.loop, if_neg (by omega)]
    have hd : B.data.toList.drop i = [] := by
      simp only [List.drop_eq_nil_iff, Array.length_toList]; simp only [ByteArray.size] at hi h; omega
    rw [hd, List.append_nil]
  | succ n ih =>
    rw [ByteArray.toList.loop, if_pos (by omega), ih (i + 1) _ (by omega) (by omega)]
    have hget : B.data.toList.drop i = B.get! i :: B.data.toList.drop (i + 1) := by
      have hlt : i < B.data.toList.length := by simp only [Array.length_toList]; simp only [ByteArray.size] at h; omega
      rw [List.drop_eq_getElem_cons hlt]
      congr 1
      cases B with
      | mk data => simp [ByteArray.get!, getElem!_pos data i (by simpa using hlt)]
    rw [hget, List.reverse_cons, List.append_assoc, List.singleton_append]

theorem toList_eq_data (B : ByteArray) : B.toList = B.data.toList := by
  rw [ByteArray.toList, toList_loop B 0 [] (Nat.zero_le _)]
  rfl

theorem toNat_valid (c : Char) : c.toNat < 0xD800 ∨ (0xDFFF < c.toNat ∧ c.toNat < 0x110000) := by
  have hv := c.valid
  simpa [UInt32.isValidChar, Nat.isValidChar] using hv

theorem byte_toNat {n : Nat} (h : n < 256) : (UInt8.ofNat n).toNat = n := by
  rw [UInt8.toNat_ofNat', Nat.mod_eq_of_lt h]

section Step

variable {B : ByteArray} {i : Nat} {c : Char} {rest : List UInt8}

theorem decodeUtf8_multi (acc : Array Char) {b : UInt8} {bs : List UInt8} {n : Nat}
    (h : B.data.toList.drop i = (b :: bs) ++ rest) (hn : bs.length = n + 1)
    (hlen : utf8Length b.toNat = n + 2) (hseq : utf8Sequence? B i (n + 2) = some c) :
    decodeUtf8 B i acc = decodeUtf8 B (i + (n + 2)) (acc.push c) := by
  have hsize : ¬ B.size < i + (n + 2) := by
    rcases size_of_drop h with hs | hs
    · simp only [List.length_append, List.length_cons] at hs; omega
    · cases hs
  rw [List.cons_append] at h
  obtain ⟨hi, hb⟩ := getElem_eq_of_drop h
  rw [decodeUtf8, dif_pos hi]
  simp only [hb, hlen, if_neg hsize, hseq]

theorem encode_two (h1 : ¬ c.toNat ≤ 0x7f) (h2 : c.toNat ≤ 0x7ff) :
    String.utf8EncodeChar c =
      [UInt8.ofNat (c.toNat / 64 % 0x20 + 0xc0), UInt8.ofNat (c.toNat % 0x40 + 0x80)] := by
  simp only [String.utf8EncodeChar, Char.toNat_val]
  rw [if_neg h1, if_pos h2]

theorem encode_three (h1 : ¬ c.toNat ≤ 0x7f) (h2 : ¬ c.toNat ≤ 0x7ff) (h3 : c.toNat ≤ 0xffff) :
    String.utf8EncodeChar c =
      [UInt8.ofNat (c.toNat / 4096 % 0x10 + 0xe0), UInt8.ofNat (c.toNat / 64 % 0x40 + 0x80),
        UInt8.ofNat (c.toNat % 0x40 + 0x80)] := by
  simp only [String.utf8EncodeChar, Char.toNat_val]
  rw [if_neg h1, if_neg h2, if_pos h3]

theorem encode_four (h1 : ¬ c.toNat ≤ 0x7f) (h2 : ¬ c.toNat ≤ 0x7ff) (h3 : ¬ c.toNat ≤ 0xffff) :
    String.utf8EncodeChar c =
      [UInt8.ofNat (c.toNat / 262144 % 0x08 + 0xf0), UInt8.ofNat (c.toNat / 4096 % 0x40 + 0x80),
        UInt8.ofNat (c.toNat / 64 % 0x40 + 0x80), UInt8.ofNat (c.toNat % 0x40 + 0x80)] := by
  simp only [String.utf8EncodeChar, Char.toNat_val]
  rw [if_neg h1, if_neg h2, if_neg h3]

theorem utf8Sequence?_two (h1 : ¬ c.toNat ≤ 0x7f) (h2 : c.toNat ≤ 0x7ff)
    (h : B.data.toList.drop i = String.utf8EncodeChar c ++ rest) : utf8Sequence? B i 2 = some c := by
  rw [encode_two h1 h2] at h
  have hg0 := get!_eq_of_drop h (k := 0) (by simp)
  have hg1 := get!_eq_of_drop h (k := 1) (by simp)
  simp only [List.cons_append, List.getElem_cons_zero, List.getElem_cons_succ] at hg0 hg1
  simp only [utf8Sequence?, hg0, hg1, byte_toNat (by omega : c.toNat / 64 % 0x20 + 0xc0 < 256),
    byte_toNat (by omega : c.toNat % 0x40 + 0x80 < 256), isContinuation]
  rw [if_pos (show (2 == 2) = true from rfl), if_pos (by simp; omega),
    show (c.toNat / 64 % 32 + 192) % 32 * 64 + (c.toNat % 64 + 128) % 64 = c.toNat by omega,
    Char.ofNat_toNat]

theorem utf8Sequence?_three (h1 : ¬ c.toNat ≤ 0x7f) (h2 : ¬ c.toNat ≤ 0x7ff) (h3 : c.toNat ≤ 0xffff)
    (h : B.data.toList.drop i = String.utf8EncodeChar c ++ rest) : utf8Sequence? B i 3 = some c := by
  have hc := toNat_valid c
  rw [encode_three h1 h2 h3] at h
  have hg0 := get!_eq_of_drop h (k := 0) (by simp)
  have hg1 := get!_eq_of_drop h (k := 1) (by simp)
  have hg2 := get!_eq_of_drop h (k := 2) (by simp)
  simp only [List.cons_append, List.getElem_cons_zero, List.getElem_cons_succ] at hg0 hg1 hg2
  simp only [utf8Sequence?, hg0, hg1, hg2, byte_toNat (by omega : c.toNat / 4096 % 0x10 + 0xe0 < 256),
    byte_toNat (by omega : c.toNat / 64 % 0x40 + 0x80 < 256),
    byte_toNat (by omega : c.toNat % 0x40 + 0x80 < 256), isContinuation]
  rw [if_neg (show ¬ (3 == 2) = true from nofun), if_pos (show (3 == 3) = true from rfl),
    if_pos ?_,
    show (c.toNat / 4096 % 16 + 224) % 16 * 4096 + (c.toNat / 64 % 64 + 128) % 64 * 64 +
      (c.toNat % 64 + 128) % 64 = c.toNat by omega,
    Char.ofNat_toNat]
  -- the second byte rules out overlong forms after 0xE0 and surrogates after 0xED
  by_cases hE0 : c.toNat / 4096 % 16 = 0
  · simp [hE0]; omega
  · by_cases hED : c.toNat / 4096 % 16 = 13
    · simp [hED]; omega
    · simp [hE0, hED]; omega

theorem utf8Sequence?_four (h1 : ¬ c.toNat ≤ 0x7f) (h2 : ¬ c.toNat ≤ 0x7ff) (h3 : ¬ c.toNat ≤ 0xffff)
    (h : B.data.toList.drop i = String.utf8EncodeChar c ++ rest) : utf8Sequence? B i 4 = some c := by
  have hc := toNat_valid c
  rw [encode_four h1 h2 h3] at h
  have hg0 := get!_eq_of_drop h (k := 0) (by simp)
  have hg1 := get!_eq_of_drop h (k := 1) (by simp)
  have hg2 := get!_eq_of_drop h (k := 2) (by simp)
  have hg3 := get!_eq_of_drop h (k := 3) (by simp)
  simp only [List.cons_append, List.getElem_cons_zero, List.getElem_cons_succ] at hg0 hg1 hg2 hg3
  simp only [utf8Sequence?, hg0, hg1, hg2, hg3,
    byte_toNat (by omega : c.toNat / 262144 % 0x08 + 0xf0 < 256),
    byte_toNat (by omega : c.toNat / 4096 % 0x40 + 0x80 < 256),
    byte_toNat (by omega : c.toNat / 64 % 0x40 + 0x80 < 256),
    byte_toNat (by omega : c.toNat % 0x40 + 0x80 < 256), isContinuation]
  rw [if_neg (show ¬ (4 == 2) = true from nofun), if_neg (show ¬ (4 == 3) = true from nofun),
    if_pos ?_,
    show (c.toNat / 262144 % 8 + 240) % 8 * 262144 + (c.toNat / 4096 % 64 + 128) % 64 * 4096 +
      (c.toNat / 64 % 64 + 128) % 64 * 64 + (c.toNat % 64 + 128) % 64 = c.toNat by omega,
    Char.ofNat_toNat]
  -- the second byte rules out overlong forms after 0xF0 and code points past U+10FFFF after 0xF4
  by_cases hF0 : c.toNat / 262144 % 8 = 0
  · simp [hF0]; omega
  · by_cases hF4 : c.toNat / 262144 % 8 = 4
    · simp [hF4]; omega
    · simp [hF0, hF4]; omega

theorem decodeUtf8_cons (acc : Array Char)
    (h : B.data.toList.drop i = String.utf8EncodeChar c ++ rest) :
    decodeUtf8 B i acc = decodeUtf8 B (i + (String.utf8EncodeChar c).length) (acc.push c) := by
  by_cases h1 : c.toNat ≤ 0x7f
  · have henc : String.utf8EncodeChar c = [UInt8.ofNat c.toNat] := by
      simp only [String.utf8EncodeChar, Char.toNat_val]
      rw [if_pos h1]
    rw [henc, List.cons_append] at h
    obtain ⟨hi, hb⟩ := getElem_eq_of_drop h
    have hlen : utf8Length (UInt8.ofNat c.toNat).toNat = 1 := by
      simp only [utf8Length, byte_toNat (by omega : c.toNat < 256)]
      rw [if_pos (by omega)]
    rw [decodeUtf8, dif_pos hi]
    simp only [hb, hlen]
    rw [byte_toNat (by omega), Char.ofNat_toNat, henc]
    rfl
  by_cases h2 : c.toNat ≤ 0x7ff
  · have hseq := utf8Sequence?_two h1 h2 h
    rw [encode_two h1 h2] at h ⊢
    refine decodeUtf8_multi acc (n := 0) h rfl ?_ hseq
    simp only [utf8Length, byte_toNat (by omega : c.toNat / 64 % 0x20 + 0xc0 < 256)]
    rw [if_neg (by omega), if_neg (by omega), if_pos (by omega)]
  by_cases h3 : c.toNat ≤ 0xffff
  · have hseq := utf8Sequence?_three h1 h2 h3 h
    rw [encode_three h1 h2 h3] at h ⊢
    refine decodeUtf8_multi acc (n := 1) h rfl ?_ hseq
    simp only [utf8Length, byte_toNat (by omega : c.toNat / 4096 % 0x10 + 0xe0 < 256)]
    rw [if_neg (by omega), if_neg (by omega), if_neg (by omega), if_pos (by omega)]
  · have hc := toNat_valid c
    have hseq := utf8Sequence?_four h1 h2 h3 h
    rw [encode_four h1 h2 h3] at h ⊢
    refine decodeUtf8_multi acc (n := 2) h rfl ?_ hseq
    simp only [utf8Length, byte_toNat (by omega : c.toNat / 262144 % 0x08 + 0xf0 < 256)]
    rw [if_neg (by omega), if_neg (by omega), if_neg (by omega), if_neg (by omega), if_pos (by omega)]

end Step

theorem decodeUtf8_of_drop {B : ByteArray} (l : List Char) (i : Nat) (acc : Array Char)
    (h : B.data.toList.drop i = l.flatMap String.utf8EncodeChar) :
    decodeUtf8 B i acc = ⟨acc ++ l.toArray, .complete⟩ := by
  induction l generalizing i acc with
  | nil =>
    have hend : ¬ i < B.size := by
      have := congrArg List.length h
      simp only [List.length_drop, Array.length_toList, List.flatMap_nil, List.length_nil] at this
      simp only [ByteArray.size]
      omega
    rw [decodeUtf8, dif_neg hend]
    simp
  | cons c l ih =>
    rw [List.flatMap_cons] at h
    rw [decodeUtf8_cons acc h, ih]
    · simp
    · rw [← List.drop_drop, h, List.drop_left]

theorem data_toUTF8 (t : String) : t.toUTF8.data.toList = t.toList.flatMap String.utf8EncodeChar := by
  rw [String.toUTF8_eq_toByteArray, ← String.utf8Encode_toList, List.utf8Encode, List.data_toByteArray]

theorem decodeUtf8_toUTF8 (t : String) : decodeUtf8 t.toUTF8 0 #[] = ⟨t.toList.toArray, .complete⟩ := by
  rw [decodeUtf8_of_drop _ 0 #[] (by rw [List.drop_zero, data_toUTF8])]
  simp

end UpnpBinding.Xml
