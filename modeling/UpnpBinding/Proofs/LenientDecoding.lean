import UpnpBinding.Proofs.Utf8
import UpnpBinding.Soap.Envelope
import Mathlib.Data.List.TakeWhile
/-!
Lenient decoding undoes UTF-8 encoding: the bytes of a text decode to the text itself, nothing
replaced. The lead byte of each character's encoding announces its length, and every byte after
it fits, the second one within the narrower ranges after 0xE0, 0xED, 0xF0 and 0xF4, because the
character is a Unicode scalar value.
-/
namespace UpnpBinding.Text

open Xml (get!_eq_of_drop getElem_eq_of_drop size_of_drop byte_toNat toNat_valid)

variable {B : ByteArray} {i : Nat}

theorem fittingAfter_of_fits {n : Nat} (hsize : i + n ≤ B.size)
    (hsecond : 1 < n → secondByteFits (B.get! i).toNat (B.get! (i + 1)).toNat = true)
    (hcont : ∀ j, 2 ≤ j → j < n → 0x80 ≤ (B.get! (i + j)).toNat ∧ (B.get! (i + j)).toNat < 0xC0) :
    fittingAfter B i n = n - 1 := by
  unfold fittingAfter
  dsimp only
  rw [List.takeWhile_eq_self_iff.mpr, List.length_map, List.length_range]
  intro j hj
  obtain ⟨k, hk, rfl⟩ := List.mem_map.mp hj
  rw [List.mem_range] at hk
  rw [if_pos (by omega)]
  by_cases h1 : k = 0
  · subst h1
    simpa using hsecond (by omega)
  · have ⟨hlo, hhi⟩ := hcont (k + 1) (by omega) (by omega)
    simp [show (k + 1 == 1) = false by simp; omega, hlo, hhi]

theorem size_le_of_drop {bs rest : List UInt8} (h : B.data.toList.drop i = bs ++ rest)
    (hbs : bs ≠ []) : i + bs.length ≤ B.size := by
  rcases size_of_drop h with hs | hs
  · rw [hs, List.length_append]
    omega
  · exact absurd (List.append_eq_nil_iff.mp hs).1 hbs

theorem decodeLenient_multi (acc : String) {b : UInt8} {bs rest : List UInt8} {n : Nat} {c : Char}
    (h : B.data.toList.drop i = (b :: bs) ++ rest) (hlen : sequenceLength b.toNat = n + 2)
    (hfit : fittingAfter B i (n + 2) = n + 1) (hval : sequenceValue B i (n + 2) = c.toNat) :
    decodeLenient B i acc = decodeLenient B (i + (n + 2)) (acc.push c) := by
  rw [List.cons_append] at h
  obtain ⟨hi, hb⟩ := getElem_eq_of_drop h
  rw [decodeLenient, dif_pos hi]
  simp only [hb, hlen, hfit, hval, Char.ofNat_toNat]
  simp [show i + 1 + (n + 1) = i + (n + 2) by omega]

section OneCharacter

variable {c : Char} {rest : List UInt8}

theorem decodeLenient_two (acc : String) (h1 : ¬ c.toNat ≤ 0x7f) (h2 : c.toNat ≤ 0x7ff)
    (h : B.data.toList.drop i = String.utf8EncodeChar c ++ rest) :
    decodeLenient B i acc = decodeLenient B (i + 2) (acc.push c) := by
  rw [Xml.encode_two h1 h2] at h
  have hg0 := get!_eq_of_drop h (k := 0) (by simp)
  have hg1 := get!_eq_of_drop h (k := 1) (by simp)
  simp only [List.cons_append, List.getElem_cons_zero, List.getElem_cons_succ, Nat.add_zero]
    at hg0 hg1
  have hb0 := byte_toNat (show c.toNat / 64 % 0x20 + 0xc0 < 256 by omega)
  have hb1 := byte_toNat (show c.toNat % 0x40 + 0x80 < 256 by omega)
  have hsize := size_le_of_drop h (by simp)
  simp only [List.length_cons, List.length_nil] at hsize
  refine decodeLenient_multi acc (n := 0) h ?_ ?_ ?_
  · rw [hb0, sequenceLength, if_neg (by omega), if_neg (by omega), if_pos (by omega)]
  · refine fittingAfter_of_fits hsize (fun _ => ?_) (fun j hj hj' => by omega)
    rw [hg0, hg1, hb0, hb1]
    simp only [secondByteFits, beq_iff_eq]
    split_ifs <;> simp only [Bool.and_eq_true, decide_eq_true_eq] <;> omega
  · simp [sequenceValue, hg0, hg1]
    omega

theorem decodeLenient_three (acc : String) (h1 : ¬ c.toNat ≤ 0x7f) (h2 : ¬ c.toNat ≤ 0x7ff)
    (h3 : c.toNat ≤ 0xffff) (h : B.data.toList.drop i = String.utf8EncodeChar c ++ rest) :
    decodeLenient B i acc = decodeLenient B (i + 3) (acc.push c) := by
  have hc := toNat_valid c
  rw [Xml.encode_three h1 h2 h3] at h
  have hg0 := get!_eq_of_drop h (k := 0) (by simp)
  have hg1 := get!_eq_of_drop h (k := 1) (by simp)
  have hg2 := get!_eq_of_drop h (k := 2) (by simp)
  simp only [List.cons_append, List.getElem_cons_zero, List.getElem_cons_succ, Nat.add_zero]
    at hg0 hg1 hg2
  have hb0 := byte_toNat (show c.toNat / 4096 % 0x10 + 0xe0 < 256 by omega)
  have hb1 := byte_toNat (show c.toNat / 64 % 0x40 + 0x80 < 256 by omega)
  have hb2 := byte_toNat (show c.toNat % 0x40 + 0x80 < 256 by omega)
  have hsize := size_le_of_drop h (by simp)
  simp only [List.length_cons, List.length_nil] at hsize
  refine decodeLenient_multi acc (n := 1) h ?_ ?_ ?_
  · rw [hb0, sequenceLength, if_neg (by omega), if_neg (by omega), if_neg (by omega),
      if_pos (by omega)]
  · refine fittingAfter_of_fits hsize (fun _ => ?_) (fun j hj hj' => ?_)
    · -- the second byte rules out overlong forms after 0xE0 and surrogates after 0xED
      rw [hg0, hg1, hb0, hb1]
      simp only [secondByteFits, beq_iff_eq]
      split_ifs <;> simp only [Bool.and_eq_true, decide_eq_true_eq] <;> omega
    · obtain rfl : j = 2 := by omega
      rw [hg2, hb2]
      omega
  · simp [sequenceValue, hg0, hg1, hg2, show List.range 2 = [0, 1] from rfl]
    omega

theorem decodeLenient_four (acc : String) (h1 : ¬ c.toNat ≤ 0x7f) (h2 : ¬ c.toNat ≤ 0x7ff)
    (h3 : ¬ c.toNat ≤ 0xffff) (h : B.data.toList.drop i = String.utf8EncodeChar c ++ rest) :
    decodeLenient B i acc = decodeLenient B (i + 4) (acc.push c) := by
  have hc := toNat_valid c
  rw [Xml.encode_four h1 h2 h3] at h
  have hg0 := get!_eq_of_drop h (k := 0) (by simp)
  have hg1 := get!_eq_of_drop h (k := 1) (by simp)
  have hg2 := get!_eq_of_drop h (k := 2) (by simp)
  have hg3 := get!_eq_of_drop h (k := 3) (by simp)
  simp only [List.cons_append, List.getElem_cons_zero, List.getElem_cons_succ, Nat.add_zero]
    at hg0 hg1 hg2 hg3
  have hb0 := byte_toNat (show c.toNat / 262144 % 0x08 + 0xf0 < 256 by omega)
  have hb1 := byte_toNat (show c.toNat / 4096 % 0x40 + 0x80 < 256 by omega)
  have hb2 := byte_toNat (show c.toNat / 64 % 0x40 + 0x80 < 256 by omega)
  have hb3 := byte_toNat (show c.toNat % 0x40 + 0x80 < 256 by omega)
  have hsize := size_le_of_drop h (by simp)
  simp only [List.length_cons, List.length_nil] at hsize
  refine decodeLenient_multi acc (n := 2) h ?_ ?_ ?_
  · rw [hb0, sequenceLength, if_neg (by omega), if_neg (by omega), if_neg (by omega),
      if_neg (by omega), if_pos (by omega)]
  · refine fittingAfter_of_fits hsize (fun _ => ?_) (fun j hj hj' => ?_)
    · -- the second byte rules out overlong forms after 0xF0 and code points past U+10FFFF
      -- after 0xF4
      rw [hg0, hg1, hb0, hb1]
      simp only [secondByteFits, beq_iff_eq]
      split_ifs <;> simp only [Bool.and_eq_true, decide_eq_true_eq] <;> omega
    · rcases (show j = 2 ∨ j = 3 by omega) with rfl | rfl
      · rw [hg2, hb2]
        omega
      · rw [hg3, hb3]
        omega
  · simp [sequenceValue, hg0, hg1, hg2, hg3, show List.range 3 = [0, 1, 2] from rfl]
    omega

theorem decodeLenient_cons (acc : String)
    (h : B.data.toList.drop i = String.utf8EncodeChar c ++ rest) :
    decodeLenient B i acc =
      decodeLenient B (i + (String.utf8EncodeChar c).length) (acc.push c) := by
  by_cases h1 : c.toNat ≤ 0x7f
  · have henc : String.utf8EncodeChar c = [UInt8.ofNat c.toNat] := by
      simp only [String.utf8EncodeChar, Char.toNat_val]
      rw [if_pos h1]
    rw [henc, List.cons_append] at h
    obtain ⟨hi, hb⟩ := getElem_eq_of_drop h
    have hlen : sequenceLength (UInt8.ofNat c.toNat).toNat = 1 := by
      rw [byte_toNat (by omega), sequenceLength, if_pos (by omega)]
    rw [decodeLenient, dif_pos hi]
    simp only [hb, hlen, beq_self_eq_true, if_true]
    rw [byte_toNat (by omega), Char.ofNat_toNat, henc]
    rfl
  by_cases h2 : c.toNat ≤ 0x7ff
  · rw [decodeLenient_two acc h1 h2 h, Xml.encode_two h1 h2]
    rfl
  by_cases h3 : c.toNat ≤ 0xffff
  · rw [decodeLenient_three acc h1 h2 h3 h, Xml.encode_three h1 h2 h3]
    rfl
  · rw [decodeLenient_four acc h1 h2 h3 h, Xml.encode_four h1 h2 h3]
    rfl

end OneCharacter

theorem decodeLenient_of_drop (l : List Char) (i : Nat) (acc : String)
    (h : B.data.toList.drop i = l.flatMap String.utf8EncodeChar) :
    decodeLenient B i acc = acc ++ String.ofList l := by
  induction l generalizing i acc with
  | nil =>
    have hend : ¬ i < B.size := by
      have := congrArg List.length h
      simp only [List.length_drop, Array.length_toList, List.flatMap_nil, List.length_nil] at this
      simp only [ByteArray.size]
      omega
    rw [decodeLenient, dif_neg hend]
    simp
  | cons c l ih =>
    rw [List.flatMap_cons] at h
    rw [decodeLenient_cons acc h, ih, ← String.toList_inj]
    · simp
    · rw [← List.drop_drop, h, List.drop_left]

theorem utf8Lenient_toUTF8 (t : String) : utf8Lenient t.toUTF8 = t := by
  rw [utf8Lenient, decodeLenient_of_drop t.toList 0 "" (by rw [List.drop_zero, Xml.data_toUTF8])]
  simp

end UpnpBinding.Text
