import UpnpBinding.Proofs.OddByte
import UpnpBinding.Proofs.PrologWalk
import UpnpBinding.Proofs.XmlScan
import UpnpBinding.Scpd.Reader
/-!
Service descriptions in UTF-16, little-endian. Padding is cut from the end of a description's
bytes before they are read, one byte at a time and whatever the encoding. In UTF-16LE a
character below U+0100 is its own byte and then a zero byte: the zero byte is cut as padding,
and the byte before it is left over. A description whose last character before its padding lies
in that range, as the `>` that closes every element does, is refused for the byte left over,
though its text, read as text, may be a description.
-/
namespace UpnpBinding

namespace Xml

/-- The UTF-16 code units of a character: the character itself in the basic plane, a pair of
surrogates above it, the high one first. -/
def utf16Units (c : Char) : List Nat :=
  if c.toNat < 0x10000 then [c.toNat]
  else [0xD800 + (c.toNat - 0x10000) / 0x400, 0xDC00 + (c.toNat - 0x10000) % 0x400]

def unitBytesLE (u : Nat) : List UInt8 :=
  [UInt8.ofNat (u % 0x100), UInt8.ofNat (u / 0x100)]

def utf16leChar (c : Char) : List UInt8 :=
  (utf16Units c).flatMap unitBytesLE

def encodeUtf16le (t : String) : ByteArray :=
  ⟨(t.toList.flatMap utf16leChar).toArray⟩

theorem utf16leChar_of_lt {c : Char} (h : c.toNat < 0x10000) :
    utf16leChar c = unitBytesLE c.toNat := by
  simp [utf16leChar, utf16Units, h]

theorem utf16leChar_of_ge {c : Char} (h : ¬ c.toNat < 0x10000) :
    utf16leChar c = unitBytesLE (0xD800 + (c.toNat - 0x10000) / 0x400) ++
      unitBytesLE (0xDC00 + (c.toNat - 0x10000) % 0x400) := by
  simp [utf16leChar, utf16Units, h]

theorem utf16leChar_of_lt_0x100 {c : Char} (h : c.toNat < 0x100) :
    utf16leChar c = [UInt8.ofNat c.toNat, 0] := by
  rw [utf16leChar_of_lt (by omega), unitBytesLE, Nat.mod_eq_of_lt (by omega),
    Nat.div_eq_of_lt (by omega)]
  rfl

section Decoding

variable {B : ByteArray} {i : Nat} {rest : List UInt8}

theorem unit16_of_drop {u : Nat} (hu : u < 0x10000)
    (h : B.data.toList.drop i = unitBytesLE u ++ rest) : unit16 false B i = u := by
  have hg0 := get!_eq_of_drop h (k := 0) (by simp [unitBytesLE])
  have hg1 := get!_eq_of_drop h (k := 1) (by simp [unitBytesLE])
  simp only [unitBytesLE, List.cons_append, List.getElem_cons_zero, List.getElem_cons_succ,
    Nat.add_zero] at hg0 hg1
  simp only [unit16, hg0, hg1, byte_toNat (show u % 0x100 < 256 by omega),
    byte_toNat (show u / 0x100 < 256 by omega), Bool.false_eq_true, if_false]
  omega

theorem decodeUtf16_cons (acc : Array Char) {c : Char}
    (h : B.data.toList.drop i = utf16leChar c ++ rest) :
    decodeUtf16 false B i acc = decodeUtf16 false B (i + (utf16leChar c).length) (acc.push c) := by
  have hc := toNat_valid c
  by_cases hbmp : c.toNat < 0x10000
  · rw [utf16leChar_of_lt hbmp] at h ⊢
    have hu := unit16_of_drop hbmp h
    have hi : i + 1 < B.size := by
      rcases size_of_drop h with hs | hs
      · simp only [unitBytesLE, List.cons_append, List.length_cons] at hs
        omega
      · simp [unitBytesLE] at hs
    rw [decodeUtf16, dif_pos hi]
    simp only [hu, show (decide (c.toNat < 0xD800) || decide (0xE000 ≤ c.toNat)) = true by
      simp only [Bool.or_eq_true, decide_eq_true_eq]; omega, if_true, Char.ofNat_toNat]
    rfl
  · -- the high surrogate carries the upper ten bits of the offset from U+10000, the low one the rest
    have hv : c.toNat - 0x10000 < 0x100000 := by omega
    rw [utf16leChar_of_ge hbmp] at h ⊢
    rw [List.append_assoc] at h
    have hhi := unit16_of_drop (show 0xD800 + (c.toNat - 0x10000) / 0x400 < 0x10000 by omega) h
    have hlo := unit16_of_drop (i := i + 2)
      (show 0xDC00 + (c.toNat - 0x10000) % 0x400 < 0x10000 by omega)
      (by rw [← List.drop_drop, h]; rfl)
    have hi : i + 3 < B.size := by
      rcases size_of_drop h with hs | hs
      · simp only [unitBytesLE, List.cons_append, List.nil_append, List.length_cons] at hs
        omega
      · simp [unitBytesLE] at hs
    rw [decodeUtf16, dif_pos (by omega)]
    simp only [hhi, hlo]
    rw [if_neg (by simp only [Bool.or_eq_true, decide_eq_true_eq]; omega), if_neg (by omega),
      if_pos hi, surrogatePair,
      show 0x10000 + (0xD800 + (c.toNat - 0x10000) / 0x400) % 0x400 * 0x400 +
        (0xDC00 + (c.toNat - 0x10000) % 0x400) % 0x400 = c.toNat by omega, Char.ofNat_toNat]
    rfl

theorem decodeUtf16_of_drop {b : UInt8} (l : List Char) (i : Nat) (acc : Array Char)
    (h : B.data.toList.drop i = l.flatMap utf16leChar ++ [b]) :
    decodeUtf16 false B i acc = ⟨acc ++ l.toArray, .oddByte⟩ := by
  induction l generalizing i acc with
  | nil =>
    rw [List.flatMap_nil, List.nil_append] at h
    obtain ⟨hi, -⟩ := getElem_eq_of_drop h
    have hend : ¬ i + 1 < B.size := by
      rcases size_of_drop h with hs | hs
      · simp only [List.length_singleton] at hs
        omega
      · cases hs
    rw [decodeUtf16, dif_neg hend, if_pos hi]
    simp
  | cons c l ih =>
    rw [List.flatMap_cons, List.append_assoc] at h
    rw [decodeUtf16_cons acc h, ih]
    · simp
    · rw [← List.drop_drop, h, List.drop_left]

end Decoding

namespace Source

variable {s : Source} {i : Nat}

theorem xmlDeclaration_encoding {l : Char} {e rest : List Char} (hl : isAsciiLetter l = true)
    (he : ∀ x ∈ l :: e, x.toNat < 0x80 ∧ x ≠ '"' ∧ isPseudoValueChar x = true)
    (h : s.Reads i ('<' :: '?' :: 'x' :: 'm' :: 'l' :: ' ' :: 'v' :: 'e' :: 'r' :: 's' :: 'i' ::
      'o' :: 'n' :: '=' :: '"' :: '1' :: '.' :: '0' :: '"' :: ' ' :: 'e' :: 'n' :: 'c' :: 'o' ::
      'd' :: 'i' :: 'n' :: 'g' :: '=' :: '"' :: (l :: e ++ '"' :: '?' :: '>' :: rest))) :
    s.xmlDeclaration i (i + e.length + 34) =
      .ok ⟨some (String.ofList (l :: e), i + 30), false⟩ := by
  have h5 : s.Reads (i + 5) (' ' :: (['v', 'e', 'r', 's', 'i', 'o', 'n'] ++ '=' :: '"' ::
      (['1', '.', '0'] ++ '"' :: ' ' :: 'e' :: 'n' :: 'c' :: 'o' :: 'd' :: 'i' :: 'n' :: 'g' ::
        '=' :: '"' :: (l :: e ++ '"' :: '?' :: '>' :: rest)))) := by
    have h5 := ((reads_append (u := ['<', '?', 'x', 'm', 'l'])).mp h).2
    simpa using h5
  have h19 : s.Reads (i + 19) (' ' :: (['e', 'n', 'c', 'o', 'd', 'i', 'n', 'g'] ++ '=' :: '"' ::
      (l :: e ++ '"' :: '?' :: '>' :: rest))) := by
    have h19 := ((reads_append (u := ['<', '?', 'x', 'm', 'l', ' ', 'v', 'e', 'r', 's', 'i', 'o',
      'n', '=', '"', '1', '.', '0', '"'])).mp h).2
    simpa using h19
  have hfirst : s.pseudoAttribute (i + 5) (i + e.length + 32) =
      .ok (some ⟨i + 6, i + 13, i + 15, i + 18, i + 19⟩) := by
    rw [pseudoAttribute_of_reads h5 (forall_mem_of_all_decide rfl) (by decide) (.inl rfl)
      (forall_mem_of_all_decide rfl) (by simp; omega)]
    rfl
  have hversion : s.slice (i + 6) (i + 13) = "version" :=
    slice_of_reads (reads_append.mp (reads_cons.mp h5).2).1
  have hsecond : s.pseudoAttribute (i + 19) (i + e.length + 32) =
      .ok (some ⟨i + 20, i + 28, i + 30, i + e.length + 31, i + e.length + 32⟩) := by
    rw [pseudoAttribute_of_reads h19 (forall_mem_of_all_decide rfl) (by decide) (.inl rfl) he
      (by simp; omega)]
    simp only [Except.ok.injEq, Option.some.injEq, PseudoAttribute.mk.injEq, List.length_cons,
      List.length_nil]
    exact ⟨trivial, trivial, trivial, by omega, by omega⟩
  have hname : s.slice (i + 20) (i + 28) = "encoding" :=
    slice_of_reads (reads_append.mp (reads_cons.mp h19).2).1
  have hvalue : s.Reads (i + 30) (l :: e) := by
    have := (reads_cons.mp (reads_cons.mp (reads_append.mp (reads_cons.mp h19).2).2).2).2
    exact (reads_append.mp (by simpa using this)).1
  have hletter : s.asciiAt? (i + 30) (i + e.length + 32) = some l :=
    asciiAt?_of_reads hvalue (by omega) (he l List.mem_cons_self).1
  have hencoding : s.slice (i + 30) (i + e.length + 31) = String.ofList (l :: e) := by
    rw [show i + e.length + 31 = i + 30 + (l :: e).length by simp; omega]
    exact slice_of_reads hvalue
  have hlast : s.pseudoAttribute (i + e.length + 32) (i + e.length + 32) = .ok none := by
    simp [pseudoAttribute, pure, Except.pure]
  unfold xmlDeclaration
  simp only [show i + e.length + 34 - 2 = i + e.length + 32 by omega, hfirst, pseudoNameIs,
    hversion, hsecond, hname, hletter, hl, hlast, pseudoValue, hencoding, pure, Except.pure, bind,
    Except.bind, beq_self_eq_true, Bool.not_true, Bool.false_eq_true, if_false, if_true]

end Source

namespace Document

theorem isPaddingByte_ofNat {c : Char} (hc : c.toNat < 0x100) :
    isPaddingByte (UInt8.ofNat c.toNat) = Text.isDocumentPadding c := by
  -- both sides compare the same number with the same five values
  have hbyte (k : UInt8) : (UInt8.ofNat c.toNat == k) = (c.toNat == k.toNat) := by
    simp [← UInt8.toNat_inj, Nat.mod_eq_of_lt (show c.toNat < 256 by omega)]
  have hchar (d : Char) : (c == d) = (c.toNat == d.toNat) := by
    simp [← Char.toNat_inj]
  simp only [isPaddingByte, Text.isDocumentPadding, hbyte, hchar]
  rfl

theorem toNat_lt_of_isDocumentPadding {c : Char} (h : Text.isDocumentPadding c = true) :
    c.toNat < 0x100 := by
  simp only [Text.isDocumentPadding, Bool.or_eq_true, beq_iff_eq] at h
  rcases h with ((((rfl | rfl) | rfl) | rfl) | h)
  · decide
  · decide
  · decide
  · decide
  · omega

theorem isPaddingByte_of_mem {w : List Char} (hw : ∀ d ∈ w, Text.isDocumentPadding d = true)
    {x : UInt8} (hx : x ∈ w.flatMap utf16leChar) : isPaddingByte x = true := by
  obtain ⟨d, hd, hx⟩ := List.mem_flatMap.mp hx
  have hlt := toNat_lt_of_isDocumentPadding (hw d hd)
  rw [utf16leChar_of_lt_0x100 hlt] at hx
  rcases List.mem_pair.mp hx with rfl | rfl
  · rw [isPaddingByte_ofNat hlt, hw d hd]
  · rfl

theorem paddedEnd_of_padding {B : ByteArray} {k n : Nat} (hk : k ≤ n)
    (h : ∀ j, k ≤ j → j < n → isPaddingByte (B.get! j) = true) : paddedEnd B n = paddedEnd B k := by
  induction n with
  | zero => rw [Nat.le_zero.mp hk]
  | succ n ih =>
    by_cases hkn : k = n + 1
    · rw [hkn]
    · rw [paddedEnd, if_pos (h n (by omega) (by omega))]
      exact ih (by omega) fun j h1 h2 => h j h1 (by omega)

theorem paddedEnd_kept {B : ByteArray} {n : Nat} (h : isPaddingByte (B.get! n) = false) :
    paddedEnd B (n + 1) = n + 1 := by
  rw [paddedEnd, if_neg (by rw [h]; decide)]

theorem trimEnd_encodeUtf16le {t : String} {u w : List Char} {c : Char}
    (ht : t.toList = u ++ c :: w) (hc : c.toNat < 0x100)
    (hpad : Text.isDocumentPadding c = false) (hw : ∀ d ∈ w, Text.isDocumentPadding d = true) :
    (bytes (encodeUtf16le t)).trimEnd =
      bytes ⟨(u.flatMap utf16leChar ++ [UInt8.ofNat c.toNat]).toArray⟩ := by
  set B := encodeUtf16le t
  set P := u.flatMap utf16leChar
  have hB : B.data.toList.drop 0 = P ++ UInt8.ofNat c.toNat :: (0 :: w.flatMap utf16leChar) := by
    simp [B, P, encodeUtf16le, ht, List.flatMap_append, utf16leChar_of_lt_0x100 hc]
  have hsize : B.size = P.length + 2 + (w.flatMap utf16leChar).length := by
    have := congrArg List.length hB
    simp only [List.drop_zero, Array.length_toList, List.length_append, List.length_cons] at this
    simp only [ByteArray.size]
    omega
  -- the zero byte of the character and every byte after it are cut, and its first byte is kept
  have hcut : ∀ j, P.length + 1 ≤ j → j < B.size → isPaddingByte (B.get! j) = true := by
    intro j h1 h2
    have hget := get!_eq_of_drop hB (k := j)
      (by rw [List.length_append, List.length_cons, List.length_cons]; omega)
    rw [Nat.zero_add] at hget
    rw [hget, List.getElem_append_right (by omega), List.getElem_cons]
    split
    · omega
    · rw [List.getElem_cons]
      split
      · rfl
      · exact isPaddingByte_of_mem hw (List.getElem_mem _)
  have hkept : isPaddingByte (B.get! P.length) = false := by
    have hget := get!_eq_of_drop hB (k := P.length) (by simp)
    rw [Nat.zero_add, List.getElem_append_right (by omega)] at hget
    simp only [Nat.sub_self, List.getElem_cons_zero] at hget
    rw [hget, isPaddingByte_ofNat hc, hpad]
  have hend : paddedEnd B B.size = P.length + 1 := by
    rw [paddedEnd_of_padding (by omega) hcut, paddedEnd_kept hkept]
  simp only [trimEnd, hend]
  refine congrArg bytes (ByteArray.ext ?_)
  rw [ByteArray.data_extract, ← Array.toList_inj, Array.toList_extract, List.extract_eq_take_drop,
    Nat.sub_zero, List.drop_zero, ← List.drop_zero (l := B.data.toList), hB,
    List.take_length_add_append]
  rfl

end Document

namespace Document

theorem detect_utf16le {B : ByteArray} {rest : List UInt8}
    (h : B.data.toList.drop 0 = 0x3C :: 0 :: rest) : Encoding.detect B = .utf16 false := by
  have h0 := get!_eq_of_drop h (k := 0) (by simp)
  have h1 := get!_eq_of_drop h (k := 1) (by simp)
  have hsize : ¬ B.size < 2 := by
    rcases size_of_drop h with hs | hs
    · simp only [List.length_cons] at hs
      omega
    · cases hs
  unfold Encoding.detect
  rw [if_neg hsize, Nat.zero_add] at *
  rw [h0, h1]
  rfl

theorem read_utf16le_eq {B : ByteArray} {src : Source} {rest : List UInt8} {u : List Char}
    (hfront : B.data.toList.drop 0 = 0x3C :: 0 :: rest)
    (hdec : (Encoding.utf16 false).decodeFrom B 0 #[] = src)
    (hsrc : src.Reads 0 ('<' :: '?' :: 'x' :: 'm' :: 'l' :: ' ' :: 'v' :: 'e' :: 'r' :: 's' :: 'i' ::
      'o' :: 'n' :: '=' :: '"' :: '1' :: '.' :: '0' :: '"' :: ' ' :: 'e' :: 'n' :: 'c' :: 'o' ::
      'd' :: 'i' :: 'n' :: 'g' :: '=' :: '"' :: 'U' :: 'T' :: 'F' :: '-' :: '1' :: '6' :: 'L' ::
      'E' :: '"' :: '?' :: '>' :: u)) :
    (bytes B).read = src.prolog (Dtd.empty false) none .opening (src.size + 2) 41 := by
  have hund : undecided B = false :=
    undecided_cons_cons (by rw [toList_eq_data, ← List.drop_zero (l := B.data.toList), hfront])
      fun h => absurd h.1 (by decide)
  have hfirst : src.chars[0]? = some '<' := by
    obtain ⟨h0, hc⟩ := Source.getElem_of_reads hsrc
    simp [hc, h0]
  have hins : src.instruction 2 = .token .declaration 41 :=
    Source.instruction_xml (w := ['v', 'e', 'r', 's', 'i', 'o', 'n', '=', '"', '1', '.', '0', '"',
      ' ', 'e', 'n', 'c', 'o', 'd', 'i', 'n', 'g', '=', '"', 'U', 'T', 'F', '-', '1', '6', 'L', 'E',
      '"']) (Source.reads_cons.mp (Source.reads_cons.mp hsrc).2).2 (forall_mem_of_all_decide rfl)
  have hdecl : src.xmlDeclaration 0 41 =
      .ok ⟨some (String.ofList ['U', 'T', 'F', '-', '1', '6', 'L', 'E'], 30), false⟩ :=
    Source.xmlDeclaration_encoding (e := ['T', 'F', '-', '1', '6', 'L', 'E']) rfl
      (forall_mem_of_all_decide rfl) hsrc
  have hkeep : (Encoding.utf16 false).declared (String.ofList ['U', 'T', 'F', '-', '1', '6', 'L', 'E']) =
      .keep := by
    decide +kernel
  have hbom : (some '<' == some '\uFEFF') = false := by decide
  unfold read
  simp only [raw, followsDeclaration, hund, detect_utf16le hfront, hdec, Bool.false_eq_true,
    if_false, hfirst, hbom, Source.peek_of_reads hsrc (by decide),
    Source.peek_of_reads (Source.reads_cons.mp hsrc).2 (by decide), Nat.zero_add, hins, hdecl, hkeep,
    beq_self_eq_true, Bool.and_self, if_true, Bool.not_true, pure, Except.pure, bind, Except.bind]

theorem read_utf16le_oddByte {B : ByteArray} {u : List Char} {b : UInt8}
    (hB : B.data.toList =
      ("<?xml version=\"1.0\" encoding=\"UTF-16LE\"?>".toList ++ u).flatMap utf16leChar ++ [b])
    (root : Element) : (bytes B).read ≠ .ok root := by
  set d := "<?xml version=\"1.0\" encoding=\"UTF-16LE\"?>".toList with hd
  set src : Source := ⟨(d ++ u).toArray, .oddByte⟩
  have hdec : (Encoding.utf16 false).decodeFrom B 0 #[] = src := by
    rw [Encoding.decodeFrom, decodeUtf16_of_drop (d ++ u) 0 #[] (by rw [List.drop_zero, hB])]
    simp [src]
  have hsrc : src.Reads 0 (d ++ u) := Source.reads_iff.mpr ⟨[], by simp [src]⟩
  -- the first two bytes are those of `<`
  have hfront : B.data.toList.drop 0 = 0x3C :: 0 :: ((d.tail ++ u).flatMap utf16leChar ++ [b]) := by
    rw [List.drop_zero, hB, hd]
    rfl
  rw [read_utf16le_eq hfront hdec (by simpa [hd] using hsrc)]
  exact Source.prolog_ne_ok rfl _ _ _ _ root

end Document

end Xml

/-- A service description declared and encoded in UTF-16LE is refused as unreadable when its text
ends in a character below U+0100 other than padding, and then padding: cutting padding from its
bytes takes the zero byte of that character and leaves the byte before it over. -/
theorem utf16le_description_refused {t : String} {u w : List Char} {c : Char}
    (ht : t.toList = u ++ c :: w) (hc : c.toNat < 0x100)
    (hpad : Text.isDocumentPadding c = false) (hw : ∀ d ∈ w, Text.isDocumentPadding d = true) :
    ∃ e, Scpd.read (.bytes (Xml.encodeUtf16le
      ("<?xml version=\"1.0\" encoding=\"UTF-16LE\"?>" ++ t))) = .error (.unreadable e) := by
  have htext : ("<?xml version=\"1.0\" encoding=\"UTF-16LE\"?>" ++ t).toList =
      ("<?xml version=\"1.0\" encoding=\"UTF-16LE\"?>".toList ++ u) ++ c :: w := by
    rw [String.toList_append, ht, List.append_assoc]
  unfold Scpd.read
  rw [Xml.Document.trimEnd_encodeUtf16le htext hc hpad hw]
  cases h : (Xml.Document.bytes _).read with
  | ok root => exact absurd h (Xml.Document.read_utf16le_oddByte rfl root)
  | error e => exact ⟨e, rfl⟩

theorem empty_description_refused_in_utf16le :
    "<scpd/>".toList = "<scpd/".toList ++ ['>'] ∧ '>'.toNat < 0x100 ∧
      Text.isDocumentPadding '>' = false ∧
      (∀ d ∈ ([] : List Char), Text.isDocumentPadding d = true) ∧
      ∃ e, Scpd.read (.bytes (Xml.encodeUtf16le
        ("<?xml version=\"1.0\" encoding=\"UTF-16LE\"?>" ++ "<scpd/>"))) = .error (.unreadable e) :=
  have ht : "<scpd/>".toList = "<scpd/".toList ++ ['>'] := by simp
  have hw : ∀ d ∈ ([] : List Char), Text.isDocumentPadding d = true := by simp
  ⟨ht, by decide, by decide, hw, utf16le_description_refused ht (by decide) (by decide) hw⟩

end UpnpBinding
