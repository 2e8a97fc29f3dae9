import UpnpBinding.Proofs.DoubleText
import UpnpBinding.DataType.Wire
import UpnpBinding.Xml.Names
/-!
Values written as wire texts and read back. The decimal text of an integer and the text of a
double hold only ASCII digits, signs, the point, the exponent mark and the letters of `inf` and
`nan`: no blank for the reader to trim and nothing a document may not hold. An integer in the
range of its type reads back as itself, a double as itself or, a NaN, as a NaN; `1` and `0` read
as the truth values, a text as itself (an empty one as the empty text), and a URL as itself when
its text splits back to it.

Checking a value that was itself read from a wire text takes it as it is, so a request read from
an envelope is written with the texts of the values it holds.
-/
namespace UpnpBinding

/-- The characters of number texts: ASCII digits, signs, the point, the exponent mark and the
letters of `inf` and `nan`. -/
def isNumeralChar (c : Char) : Bool :=
  c.isDigit || c == '-' || c == '+' || c == '.' || c == 'e' || c == 'i' || c == 'n' || c == 'f' ||
    c == 'a'

theorem isNumeralChar_toNat {c : Char} (h : isNumeralChar c = true) : 43 ≤ c.toNat ∧ c.toNat < 0x7F := by
  unfold isNumeralChar at h
  simp only [Bool.or_eq_true, beq_iff_eq] at h
  rcases h with (((((((hd | rfl) | rfl) | rfl) | rfl) | rfl) | rfl) | rfl) | rfl
  · have := Reading.toNat_of_isDigit hd
    omega
  all_goals decide

theorem isBlank_of_numeral {c : Char} (h : isNumeralChar c = true) : Text.isBlank c = false := by
  have := isNumeralChar_toNat h
  unfold Text.isBlank
  simp only [Bool.or_eq_false_iff, Bool.and_eq_false_iff, decide_eq_false_iff_not, beq_eq_false_iff_ne, ne_eq]
  omega

theorem isDocumentChar_of_numeral {c : Char} (h : isNumeralChar c = true) : Xml.isDocumentChar c = true := by
  have := isNumeralChar_toNat h
  unfold Xml.isDocumentChar
  rw [if_neg (by omega)]
  simp only [bne_iff_ne, ne_eq, Bool.and_eq_true]
  omega

theorem numeral_of_isDigit {c : Char} (h : c.isDigit = true) : isNumeralChar c = true := by
  simp [isNumeralChar, h]

theorem intText_numeral (n : Int) : ∀ c ∈ (intText n).toList, isNumeralChar c = true := by
  have hd : ∀ c ∈ (natDigits n.natAbs).toList, isNumeralChar c = true := by
    intro c hc
    simp only [natDigits, String.toList_ofList] at hc
    exact numeral_of_isDigit (Nat.isDigit_of_mem_toDigits (by norm_num) (by norm_num) hc)
  unfold intText
  split
  · simp only [String.toList_append, List.mem_append]
    rintro c (hc | hc)
    · simp at hc; subst hc; rfl
    · exact hd c hc
  · exact hd

theorem numeral_of_all {l : List Char} (h : l.all isNumeralChar = true) {c : Char} (hc : c ∈ l) :
    isNumeralChar c = true :=
  List.all_eq_true.mp h c hc

theorem mantissa_numeral {ds : List Char} (hdig : ∀ c ∈ ds, isNumeralChar c = true) {c : Char}
    (hc : c ∈ (match ds with
      | [] => "0"
      | [d] => String.ofList [d]
      | d :: rest => String.ofList (d :: '.' :: rest)).toList) : isNumeralChar c = true := by
  split at hc
  · exact numeral_of_all rfl hc
  · simp only [String.toList_ofList, List.mem_singleton] at hc
    subst hc
    exact hdig _ List.mem_cons_self
  · simp only [String.toList_ofList, List.mem_cons] at hc
    rcases hc with rfl | rfl | hm
    · exact hdig _ List.mem_cons_self
    · rfl
    · exact hdig _ (List.mem_cons_of_mem _ hm)

theorem layout_numeral {ds : List Char} (hds : ∀ c ∈ ds, c.isDigit = true) (p : Int) :
    ∀ c ∈ (DoubleFormat.standard.layout ds p).toList, isNumeralChar c = true := by
  have hdig : ∀ c ∈ ds, isNumeralChar c = true := fun c hc => numeral_of_isDigit (hds c hc)
  have hzeros : ∀ n, ∀ c ∈ List.replicate n '0', isNumeralChar c = true := by
    intro n c hc
    rw [List.eq_of_mem_replicate hc]
    rfl
  have hexp : ∀ c ∈ Nat.toDigits 10 p.natAbs, isNumeralChar c = true := fun c hc =>
    numeral_of_isDigit (Nat.isDigit_of_mem_toDigits (by norm_num) (by norm_num) hc)
  unfold DoubleFormat.layout
  intro c hc
  split_ifs at hc with hsci hneg hneg
  · -- exponent form, negative exponent
    simp only [String.toList_append, String.toList_ofList, List.mem_append] at hc
    rcases hc with ((hm | he) | hs) | hz | hx
    · exact mantissa_numeral hdig hm
    · exact numeral_of_all rfl he
    · exact numeral_of_all rfl hs
    · exact hzeros _ c hz
    · exact hexp c hx
  · -- exponent form, positive exponent
    simp only [String.toList_append, String.toList_ofList, List.mem_append] at hc
    rcases hc with ((hm | he) | hs) | hz | hx
    · exact mantissa_numeral hdig hm
    · exact numeral_of_all rfl he
    · exact numeral_of_all rfl hs
    · exact hzeros _ c hz
    · exact hexp c hx
  · -- below one: a point and leading zeros
    simp only [String.toList_append, String.toList_ofList, List.mem_append] at hc
    rcases hc with hc | hz | hd
    · exact numeral_of_all rfl hc
    · exact hzeros _ c hz
    · exact hdig c hd
  · dsimp only at hc
    split at hc
    · simp only [String.toList_append, String.toList_ofList, List.mem_append] at hc
      rcases hc with (hd | hz) | hc
      · exact hdig c hd
      · exact hzeros _ c hz
      · exact numeral_of_all rfl hc
    · simp only [String.toList_append, String.toList_ofList, List.mem_append] at hc
      rcases hc with (hd | hc) | hd
      · exact hdig c (List.mem_of_mem_take hd)
      · exact numeral_of_all rfl hc
      · exact hdig c (List.mem_of_mem_drop hd)

theorem Double.text_numeral (x : Double) : ∀ c ∈ x.text.toList, isNumeralChar c = true := by
  unfold Double.text DoubleFormat.render
  intro c hc
  split at hc
  · exact numeral_of_all rfl hc
  · simp only [String.toList_append, List.mem_append] at hc
    rcases hc with hs | hi
    · split at hs <;> exact numeral_of_all rfl hs
    · exact numeral_of_all rfl hi
  · dsimp only at hc
    split at hc
    · simp only [String.toList_append, List.mem_append] at hc
      rcases hc with hs | hz
      · split at hs <;> exact numeral_of_all rfl hs
      · exact numeral_of_all rfl hz
    · simp only [String.toList_append, List.mem_append] at hc
      rcases hc with hs | hl
      · split at hs <;> exact numeral_of_all rfl hs
      · exact layout_numeral (fun c hc => Nat.isDigit_of_mem_toDigits (by norm_num) (by norm_num) hc) _ c hl

theorem intText_ne_nil (n : Int) : (intText n).toList ≠ [] := by
  unfold intText natDigits
  split <;> simp [Nat.toDigits_ne_nil]

theorem Double.text_ne_nil (x : Double) : x.text.toList ≠ [] := by
  intro h
  obtain ⟨y, hy, -⟩ := Double.readReal_text x
  rw [String.toList_eq_nil_iff.mp h] at hy
  cases hy

theorem Text.trimWhile_eq_self {p : Char → Bool} {s : String}
    (hhead : ∀ c, s.toList.head? = some c → p c = false)
    (hlast : ∀ c, s.toList.getLast? = some c → p c = false) : Text.trimWhile p s = s := by
  unfold Text.trimWhile Text.dropRightWhile Text.dropLeftWhile
  rw [Reading.dropWhile_eq_self_of_head hhead, String.toList_ofList,
    Reading.dropWhile_eq_self_of_head (by rwa [List.head?_reverse]), List.reverse_reverse,
    String.ofList_toList]

theorem Text.trimBlank_eq_self {s : String} (h : ∀ c ∈ s.toList, Text.isBlank c = false) :
    Text.trimBlank s = s :=
  Text.trimWhile_eq_self (fun c hc => h c (List.mem_of_mem_head? hc))
    (fun c hc => h c (List.mem_of_getLast? hc))

namespace Reading

theorem underscoresAfter_digits {prev : Char} (hp : prev ≠ '_') :
    ∀ {l : List Char}, (∀ c ∈ l, c.isDigit = true) → underscoresAfter prev l = true
  | [], _ => by simp [underscoresAfter, hp]
  | c :: rest, hl => by
    have hc := hl c List.mem_cons_self
    have hcu : c ≠ '_' := by rintro rfl; simp at hc
    have ih := underscoresAfter_digits hcu (fun x hx => hl x (List.mem_cons_of_mem c hx))
    simp [underscoresAfter, hcu, hc, ih]

end Reading

open Reading in
theorem readInteger_intText {n : Int} (h : (Nat.toDigits 10 n.natAbs).length ≤ maxIntegerDigits) :
    readInteger (intText n) = .ok n := by
  have hdig : ∀ c ∈ Nat.toDigits 10 n.natAbs, c.isDigit = true := fun c hc =>
    Nat.isDigit_of_mem_toDigits (by norm_num) (by norm_num) hc
  obtain ⟨d, rest, hds⟩ := List.exists_cons_of_ne_nil (Nat.toDigits_ne_nil (b := 10) (n := n.natAbs))
  have hsign : (intText n).toList = (if n < 0 then ['-'] else []) ++ Nat.toDigits 10 n.natAbs := by
    unfold intText natDigits
    split <;> simp
  have hnorm : (intText n).toList.map normalize = (intText n).toList :=
    (List.map_congr_left fun c hc => normalize_of_lt (isNumeralChar_toNat (intText_numeral n c hc)).2).trans
      (List.map_id _)
  have hlast : ∀ c, (intText n).toList.getLast? = some c → isSpace c = false := by
    intro c hc
    rw [hsign, hds, List.getLast?_append_of_ne_nil _ (List.cons_ne_nil d rest)] at hc
    exact isSpace_of_isDigit (hdig c (by rw [hds]; exact List.mem_of_getLast? hc))
  have hhead : ∀ c, (intText n).toList.head? = some c → isSpace c = false := by
    intro c hc
    rw [hsign, hds] at hc
    split at hc
    · simp at hc; subst hc; rfl
    · simp at hc; subst hc; exact isSpace_of_isDigit (hdig d (by rw [hds]; exact List.mem_cons_self))
  have htrim : trimSpaces ((intText n).toList.map normalize) = (intText n).toList := by
    rw [hnorm, trimSpaces_eq_self hhead hlast]
  have hsplit : splitSign (intText n).toList = (decide (n < 0), Nat.toDigits 10 n.natAbs) := by
    rw [hsign]
    split
    · simp [splitSign, *]
    · rw [hds, List.nil_append, splitSign_of_isDigit (hdig d (by rw [hds]; exact List.mem_cons_self))]
      simp [*]
  have hfilter : (Nat.toDigits 10 n.natAbs).filter (· != '_') = Nat.toDigits 10 n.natAbs :=
    List.filter_eq_self.mpr fun c hc => by have := hdig c hc; simp; rintro rfl; simp at this
  have hunder : underscoresOk (Nat.toDigits 10 n.natAbs) = true := underscoresAfter_digits (by decide) hdig
  have hall : (Nat.toDigits 10 n.natAbs).all (fun c => c.isDigit || c == '_') = true :=
    List.all_eq_true.mpr fun c hc => by simp [hdig c hc]
  unfold readInteger
  have hne : (Nat.toDigits 10 n.natAbs).isEmpty = false := by rw [hds]; rfl
  simp only [htrim, hsplit, hfilter, hunder, hall, hne, Bool.not_true, Bool.or_false,
    Bool.false_eq_true, if_false, gt_iff_lt, not_lt.mpr h, digitsValue_toDigits, decide_eq_true_eq]
  split <;> (congr 1; omega)

def Xml.textOf (w : String) : Option String := if w.toList = [] then none else some w

def Value.SameOrNaN (v w : Value) : Prop :=
  v = w ∨ ∃ x y, v = .double x ∧ w = .double y ∧ x.isNaN = true ∧ y.isNaN = true

/-- What a value needs to be written into a call and read back: a text holds only characters a
document may hold, and a URL has a text that is not empty, holds only such characters and splits
back to the URL. -/
def Value.WireSafe (v : Value) : Prop :=
  (∀ s, v = .text s → ∀ c ∈ s.toList, Xml.isDocumentChar c = true) ∧
    ∀ u, v = .url u → u.render.toList ≠ [] ∧ (∀ c ∈ u.render.toList, Xml.isDocumentChar c = true) ∧
      Url.split (Text.trimBlank u.render) = .ok u

namespace DataType

variable {t : DataType} {s : String} {v c : Value}

theorem kind_ne_integer (hb : t.integerBounds? = none) : t.kind ≠ .integer := by
  cases t <;> simp_all [integerBounds?, kind]

theorem natAbs_lt_of_bounds {lo hi n : Int} (hb : t.integerBounds? = some (lo, hi)) (hlo : lo ≤ n)
    (hhi : n ≤ hi) : n.natAbs < 2 ^ 64 := by
  have hpow : ∀ k : Nat, Int.pow 2 k = 2 ^ k := fun _ => rfl
  cases t <;> simp only [integerBounds?, reduceCtorEq, Option.some.injEq, Prod.mk.injEq] at hb <;>
    obtain ⟨rfl, rfl⟩ := hb <;> simp only [hpow] at hlo hhi <;> omega

theorem fromWire_bounds {lo hi : Int} (hb : t.integerBounds? = some (lo, hi)) :
    t.fromWire s = .ok v ↔ ∃ n, readInteger (Text.trimBlank s) = .ok n ∧ lo ≤ n ∧ n ≤ hi ∧ v = .int n := by
  unfold fromWire
  rw [hb]
  dsimp only
  cases readInteger (Text.trimBlank s) with
  | error e => simp
  | ok n =>
    by_cases h : lo ≤ n ∧ n ≤ hi
    · simp [h, eq_comm]
    · simp only [h, if_false, reduceCtorEq, false_iff, not_exists, not_and, Except.ok.injEq]
      rintro m rfl hlo hhi
      exact absurd ⟨hlo, hhi⟩ h

theorem validate_bounds {lo hi : Int} (hb : t.integerBounds? = some (lo, hi)) (h : t.validate v = .ok c) :
    ∃ n, v = .int n ∧ c = v ∧ lo ≤ n ∧ n ≤ hi := by
  unfold validate at h
  rw [hb] at h
  dsimp only at h
  split at h
  · split at h
    · rename_i hn
      exact ⟨_, rfl, (Except.ok.inj h).symm, hn⟩
    · cases h
  · cases h

section Unbounded

variable (hb : t.integerBounds? = none)
include hb

theorem fromWire_real (hk : t.kind = .real) :
    t.fromWire s = .ok v ↔
      ∃ x, readReal (Text.trimBlank s) = .ok x ∧ ¬(t = .r4 ∧ x.exceedsFloat32 = true) ∧ v = .double x := by
  unfold fromWire
  rw [hb]
  dsimp only
  rw [hk]
  dsimp only
  cases readReal (Text.trimBlank s) with
  | error e => simp
  | ok x =>
    by_cases h : t = .r4 ∧ x.exceedsFloat32 = true
    · simp [h]
    · have h' : (t == .r4 && x.exceedsFloat32) = false := by
        cases hx : x.exceedsFloat32
        · exact Bool.and_false _
        · have ht : t ≠ .r4 := fun ht => h ⟨ht, hx⟩
          simp [ht]
      simp only [h', Bool.false_eq_true, if_false, Except.ok.injEq]
      exact ⟨fun hv => ⟨x, rfl, h, hv.symm⟩, fun ⟨y, hy, _, hv⟩ => by cases hy; exact hv.symm⟩

theorem fromWire_text (hk : t.kind = .text) :
    t.fromWire s = .ok v ↔ ¬(t = .char ∧ s.length ≠ 1) ∧ v = .text s := by
  unfold fromWire
  rw [hb]
  dsimp only
  rw [hk]
  dsimp only
  by_cases h : t = .char ∧ s.length ≠ 1
  · simp [h.1, h.2]
  · have h' : (t == .char && s.length != 1) = false := by
      simp only [Bool.and_eq_false_iff, beq_eq_false_iff_ne, bne_eq_false_iff_eq]
      by_cases ht : t = .char
      · exact .inr (by simpa [ht] using h)
      · exact .inl ht
    simp only [h', Bool.false_eq_true, if_false, Except.ok.injEq]
    exact ⟨fun hv => ⟨h, hv.symm⟩, fun ⟨_, hv⟩ => hv.symm⟩

theorem fromWire_truth (hk : t.kind = .truth) :
    t.fromWire s = .ok v ↔ ∃ b, truthOf? s = some b ∧ v = .bool b := by
  unfold fromWire
  rw [hb]
  dsimp only
  rw [hk]
  dsimp only
  cases truthOf? s with
  | none => simp
  | some b => simp [eq_comm]

theorem fromWire_url (hk : t.kind = .url) :
    t.fromWire s = .ok v ↔ ∃ u, Url.split (Text.trimBlank s) = .ok u ∧ v = .url u := by
  unfold fromWire
  rw [hb]
  dsimp only
  rw [hk]
  dsimp only
  cases Url.split (Text.trimBlank s) with
  | error e => simp
  | ok u => simp [eq_comm]

theorem validate_real (hk : t.kind = .real) (h : t.validate v = .ok c) :
    ∃ x, asDouble v = .ok x ∧ c = .double x ∧
      ¬(t = .r4 ∧ (x.isFinite = false ∨ x.exceedsFloat32 = true)) := by
  unfold validate at h
  rw [hb] at h
  dsimp only at h
  rw [hk] at h
  dsimp only at h
  cases hx : asDouble v with
  | error e => simp [hx, bind, Except.bind] at h
  | ok x =>
    simp only [hx, bind, Except.bind] at h
    by_cases hr : t = .r4 ∧ (x.isFinite = false ∨ x.exceedsFloat32 = true)
    · obtain ⟨rfl, hr⟩ := hr
      rcases hr with hr | hr <;> simp [hr, throw, throwThe, MonadExceptOf.throw] at h
    · refine ⟨x, rfl, ?_, hr⟩
      have h' : (t == .r4 && (!x.isFinite || x.exceedsFloat32)) = false := by
        by_cases ht : t = .r4
        · subst ht
          simp only [true_and, not_or, Bool.not_eq_false] at hr
          simp [hr.1, hr.2]
        · simp [ht]
      simpa [h', pure, Except.pure] using h.symm

theorem validate_text (hk : t.kind = .text) (h : t.validate v = .ok c) :
    ∃ s, v = .text s ∧ c = v ∧ ¬(t = .char ∧ s.length ≠ 1) := by
  unfold validate at h
  rw [hb] at h
  dsimp only at h
  rw [hk] at h
  dsimp only at h
  split at h
  · rename_i s
    by_cases hc : t = .char ∧ s.length ≠ 1
    · simp [hc.1, hc.2] at h
    · refine ⟨s, rfl, ?_, hc⟩
      split at h
      · cases h
      · exact (Except.ok.inj h).symm
  · cases h

theorem validate_truth (hk : t.kind = .truth) (h : t.validate v = .ok c) : ∃ b, v = .bool b ∧ c = v := by
  unfold validate at h
  rw [hb] at h
  dsimp only at h
  rw [hk] at h
  dsimp only at h
  split at h
  · exact ⟨_, rfl, (Except.ok.inj h).symm⟩
  · cases h

theorem validate_url (hk : t.kind = .url) (h : t.validate v = .ok c) :
    ∃ u, c = .url u ∧ (v = .url u ∨ ∃ s, v = .text s ∧ Url.split s = .ok u) := by
  unfold validate at h
  rw [hb] at h
  dsimp only at h
  rw [hk] at h
  dsimp only at h
  split at h
  · exact ⟨_, (Except.ok.inj h).symm, .inl rfl⟩
  · rename_i s
    split at h
    · rename_i u hu
      exact ⟨u, (Except.ok.inj h).symm, .inr ⟨s, rfl, hu⟩⟩
    · cases h
  · cases h

end Unbounded

theorem fromWireOptional_textOf {w : String} (hw : w.toList ≠ []) :
    t.fromWireOptional (Xml.textOf w) = t.fromWire w := by
  have he : w.isEmpty = false := by simpa [String.isEmpty_iff] using hw
  simp [Xml.textOf, hw, fromWireOptional, he]

/-- The values a data type takes as they are: an integer in range, a double (finite and within
the float range for `r4`), a text (one character for `char`), a truth value or a URL. -/
inductive Taken (t : DataType) : Value → Prop
  | int {lo hi n : Int} : t.integerBounds? = some (lo, hi) → lo ≤ n → n ≤ hi → Taken t (.int n)
  | real {x : Double} : t.integerBounds? = none → t.kind = .real →
      ¬(t = .r4 ∧ (x.isFinite = false ∨ x.exceedsFloat32 = true)) → Taken t (.double x)
  | text {s : String} : t.integerBounds? = none → t.kind = .text → ¬(t = .char ∧ s.length ≠ 1) →
      Taken t (.text s)
  | truth {b : Bool} : t.integerBounds? = none → t.kind = .truth → Taken t (.bool b)
  | url {u : Url} : t.integerBounds? = none → t.kind = .url → Taken t (.url u)

theorem taken_of_checked (hc : t.validate v = .ok c) : Taken t c := by
  cases hb : t.integerBounds? with
  | some p =>
    obtain ⟨lo, hi⟩ := p
    obtain ⟨n, rfl, rfl, hlo, hhi⟩ := validate_bounds hb hc
    exact .int hb hlo hhi
  | none =>
    cases hk : t.kind with
    | integer => exact absurd hk (kind_ne_integer hb)
    | real =>
      obtain ⟨x, -, rfl, hr4⟩ := validate_real hb hk hc
      exact .real hb hk hr4
    | text =>
      obtain ⟨w, rfl, rfl, hchar⟩ := validate_text hb hk hc
      exact .text hb hk hchar
    | truth =>
      obtain ⟨b, rfl, rfl⟩ := validate_truth hb hk hc
      exact .truth hb hk
    | url =>
      obtain ⟨u, rfl, -⟩ := validate_url hb hk hc
      exact .url hb hk

theorem taken_of_validate (hc : t.validate v = .ok v) : Taken t v := taken_of_checked hc

theorem validate_of_taken (h : Taken t v) : t.validate v = .ok v := by
  cases h with
  | int hb hlo hhi =>
    unfold validate
    simp [hb, hlo, hhi]
  | real hb hk hr4 =>
    rename_i x
    have hcheck : (t == .r4 && (!x.isFinite || x.exceedsFloat32)) = false := by
      by_cases ht : t = .r4
      · subst ht
        simp only [true_and, not_or, Bool.not_eq_false] at hr4
        simp [hr4.1, hr4.2]
      · simp [ht]
    unfold validate
    simp [hb, hk, asDouble, bind, Except.bind, hcheck, pure, Except.pure]
  | text hb hk hchar =>
    rename_i w
    have hcheck : (t == .char && w.length != 1) = false := by
      by_cases ht : t = .char
      · subst ht
        simpa using hchar
      · simp [ht]
    unfold validate
    simp [hb, hk, hcheck]
  | truth hb hk =>
    unfold validate
    simp [hb, hk]
  | url hb hk =>
    unfold validate
    simp [hb, hk]

theorem validate_checked (hc : t.validate v = .ok c) : t.validate c = .ok c :=
  validate_of_taken (taken_of_checked hc)

theorem fromWire_wireText (hc : t.validate v = .ok c)
    (hurl : ∀ u, c = .url u → Url.split (Text.trimBlank u.render) = .ok u) :
    ∃ c', t.fromWire c.wireText = .ok c' ∧ c'.SameOrNaN c := by
  cases taken_of_checked hc with
  | @int lo hi n hb hlo hhi =>
    have hdigits : (Nat.toDigits 10 n.natAbs).length ≤ maxIntegerDigits := by
      refine (Nat.length_toDigits_le_iff (by norm_num) (by decide)).mpr ?_
      calc n.natAbs < 2 ^ 64 := natAbs_lt_of_bounds hb hlo hhi
        _ ≤ 10 ^ 20 := by norm_num
        _ ≤ 10 ^ maxIntegerDigits := Nat.pow_le_pow_right (by norm_num) (by decide)
    refine ⟨.int n, (fromWire_bounds hb).mpr ⟨n, ?_, hlo, hhi, rfl⟩, .inl rfl⟩
    rw [show (Value.int n).wireText = intText n from rfl,
      Text.trimBlank_eq_self fun c hc => isBlank_of_numeral (intText_numeral n c hc)]
    exact readInteger_intText hdigits
  | @real x hb hk hr4 =>
    obtain ⟨y, hy, hxy⟩ := Double.readReal_text x
    refine ⟨.double y, (fromWire_real hb hk).mpr ⟨y, ?_, ?_, rfl⟩, ?_⟩
    · rwa [show (Value.double x).wireText = x.text from rfl,
        Text.trimBlank_eq_self fun c hc => isBlank_of_numeral (Double.text_numeral x c hc)]
    · -- a 32-bit value was finite, so it was read back exactly
      rintro ⟨rfl, hy'⟩
      rcases hxy with rfl | ⟨hxn, -⟩
      · exact hr4 ⟨rfl, .inr hy'⟩
      · refine hr4 ⟨rfl, .inl ?_⟩
        simp only [Double.isNaN, Bool.and_eq_true, beq_iff_eq] at hxn
        simp [Double.isFinite, hxn.1]
    · rcases hxy with rfl | ⟨hxn, hyn⟩
      · exact .inl rfl
      · exact .inr ⟨y, x, rfl, rfl, hyn, hxn⟩
  | @text w hb hk hchar => exact ⟨.text w, (fromWire_text hb hk).mpr ⟨hchar, rfl⟩, .inl rfl⟩
  | @truth b hb hk =>
    refine ⟨.bool b, (fromWire_truth hb hk).mpr ⟨b, ?_, rfl⟩, .inl rfl⟩
    cases b <;> rfl
  | @url u hb hk => exact ⟨.url u, (fromWire_url hb hk).mpr ⟨u, hurl u rfl, rfl⟩, .inl rfl⟩

theorem eq_empty_of_wireText_eq_nil (hc : t.validate v = .ok v) (hsafe : v.WireSafe)
    (hw : v.wireText.toList = []) : v = .text "" ∧ t.kind = .text := by
  cases taken_of_validate hc with
  | @int lo hi n => exact absurd hw (intText_ne_nil n)
  | @real x => exact absurd hw (Double.text_ne_nil x)
  | @text w hb hk => exact ⟨by rw [String.toList_eq_nil_iff.mp (show w.toList = [] from hw)], hk⟩
  | @truth b => cases b <;> cases hw
  | @url u => exact absurd hw (hsafe.2 u rfl).1

theorem fromWireOptional_wireText (hc : t.validate v = .ok v) (hsafe : v.WireSafe) :
    ∃ v', t.fromWireOptional (Xml.textOf v.wireText) = .ok v' ∧ v'.SameOrNaN v := by
  by_cases hw : v.wireText.toList = []
  · obtain ⟨rfl, hk⟩ := eq_empty_of_wireText_eq_nil hc hsafe hw
    exact ⟨.text "", by simp [Xml.textOf, hw, fromWireOptional, hk], .inl rfl⟩
  · rw [fromWireOptional_textOf hw]
    exact fromWire_wireText hc fun u hu => (hsafe.2 u hu).2.2

theorem wireText_documentChars (hc : t.validate v = .ok v) (hsafe : v.WireSafe) :
    ∀ c ∈ v.wireText.toList, Xml.isDocumentChar c = true := by
  cases taken_of_validate hc with
  | @int lo hi n => exact fun c hc => isDocumentChar_of_numeral (intText_numeral n c hc)
  | @real x => exact fun c hc => isDocumentChar_of_numeral (Double.text_numeral x c hc)
  | @text w => exact hsafe.1 w rfl
  | @truth b => cases b <;> exact List.all_eq_true.mp rfl
  | @url u => exact (hsafe.2 u rfl).2.1

theorem fromWireOptional_eq_ok {o : Option String} (hv : t.fromWireOptional o = .ok v) :
    v = (if t.kind = .text then .text "" else .none) ∨ ∃ w, t.fromWire w = .ok v := by
  cases o with
  | none =>
    simp only [fromWireOptional, Except.ok.injEq] at hv
    subst hv
    exact .inl (by simp)
  | some w =>
    simp only [fromWireOptional] at hv
    split at hv
    · simp only [Except.ok.injEq] at hv
      subst hv
      exact .inl (by simp)
    · exact .inr ⟨w, hv⟩

theorem validate_of_fromWireOptional {o : Option String} (hv : t.fromWireOptional o = .ok v)
    (hc : t.validate v = .ok c) : c = v := by
  cases hb : t.integerBounds? with
  | some p =>
    obtain ⟨lo, hi⟩ := p
    obtain ⟨n, -, hcv, -⟩ := validate_bounds hb hc
    exact hcv
  | none =>
    have hread := fromWireOptional_eq_ok hv
    cases hk : t.kind with
    | integer => exact absurd hk (kind_ne_integer hb)
    | real =>
      obtain ⟨x, hx, rfl, -⟩ := validate_real hb hk hc
      rw [hk] at hread
      rcases hread with rfl | ⟨w, hw⟩
      · cases hx
      · obtain ⟨y, -, -, rfl⟩ := (fromWire_real hb hk).mp hw
        cases hx
        rfl
    | text =>
      obtain ⟨_, -, hcv, -⟩ := validate_text hb hk hc
      exact hcv
    | truth =>
      obtain ⟨_, -, hcv⟩ := validate_truth hb hk hc
      exact hcv
    | url =>
      -- a URL type reads nothing or a URL, never a text to split
      obtain ⟨u, rfl, hvu⟩ := validate_url hb hk hc
      rw [hk] at hread
      rcases hvu with rfl | ⟨w, rfl, -⟩
      · rfl
      · rcases hread with h | ⟨w', hw⟩
        · cases h
        · obtain ⟨u', -, h⟩ := (fromWire_url hb hk).mp hw
          cases h

end DataType

end UpnpBinding
