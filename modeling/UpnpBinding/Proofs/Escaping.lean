import UpnpBinding.Proofs.XmlContent
import UpnpBinding.Soap.Envelope
/-!
Escaped text read back. Each character of an argument value or an attribute value is written as
itself or as a reference to itself (`Refers`), so the reader takes it back whatever surrounds it:
an attribute value decodes to the text it escapes, and its scan stops at the closing quote that
`quoteAttribute` chooses, since no character of the value is written as that quote. In element
content, written text is read a token at a time (a run of plain data, a line feed, or a
reference) and the pieces add up to the text.
-/
namespace UpnpBinding.Soap

open Xml

def escapedChars (extra : Char → Option String) (v : List Char) : List Char :=
  v.flatMap fun c => (escapeChar extra c).toList

@[simp] theorem escapedChars_nil (extra : Char → Option String) : escapedChars extra [] = [] := rfl

@[simp] theorem escapedChars_cons (extra : Char → Option String) (c : Char) (v : List Char) :
    escapedChars extra (c :: v) = (escapeChar extra c).toList ++ escapedChars extra v := rfl

@[simp] theorem escapedChars_append (extra : Char → Option String) (u v : List Char) :
    escapedChars extra (u ++ v) = escapedChars extra u ++ escapedChars extra v := by
  simp [escapedChars, List.flatMap_append]

theorem toList_escapeWith (extra : Char → Option String) (s : String) :
    (escapeWith extra s).toList = escapedChars extra s.toList := by
  simp [escapeWith, escapedChars, String.toList_join, List.flatMap_map]

def isReferenceChar (x : Char) : Bool := x.isAlphanum || x == '#' || x == ';'

/-- `w` is a reference to `c`, whatever source it stands in: an ampersand and reference
characters that read as `c`. -/
def Refers (c : Char) (w : List Char) : Prop :=
  ∃ body, w = '&' :: body ∧ (∀ x ∈ body, isReferenceChar x = true) ∧
    ∀ (s : Source) i rest, s.Reads i (w ++ rest) → s.RefersTo i c (i + w.length)

theorem refers_entity {n : List Char} {c : Char} (hn : IsNCName n) (hc : predefinedEntity (String.ofList n) = some c)
    (hb : ∀ x ∈ n ++ [';'], isReferenceChar x = true) : Refers c ('&' :: n ++ [';']) := by
  refine ⟨n ++ [';'], rfl, hb, fun s i rest h => ?_⟩
  have := Source.refersTo_entity (by simpa using h : s.Reads i ('&' :: n ++ ';' :: rest)) hn hc
  simpa [Nat.add_assoc] using this

theorem refers_decimal {d : Char} {t : List Char} {c : Char} (hd : d.isDigit = true)
    (hds : ∀ x ∈ t, x.isDigit = true) (hv : Source.decimalFrom 0 (d :: t) < 0x110000)
    (hc : referencedChar (Source.decimalFrom 0 (d :: t)) = some c)
    (hb : ∀ x ∈ '#' :: d :: t ++ [';'], isReferenceChar x = true) :
    Refers c ('&' :: '#' :: d :: t ++ [';']) := by
  refine ⟨'#' :: d :: t ++ [';'], rfl, hb, fun s i rest h => ?_⟩
  have := Source.refersTo_decimal (by simpa using h : s.Reads i ('&' :: '#' :: d :: t ++ ';' :: rest)) hd hds hv hc
  simpa [Nat.add_assoc] using this

theorem refers_amp : Refers '&' "&amp;".toList :=
  refers_entity (n := ['a', 'm', 'p']) ⟨'a', ['m', 'p'], rfl, rfl, List.all_eq_true.mp rfl⟩ rfl
    (List.all_eq_true.mp rfl)

theorem refers_lt : Refers '<' "&lt;".toList :=
  refers_entity (n := ['l', 't']) ⟨'l', ['t'], rfl, rfl, List.all_eq_true.mp rfl⟩ rfl
    (List.all_eq_true.mp rfl)

theorem refers_gt : Refers '>' "&gt;".toList :=
  refers_entity (n := ['g', 't']) ⟨'g', ['t'], rfl, rfl, List.all_eq_true.mp rfl⟩ rfl
    (List.all_eq_true.mp rfl)

theorem refers_quot : Refers '"' "&quot;".toList :=
  refers_entity (n := ['q', 'u', 'o', 't']) ⟨'q', ['u', 'o', 't'], rfl, rfl, List.all_eq_true.mp rfl⟩ rfl
    (List.all_eq_true.mp rfl)

theorem refers_lf : Refers '\n' "&#10;".toList :=
  refers_decimal (d := '1') (t := ['0']) rfl (List.all_eq_true.mp rfl) (by decide)
    (by decide) (List.all_eq_true.mp rfl)

theorem refers_cr : Refers '\r' "&#13;".toList :=
  refers_decimal (d := '1') (t := ['3']) rfl (List.all_eq_true.mp rfl) (by decide)
    (by decide) (List.all_eq_true.mp rfl)

theorem refers_tab : Refers '\t' "&#9;".toList :=
  refers_decimal (d := '9') (t := []) rfl (List.all_eq_true.mp rfl) (by decide)
    (by decide) (List.all_eq_true.mp rfl)

theorem escapeChar_attribute (b : Bool) (c : Char) :
    Refers c (escapeChar (attributeEscape b) c).toList ∨
      ((escapeChar (attributeEscape b) c).toList = [c] ∧ c ≠ '&' ∧ c ≠ '<' ∧ c ≠ '>' ∧
        c ≠ '\n' ∧ c ≠ '\r' ∧ c ≠ '\t' ∧ (b = true → c ≠ '"')) := by
  by_cases h1 : c = '&'
  · subst h1; exact .inl refers_amp
  by_cases h2 : c = '<'
  · subst h2; exact .inl refers_lt
  by_cases h3 : c = '>'
  · subst h3; exact .inl refers_gt
  by_cases h4 : c = '\n'
  · subst h4; exact .inl refers_lf
  by_cases h5 : c = '\r'
  · subst h5; exact .inl refers_cr
  by_cases h6 : c = '\t'
  · subst h6; exact .inl refers_tab
  by_cases h7 : b = true ∧ c = '"'
  · obtain ⟨rfl, rfl⟩ := h7; exact .inl refers_quot
  right
  refine ⟨?_, h1, h2, h3, h4, h5, h6, fun hb hc => h7 ⟨hb, hc⟩⟩
  have h7' : (b && c == '"') = false := by
    cases b <;> simp_all
  simp [escapeChar, attributeEscape, h1, h2, h3, h4, h5, h6, h7']

theorem escapeChar_value (c : Char) :
    Refers c (escapeChar valueEscape c).toList ∨
      ((escapeChar valueEscape c).toList = [c] ∧ c ≠ '&' ∧ c ≠ '<' ∧ c ≠ '>' ∧ c ≠ '\r') := by
  by_cases h1 : c = '&'
  · subst h1; exact .inl refers_amp
  by_cases h2 : c = '<'
  · subst h2; exact .inl refers_lt
  by_cases h3 : c = '>'
  · subst h3; exact .inl refers_gt
  by_cases h5 : c = '\r'
  · subst h5; exact .inl refers_cr
  right
  refine ⟨?_, h1, h2, h3, h5⟩
  simp [escapeChar, valueEscape, h1, h2, h3, h5]

theorem isDocumentChar_of_isReferenceChar {x : Char} (h : isReferenceChar x = true) :
    isDocumentChar x = true ∧ x ≠ '"' ∧ x ≠ '\'' ∧ x ≠ '<' ∧ x ≠ '&' := by
  simp only [isReferenceChar, Bool.or_eq_true, beq_iff_eq] at h
  rcases h with (h | rfl) | rfl
  · have ha : x.toNat < 0x80 := by
      -- an alphanumeric character is a letter or digit of ASCII
      have hr : (decide (x.val ≥ 'A'.val ∧ x.val ≤ 'Z'.val) ||
          (decide (x.val ≥ 'a'.val) && decide (x.val ≤ 'z'.val)) ||
          (decide (x.val ≥ '0'.val) && decide (x.val ≤ '9'.val))) = true := h
      simp only [Bool.or_eq_true, Bool.and_eq_true, decide_eq_true_eq, UInt32.le_iff_toNat_le] at hr
      have : 'Z'.val.toNat = 90 := rfl
      have : 'z'.val.toNat = 122 := rfl
      have : '9'.val.toNat = 57 := rfl
      simp only [Char.toNat]
      omega
    have hc : ∀ n : Fin 0x80, (Char.ofNat n).isAlphanum = true →
        isDocumentChar (Char.ofNat n) = true ∧ Char.ofNat n ≠ '"' ∧ Char.ofNat n ≠ '\'' ∧
          Char.ofNat n ≠ '<' ∧ Char.ofNat n ≠ '&' := by decide
    simpa [Char.ofNat_toNat] using hc ⟨x.toNat, ha⟩ (by simpa [Char.ofNat_toNat] using h)
  · decide
  · decide

theorem contains_iff_mem (v : String) (c : Char) : v.contains c = true ↔ c ∈ v.toList := by
  simp [String.contains]

theorem quoteAttribute_spec (v : String) :
    ∃ q b, (q = '"' ∨ q = '\'') ∧ (∀ c ∈ v.toList, c = q → b = true ∧ q = '"') ∧
      (quoteAttribute v).toList =
        q :: escapedChars (attributeEscape b) v.toList ++ [q] := by
  unfold quoteAttribute
  by_cases hd : v.contains '"' = true
  · by_cases hs : v.contains '\'' = true
    · refine ⟨'"', true, .inl rfl, fun c _ _ => ⟨rfl, rfl⟩, ?_⟩
      simp [hd, hs, toList_escapeWith]
    · refine ⟨'\'', false, .inr rfl, fun c hc hcq => ?_, ?_⟩
      · subst hcq
        exact absurd ((contains_iff_mem v _).mpr hc) hs
      · simp [hd, hs, toList_escapeWith]
  · refine ⟨'"', false, .inl rfl, fun c hc hcq => ?_, ?_⟩
    · subst hcq
      exact absurd ((contains_iff_mem v _).mpr hc) hd
    · simp [hd, toList_escapeWith]

section Reading

variable {s : Source} {i : Nat} {rest : List Char}

theorem attributeValue_escapeChar (b : Bool) (c : Char) {ctx : ValueContext} {acc : String}
    (h : s.Reads i ((escapeChar (attributeEscape b) c).toList ++ rest)) :
    s.attributeValue ctx true i acc =
      s.attributeValue ctx true (i + (escapeChar (attributeEscape b) c).toList.length) (acc.push c) := by
  rcases escapeChar_attribute b c with ⟨body, hbody, -, href⟩ | ⟨hw, h1, h2, -, h4, h5, h6, -⟩
  · have hr := href s i rest h
    rw [hbody] at h hr ⊢
    exact Source.attributeValue_refersTo h hr (by simp)
  · rw [hw] at h ⊢
    exact Source.attributeValue_plain h ⟨h1, h2, h5, h4, h6⟩

theorem attributeValue_escaped (b : Bool) (v : List Char) {ctx : ValueContext} {acc : String}
    (h : s.Reads i (escapedChars (attributeEscape b) v))
    (hend : s.chars.size = i + (escapedChars (attributeEscape b) v).length) :
    s.attributeValue ctx true i acc = .ok (acc ++ String.ofList v) := by
  induction v generalizing i acc with
  | nil =>
    rw [Source.attributeValue_end (by simpa using hend.le)]
    simp
  | cons c v ih =>
    simp only [escapedChars_cons, List.length_append] at h hend
    rw [attributeValue_escapeChar b c h, ih (Source.reads_append.mp h).2 (by omega)]
    simp [String.ext_iff]

theorem escapeChar_attribute_ne_nil (b : Bool) (c : Char) :
    (escapeChar (attributeEscape b) c).toList ≠ [] := by
  rcases escapeChar_attribute b c with ⟨body, hbody, -, -⟩ | ⟨hw, -⟩
  · simp [hbody]
  · simp [hw]

theorem valueBetween_escaped (b : Bool) (v : List Char) {ctx : ValueContext}
    (h : s.Reads i (escapedChars (attributeEscape b) v)) :
    s.valueBetween ctx true i (i + (escapedChars (attributeEscape b) v).length) =
      .ok (String.ofList v) := by
  unfold Source.valueBetween
  cases v with
  | nil =>
    rw [escapedChars_nil, List.length_nil, Nat.add_zero,
      Source.attributeValue_end (by simp only [Array.size_extract]; omega)]
  | cons c v =>
    have hle := h.le_size (by
      rw [escapedChars_cons]
      exact List.append_ne_nil_of_left_ne_nil (escapeChar_attribute_ne_nil b c) _)
    change _ ≤ s.chars.size at hle
    rw [attributeValue_escaped b _ (h.extract (Nat.le_refl _) _) (by rw [Array.size_extract]; omega)]
    simp

theorem attributeValueEnd_escapeChar {α : Type} (b : Bool) {q c : Char} (hq : q = '"' ∨ q = '\'')
    (hc : isDocumentChar c = true) (hcq : c = q → b = true ∧ q = '"')
    (h : s.Reads i ((escapeChar (attributeEscape b) c).toList ++ rest)) :
    s.attributeValueEnd (α := α) i q =
      s.attributeValueEnd (α := α) (i + (escapeChar (attributeEscape b) c).toList.length) q := by
  rcases escapeChar_attribute b c with ⟨body, hbody, hbc, href⟩ | ⟨hw, h1, h2, -, -, -, -, h7⟩
  · have hr := href s i rest h
    rw [hbody] at h ⊢
    obtain ⟨r, next, hrt⟩ : ∃ r next, s.reference (i + 1) = .token r next := by
      rcases hr with hr | ⟨_, hr, _⟩ <;> exact ⟨_, _, hr⟩
    have hq' : q ≠ '&' := by rcases hq with rfl | rfl <;> decide
    -- after the ampersand the scan passes over the reference's characters one by one
    have hbody' : ∀ x ∈ body, isDocumentChar x = true ∧ x ≠ q ∧ x ≠ '<' ∧ x ≠ '&' := by
      intro x hx
      obtain ⟨hd, hq1, hq2, hlt, hamp⟩ := isDocumentChar_of_isReferenceChar (hbc x hx)
      exact ⟨hd, by rcases hq with rfl | rfl <;> assumption, hlt, hamp⟩
    rw [Source.attributeValueEnd_amp h hq' hrt,
      Source.attributeValueEnd_plain (by simpa using (Source.reads_cons.mp h).2) hbody']
    simp only [List.length_cons]
    congr 1
    omega
  · rw [hw] at h ⊢
    refine Source.attributeValueEnd_plain h fun x hx => ?_
    simp only [List.mem_singleton] at hx
    subst hx
    refine ⟨hc, fun hxq => ?_, h2, h1⟩
    obtain ⟨hb, rfl⟩ := hcq hxq
    exact h7 hb hxq

theorem attributeValueEnd_escaped {α : Type} (b : Bool) {q : Char} (hq : q = '"' ∨ q = '\'')
    (v : List Char) (hv : ∀ c ∈ v, isDocumentChar c = true ∧ (c = q → b = true ∧ q = '"'))
    (h : s.Reads i (escapedChars (attributeEscape b) v ++ q :: rest)) :
    s.attributeValueEnd (α := α) i q =
      .ok (i + (escapedChars (attributeEscape b) v).length) := by
  induction v generalizing i with
  | nil =>
    have hqd : isDocumentChar q = true := by rcases hq with rfl | rfl <;> rfl
    simpa using Source.attributeValueEnd_quote h hqd
  | cons c v ih =>
    obtain ⟨hc, hcq⟩ := hv c List.mem_cons_self
    simp only [escapedChars_cons, List.append_assoc, List.length_append] at h ⊢
    rw [attributeValueEnd_escapeChar b hq hc hcq h,
      ih (fun x hx => hv x (List.mem_cons_of_mem c hx)) (Source.reads_append.mp h).2, Nat.add_assoc]

end Reading

theorem quoted_attribute (name : List Char) (hn : IsQName name) (v : String)
    (hv : ∀ c ∈ v.toList, isDocumentChar c = true) :
    ∃ a : WrittenAttribute, a.name = name ∧ a.text = name ++ '=' :: (quoteAttribute v).toList ∧
      (∀ s : Source, s.ValueScans a) ∧ ∃ b, a.value = escapedChars (attributeEscape b) v.toList := by
  obtain ⟨q, b, hq, hqv, hquote⟩ := quoteAttribute_spec v
  refine ⟨⟨name, q, escapedChars (attributeEscape b) v.toList, hn, hq⟩, rfl, ?_, ?_, b, rfl⟩
  · simp [WrittenAttribute.text, hquote]
  · intro s j rest h
    exact attributeValueEnd_escaped b hq v.toList (fun c hc => ⟨hv c hc, hqv c hc⟩) h

theorem valueBetween_of_carries {s : Source} {r : RawAttribute} {a : WrittenAttribute} {b : Bool} {v : List Char}
    {ctx : ValueContext} (hr : s.Carries r a) (ha : a.value = escapedChars (attributeEscape b) v) :
    s.valueBetween ctx true r.valueStart r.valueEnd = .ok (String.ofList v) := by
  obtain ⟨-, hreads, hend⟩ := hr
  rw [ha] at hreads hend
  rw [hend]
  exact valueBetween_escaped b v hreads

theorem escapeChar_plain {x : Char} (hx : isPlainData x = true) : (escapeChar valueEscape x).toList = [x] := by
  obtain ⟨-, hlt, hamp, hcr, -, hgt⟩ := props_of_isPlainData hx
  simp [escapeChar, valueEscape, hlt, hamp, hcr, hgt]

theorem escapedChars_plain {p : List Char} (hp : ∀ x ∈ p, isPlainData x = true) :
    escapedChars valueEscape p = p := by
  induction p with
  | nil => rfl
  | cons x p ih =>
    rw [escapedChars_cons, escapeChar_plain (hp x List.mem_cons_self),
      ih fun y hy => hp y (List.mem_cons_of_mem x hy)]
    rfl

theorem escapeChar_stop {y : Char} (hy : isDocumentChar y = true) (hp : isPlainData y = false) :
    ∃ c w, (escapeChar valueEscape y).toList = c :: w ∧ isDataStop c = true := by
  rcases escapeChar_value y with ⟨body, hbody, -, -⟩ | ⟨hw, h1, h2, h3, h4⟩
  · exact ⟨'&', body, hbody, rfl⟩
  · refine ⟨y, [], hw, ?_⟩
    have : y = '\n' := by
      by_contra hne
      simp [isPlainData, hy, h1, h2, h3, h4, hne] at hp
    subst this
    rfl

theorem Frame.addData_addData {f : Frame} (hf : f.children = #[]) (a b : String) :
    (f.addData a).addData b = f.addData (a ++ b) := by
  simp [Frame.addData, hf, String.append_assoc]

theorem Frame.addData_children (f : Frame) (a : String) : (f.addData a).children = f.children := by
  unfold Frame.addData
  split <;> rfl

section Content

variable {s : Source} {i : Nat} {rest : List Char} {dtd : Dtd}

theorem leads_escaped_step {v : List Char} (hv : ∀ c ∈ v, isDocumentChar c = true) (hne : v ≠ [])
    (h : s.Reads i (escapedChars valueEscape v ++ '<' :: rest)) :
    ∃ p q, v = p ++ q ∧ p ≠ [] ∧ ∀ (dtd : Dtd) (f : Frame) (more : List Frame) (sc : Scope),
      s.Leads dtd ⟨i, f :: more, sc⟩
        ⟨i + (escapedChars valueEscape p).length,
          f.addData (String.ofList p) :: more, sc⟩ := by
  obtain ⟨x, v', rfl⟩ := List.exists_cons_of_ne_nil hne
  have hsize := h.le_size (by simp)
  by_cases hx : isPlainData x = true
  · -- the longest run of plain characters is one data token
    have hpq := (List.takeWhile_append_dropWhile (p := isPlainData) (l := x :: v')).symm
    have hp : ∀ y ∈ (x :: v').takeWhile isPlainData, isPlainData y = true :=
      fun y hy => List.mem_takeWhile_imp hy
    have hqh : ∀ y q', (x :: v').dropWhile isPlainData = y :: q' → isPlainData y = false := by
      intro y q' hq
      have := List.head_dropWhile_not isPlainData (l := x :: v') (by simp [hq])
      simpa [hq] using this
    rw [List.takeWhile_cons_of_pos hx] at hpq hp
    generalize (x :: v').dropWhile isPlainData = q at hpq hqh
    generalize v'.takeWhile isPlainData = p' at hpq hp
    refine ⟨x :: p', q, hpq, by simp, ?_⟩
    rw [hpq, escapedChars_append, escapedChars_plain hp, List.append_assoc] at h
    -- the character after the run stops it
    obtain ⟨c, w, hcw, hc⟩ : ∃ c w, escapedChars valueEscape q ++
        '<' :: rest = c :: w ∧ isDataStop c = true := by
      cases q with
      | nil => exact ⟨'<', rest, rfl, rfl⟩
      | cons y q' =>
        have hy : isDocumentChar y = true := hv y (by rw [hpq]; simp)
        obtain ⟨c, w, hw, hc⟩ := escapeChar_stop hy (hqh y q' rfl)
        exact ⟨c, w ++ escapedChars valueEscape q' ++ '<' :: rest,
          by simp [hw], hc⟩
    rw [hcw] at h
    have htok := Source.contentToken_data h hp hc
    intro dtd f more sc
    rw [escapedChars_plain hp]
    exact Source.leads_of_step (by simp) (by simp at hsize ⊢; omega) (Source.content_data htok)
  · -- a character that is not plain data is one token by itself
    have hxd := hv x List.mem_cons_self
    refine ⟨[x], v', rfl, by simp, ?_⟩
    rw [escapedChars_cons, List.append_assoc] at h
    simp only [escapedChars_cons, escapedChars_nil, List.append_nil] at hsize ⊢
    intro dtd f more sc
    rcases escapeChar_value x with ⟨body, hbody, -, href⟩ | ⟨hw, h1, h2, h3, h4⟩
    · have hr := href s i _ h
      rw [hbody] at h hr hsize ⊢
      rw [← String.singleton_eq_ofList]
      exact Source.leads_of_step (by simp) (by simp at hsize ⊢; omega) (Source.content_refersTo h hr)
    · have hlf : x = '\n' := by
        by_contra hne
        simp [isPlainData, hxd, h1, h2, h3, h4, hne] at hx
      subst hlf
      rw [hw] at h hsize ⊢
      exact Source.leads_of_step (by simp) (by simp at hsize ⊢; omega)
        (Source.content_data (Source.contentToken_lf h))

theorem leads_escaped {v : List Char} (hv : ∀ c ∈ v, isDocumentChar c = true) {f : Frame}
    (hf : f.children = #[]) {more : List Frame} {sc : Scope}
    (h : s.Reads i (escapedChars valueEscape v ++ '<' :: rest)) :
    s.Leads dtd ⟨i, f :: more, sc⟩
      ⟨i + (escapedChars valueEscape v).length,
        (if v = [] then f else f.addData (String.ofList v)) :: more, sc⟩ := by
  -- each token reads a nonempty part of the text, so the induction is on its length
  induction hlen : v.length using Nat.strong_induction_on generalizing v i f with
  | _ n ih =>
    by_cases hne : v = []
    · subst hne
      simpa using Source.Leads.refl _
    obtain ⟨p, q, rfl, hp, hstep⟩ := leads_escaped_step hv hne h
    have hq : ∀ c ∈ q, isDocumentChar c = true := fun c hc => hv c (by simp [hc])
    rw [escapedChars_append, List.append_assoc] at h
    have hrest := ih q.length (by rw [← hlen, List.length_append]; have := List.length_pos_iff.mpr hp; omega)
      hq (f := f.addData (String.ofList p)) (by rw [Frame.addData_children, hf])
      (Source.reads_append.mp h).2 rfl
    refine (hstep dtd f more sc).trans ?_
    rw [escapedChars_append, List.length_append, ← Nat.add_assoc, if_neg hne]
    by_cases hq0 : q = []
    · subst hq0
      simpa using hrest
    · rwa [if_neg hq0, Frame.addData_addData hf, ← String.ofList_append] at hrest

end Content

end UpnpBinding.Soap
