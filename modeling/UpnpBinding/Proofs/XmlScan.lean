import UpnpBinding.Xml.Reader
import Mathlib.Data.List.Forall2
import Mathlib.Data.List.Chain
/-!
What the scanner of the reader makes of text written in the expected shapes. A position of the
source `Reads` a list of characters when they stand there; from that, each scanner is run to its
end: names and qualified names, start tags with their attributes, end tags, runs of character
data, references, and the XML declaration with its pseudo-attributes. The name tables are
checked once, by evaluation, to be ordered and to lie among the characters a document may hold,
so that a binary search over them finds every character of a range.
-/
namespace UpnpBinding.Text.RangeTable

theorem searchBetween_sound {t : RangeTable} {c lo hi : Nat} (h : t.searchBetween c lo hi = true) :
    ∃ k, ∃ hk : k < t.size, t[k].1 ≤ c ∧ c ≤ t[k].2 := by
  fun_induction searchBetween t c lo hi with
  | case1 lo hi hlt mid a b hmid hca ih => exact ih h
  | case2 lo hi hlt mid a b hmid hca hbc ih => exact ih h
  | case3 lo hi hlt mid a b hmid hca hbc =>
    obtain ⟨hm, hab⟩ := Array.getElem?_eq_some_iff.mp hmid
    exact ⟨mid, hm, by rw [hab]; omega⟩
  | case4 => cases h
  | case5 => cases h

def Ordered (t : RangeTable) : Prop := ∀ k (h : k + 1 < t.size), t[k].2 < t[k + 1].1

theorem Ordered.le {t : RangeTable} (ht : Ordered t) (hw : ∀ k (h : k < t.size), t[k].1 ≤ t[k].2)
    {j k : Nat} (hjk : j < k) (hk : k < t.size) : t[j].2 < t[k].1 := by
  induction k with
  | zero => omega
  | succ k ih =>
    have hstep := ht k hk
    rcases Nat.lt_succ_iff_lt_or_eq.mp hjk with hj | rfl
    · have := ih hj (by omega)
      have := hw k (by omega)
      omega
    · exact hstep

theorem searchBetween_of_mem {t : RangeTable} (ht : Ordered t) (hw : ∀ k (h : k < t.size), t[k].1 ≤ t[k].2)
    {c k : Nat} (hk : k < t.size) (hc : t[k].1 ≤ c ∧ c ≤ t[k].2) {lo hi : Nat} (hlo : lo ≤ k)
    (hhi : k < hi) (hsize : hi ≤ t.size) : t.searchBetween c lo hi = true := by
  fun_induction searchBetween t c lo hi with
  | case1 lo hi hlt mid a b hmid hca ih =>
    -- the range sought starts at or before `c`, so it lies left of the middle one
    have hm : mid < t.size := by omega
    have hab : t[mid] = (a, b) := by simpa [Array.getElem?_eq_getElem hm] using hmid
    refine ih hlo ?_ (by omega)
    rcases Nat.lt_or_ge k mid with h | h
    · exact h
    · rcases Nat.lt_or_eq_of_le h with h | rfl
      · have := ht.le hw h hk
        have := hw mid hm
        simp only [hab] at *
        omega
      · simp only [hab] at hc
        omega
  | case2 lo hi hlt mid a b hmid hca hbc ih =>
    -- the range sought ends at or after `c`, so it lies right of the middle one
    have hm : mid < t.size := by omega
    have hab : t[mid] = (a, b) := by simpa [Array.getElem?_eq_getElem hm] using hmid
    refine ih ?_ hhi hsize
    rcases Nat.lt_or_ge mid k with h | h
    · exact h
    · rcases Nat.lt_or_eq_of_le h with h | rfl
      · have := ht.le hw h hm
        have := hw k hk
        simp only [hab] at *
        omega
      · simp only [hab] at hc
        omega
  | case3 => rfl
  | case4 lo hi hlt mid hmid =>
    simp only [Array.getElem?_eq_none_iff] at hmid
    omega
  | case5 lo hi hlt => omega

/-! Checks of a table by evaluation, each linear in its size. -/

theorem ordered_of_isChain {t : RangeTable} (h : t.toList.IsChain (fun a b => a.2 < b.1)) :
    Ordered t := fun k hk => by
  have := h.getElem k (by simpa using hk)
  simpa only [Array.getElem_toList] using this

theorem wellFormed_of_forall {t : RangeTable} (h : ∀ p ∈ t.toList, p.1 ≤ p.2) :
    ∀ k (hk : k < t.size), t[k].1 ≤ t[k].2 :=
  fun _ hk => h _ (Array.mem_toList_iff.mpr (Array.getElem_mem hk))

/-- Whether each range of `l` lies inside a range of `m`, for `l` and `m` in ascending order:
one walk along `m` that never steps back. -/
def coveredBy : List (Nat × Nat) → List (Nat × Nat) → Bool
  | [], _ => true
  | r :: rs, m =>
    let rest := m.dropWhile (fun r' => !(r'.1 ≤ r.1 && r.2 ≤ r'.2))
    !rest.isEmpty && coveredBy rs rest

theorem covered_of_coveredBy {l m : List (Nat × Nat)} (h : coveredBy l m = true) :
    ∀ r ∈ l, ∃ r' ∈ m, r'.1 ≤ r.1 ∧ r.2 ≤ r'.2 := by
  induction l generalizing m with
  | nil => simp
  | cons r rs ih =>
    simp only [coveredBy, Bool.and_eq_true, Bool.not_eq_true', List.isEmpty_eq_false_iff] at h
    obtain ⟨hne, hrest⟩ := h
    -- the walk stops at the first range of `m` that holds `r`, and the rest goes on from there
    have hsub := (List.dropWhile_sublist (l := m) fun r' => !(r'.1 ≤ r.1 && r.2 ≤ r'.2)).subset
    intro x hx
    rcases List.mem_cons.mp hx with rfl | hx
    · have hhead := List.head_dropWhile_not _ hne
      simp only [Bool.not_eq_false', Bool.and_eq_true, decide_eq_true_eq] at hhead
      exact ⟨_, hsub (List.head_mem hne), hhead⟩
    · obtain ⟨r', hr', hc⟩ := ih hrest x hx
      exact ⟨r', hsub hr', hc⟩

end UpnpBinding.Text.RangeTable

namespace UpnpBinding.Xml

theorem forall_mem_of_all_decide {p : α → Prop} [DecidablePred p] {l : List α}
    (h : (l.all fun x => decide (p x)) = true) : ∀ x ∈ l, p x :=
  fun x hx => of_decide_eq_true (List.all_eq_true.mp h x hx)

open Text RangeTable

theorem isDocumentChar_of_le {c : Char} (h1 : 0x20 ≤ c.toNat) (h2 : c.toNat ≤ 0xD7A3) :
    isDocumentChar c = true := by
  simp only [isDocumentChar]
  rw [if_neg (by omega)]
  simp only [bne_iff_ne, ne_eq, Bool.and_eq_true]
  omega

theorem nameStartRanges_le : ∀ p ∈ nameStartRanges.toList, p.2 ≤ 0xD7A3 := by decide +kernel

theorem isDocumentChar_of_isNameStart {c : Char} (h : isNameStart c = true) :
    isDocumentChar c = true := by
  by_cases ha : c.toNat < 0x80
  · have hc : ∀ n : Fin 0x80, isNameStart (Char.ofNat n) = true →
        isDocumentChar (Char.ofNat n) = true := by decide
    have := hc ⟨c.toNat, ha⟩ (by simpa [Char.ofNat_toNat] using h)
    simpa [Char.ofNat_toNat] using this
  · unfold isNameStart at h
    rw [if_neg ha] at h
    obtain ⟨k, hk, hc⟩ := searchBetween_sound h
    have := nameStartRanges_le _ (Array.mem_toList_iff.mpr (Array.getElem_mem hk))
    exact isDocumentChar_of_le (by omega) (by omega)

theorem nameRanges_ordered : Ordered nameRanges :=
  ordered_of_isChain (by decide +kernel)

theorem nameRanges_wellFormed : ∀ k (h : k < nameRanges.size), nameRanges[k].1 ≤ nameRanges[k].2 :=
  wellFormed_of_forall (by decide +kernel)

theorem nameStart_covered : coveredBy nameStartRanges.toList nameRanges.toList = true := by
  decide +kernel

theorem isNameChar_of_isNameStart {c : Char} (h : isNameStart c = true) : isNameChar c = true := by
  by_cases ha : c.toNat < 0x80
  · have hc : ∀ n : Fin 0x80, isNameStart (Char.ofNat n) = true →
        isNameChar (Char.ofNat n) = true := by decide
    have := hc ⟨c.toNat, ha⟩ (by simpa [Char.ofNat_toNat] using h)
    simpa [Char.ofNat_toNat] using this
  · unfold isNameStart at h
    unfold isNameChar
    rw [if_neg ha] at h ⊢
    obtain ⟨k, hk, hck⟩ := searchBetween_sound h
    obtain ⟨r', hr', hcont⟩ :=
      covered_of_coveredBy nameStart_covered _ (Array.mem_toList_iff.mpr (Array.getElem_mem hk))
    obtain ⟨k', hk', rfl⟩ := List.getElem_of_mem hr'
    simp only [Array.length_toList] at hk'
    exact searchBetween_of_mem nameRanges_ordered nameRanges_wellFormed hk' (by simp only [Array.getElem_toList] at hcont; omega)
      (Nat.zero_le _) hk' (Nat.le_refl _)

theorem isDocumentChar_of_isDigit {c : Char} (h : c.isDigit = true) : isDocumentChar c = true := by
  unfold Char.isDigit at h
  simp only [Bool.and_eq_true, decide_eq_true_eq, ge_iff_le, UInt32.le_iff_toNat_le] at h
  have : '9'.val.toNat = 57 := rfl
  have : '0'.val.toNat = 48 := rfl
  exact isDocumentChar_of_le (by simp only [Char.toNat]; omega) (by simp only [Char.toNat]; omega)

def IsNCName (w : List Char) : Prop :=
  ∃ d r, w = d :: r ∧ isNameStart d = true ∧ ∀ x ∈ r, isNameChar x = true

inductive IsQName : List Char → Prop
  | plain {w : List Char} : IsNCName w → IsQName w
  | prefixed {p l : List Char} : IsNCName p → IsNCName l → IsQName (p ++ ':' :: l)

theorem IsQName.ne_nil {w : List Char} (h : IsQName w) : w ≠ [] := by
  cases h with
  | plain h => obtain ⟨d, r, rfl, -⟩ := h; simp
  | prefixed => simp

theorem IsQName.chars {d : Char} {r : List Char} (h : IsQName (d :: r)) :
    isNameStart d = true ∧ ∀ x ∈ r, isNameChar x = true ∨ x = ':' := by
  generalize hw : d :: r = w at h
  cases h with
  | plain h =>
    obtain ⟨d', r', rfl, hd, hr⟩ := h
    simp only [List.cons.injEq] at hw
    obtain ⟨rfl, rfl⟩ := hw
    exact ⟨hd, fun x hx => .inl (hr x hx)⟩
  | prefixed hp hl =>
    obtain ⟨d', r', rfl, hd, hr⟩ := hp
    obtain ⟨e, r'', rfl, he, hr'⟩ := hl
    simp only [List.cons_append, List.cons.injEq] at hw
    obtain ⟨rfl, rfl⟩ := hw
    refine ⟨hd, fun x hx => ?_⟩
    simp only [List.mem_append, List.mem_cons] at hx
    rcases hx with hx | rfl | rfl | hx
    · exact .inl (hr x hx)
    · exact .inr rfl
    · exact .inl (isNameChar_of_isNameStart he)
    · exact .inl (hr' x hx)

namespace Source

def Reads (s : Source) (i : Nat) (w : List Char) : Prop := w <+: s.chars.toList.drop i

variable {s : Source} {i : Nat}

theorem reads_iff {w : List Char} : s.Reads i w ↔ ∃ t, s.chars.toList.drop i = w ++ t := by
  constructor
  · rintro ⟨t, ht⟩; exact ⟨t, ht.symm⟩
  · rintro ⟨t, ht⟩; exact ⟨t, ht.symm⟩

theorem reads_append {u v : List Char} :
    s.Reads i (u ++ v) ↔ s.Reads i u ∧ s.Reads (i + u.length) v := by
  simp only [reads_iff]
  constructor
  · rintro ⟨t, ht⟩
    refine ⟨⟨v ++ t, by rw [ht, List.append_assoc]⟩, ⟨t, ?_⟩⟩
    rw [← List.drop_drop, ht, List.append_assoc, List.drop_left]
  · rintro ⟨⟨t1, h1⟩, ⟨t2, h2⟩⟩
    refine ⟨t2, ?_⟩
    rw [← List.drop_drop] at h2
    rw [← List.take_append_drop u.length (s.chars.toList.drop i), h2, h1, List.take_left,
      List.append_assoc]

theorem reads_cons {c : Char} {w : List Char} :
    s.Reads i (c :: w) ↔ (∃ h : i < s.chars.size, s.chars[i] = c) ∧ s.Reads (i + 1) w := by
  rw [show c :: w = [c] ++ w from rfl, reads_append]
  simp only [List.length_singleton]
  refine and_congr_left fun _ => ?_
  simp only [reads_iff, List.singleton_append]
  constructor
  · rintro ⟨t, ht⟩
    have h0 := congrArg (·[0]?) ht
    simp only [List.getElem?_drop, Nat.add_zero, Array.getElem?_toList, List.getElem?_cons_zero] at h0
    exact Array.getElem?_eq_some_iff.mp h0
  · rintro ⟨hi, hc⟩
    refine ⟨s.chars.toList.drop (i + 1), ?_⟩
    rw [List.drop_eq_getElem_cons (by simpa using hi)]
    simp [hc]

theorem Reads.shorter {u w : List Char} (h : s.Reads i w) (hu : u <+: w) : s.Reads i u :=
  hu.trans h

theorem Reads.upto {u v : List Char} {c : Char} (h : s.Reads i (u ++ c :: v)) : s.Reads i (u ++ [c]) :=
  h.shorter ⟨v, by simp⟩

theorem getElem_of_reads {c : Char} {w : List Char} (h : s.Reads i (c :: w)) :
    ∃ hi : i < s.chars.size, s.chars[i] = c := (reads_cons.mp h).1

theorem peek_of_reads {c : Char} {w : List Char} (h : s.Reads i (c :: w))
    (hc : isDocumentChar c = true) : s.peek i = .char c := by
  obtain ⟨hi, hci⟩ := getElem_of_reads h
  rw [peek, dif_pos hi]
  simp only [hci, hc, if_true]

theorem hasAt_of_reads {c : Char} {w : List Char} (h : s.Reads i (c :: w)) : s.hasAt i = true := by
  obtain ⟨hi, -⟩ := getElem_of_reads h
  simp [hasAt, hi]

theorem peek_of_complete (he : s.ending = .complete) (hi : s.chars.size ≤ i) : s.peek i = .done := by
  rw [peek, dif_neg (by omega), he]

theorem slice_of_reads {w : List Char} (h : s.Reads i w) : s.slice i (i + w.length) = String.ofList w := by
  obtain ⟨t, ht⟩ := reads_iff.mp h
  rw [slice, Array.toList_extract, List.extract_eq_take_drop, Nat.add_sub_cancel_left, ht,
    List.take_left]

theorem nameEnd_of_reads {w : List Char} {c : Char} (h : s.Reads i (w ++ [c]))
    (hw : ∀ x ∈ w, isNameChar x = true) (hc : isNameChar c = false) : s.nameEnd i = i + w.length := by
  induction w generalizing i with
  | nil =>
    obtain ⟨hi, hci⟩ := getElem_of_reads h
    rw [nameEnd, dif_pos hi]
    simp [hci, hc]
  | cons x w ih =>
    obtain ⟨⟨hi, hxi⟩, hrest⟩ := reads_cons.mp h
    rw [nameEnd, dif_pos hi]
    simp only [hxi, hw x List.mem_cons_self, if_true]
    rw [ih hrest (fun y hy => hw y (List.mem_cons_of_mem x hy)), List.length_cons]
    omega

theorem rawNameEnd_of_reads {w : List Char} {c : Char} (h : s.Reads i (w ++ [c]))
    (hw : ∀ x ∈ w, isNameChar x = true ∨ x = ':') (hc : isNameChar c = false) (hc' : c ≠ ':') :
    s.rawNameEnd i = i + w.length := by
  induction w generalizing i with
  | nil =>
    obtain ⟨hi, hci⟩ := getElem_of_reads h
    rw [rawNameEnd, dif_pos hi]
    simp [hci, hc, hc']
  | cons x w ih =>
    obtain ⟨⟨hi, hxi⟩, hrest⟩ := reads_cons.mp h
    rw [rawNameEnd, dif_pos hi]
    have hx : (isNameChar x || x == ':') = true := by
      rcases hw x List.mem_cons_self with hx | rfl <;> simp [*]
    simp only [hxi, hx, if_true]
    rw [ih hrest (fun y hy => hw y (List.mem_cons_of_mem x hy)), List.length_cons]
    omega

theorem spaceEnd_of_reads {c : Char} {w : List Char} (h : s.Reads i (c :: w))
    (hc : isMarkupSpace c = false) : s.spaceEnd i = i := by
  obtain ⟨hi, hci⟩ := getElem_of_reads h
  rw [spaceEnd, dif_pos hi]
  simp [hci, hc]

theorem qnameEnd_local {α : Type} {w : List Char} {c : Char} (b : Bool) (h : s.Reads i (w ++ [c]))
    (hw : ∀ x ∈ w, isNameChar x = true) (hc : isNameChar c = false) (hc' : c ≠ ':') :
    s.qnameEnd (α := α) i b = .ok (i + w.length) := by
  induction w generalizing i with
  | nil =>
    obtain ⟨hi, hci⟩ := getElem_of_reads h
    rw [qnameEnd, dif_pos hi]
    simp [hci, hc, hc']
  | cons x w ih =>
    obtain ⟨⟨hi, hxi⟩, hrest⟩ := reads_cons.mp h
    rw [qnameEnd, dif_pos hi]
    simp only [hxi, hw x List.mem_cons_self, if_true]
    rw [ih hrest (fun y hy => hw y (List.mem_cons_of_mem x hy)), List.length_cons]
    congr 1
    omega

theorem qnameEnd_prefixed {α : Type} {p l : List Char} {e c : Char}
    (h : s.Reads i (p ++ ':' :: e :: l ++ [c])) (hp : ∀ x ∈ p, isNameChar x = true)
    (he : isNameStart e = true) (hl : ∀ x ∈ l, isNameChar x = true) (hc : isNameChar c = false)
    (hc' : c ≠ ':') : s.qnameEnd (α := α) i false = .ok (i + p.length + 2 + l.length) := by
  induction p generalizing i with
  | nil =>
    simp only [List.nil_append, List.cons_append] at h
    obtain ⟨⟨hi, hci⟩, h1⟩ := reads_cons.mp h
    rw [qnameEnd, dif_pos hi]
    simp only [hci, show isNameChar ':' = false from rfl, Bool.false_eq_true, if_false, beq_self_eq_true,
      if_true, peek_of_reads h1 (isDocumentChar_of_isNameStart he), he]
    rw [qnameEnd_local true ((reads_cons.mp h1).2) hl hc hc']
    simp only [List.length_nil]
  | cons x p ih =>
    simp only [List.cons_append] at h
    obtain ⟨⟨hi, hxi⟩, hrest⟩ := reads_cons.mp h
    rw [qnameEnd, dif_pos hi]
    simp only [hxi, hp x List.mem_cons_self, if_true]
    rw [ih (by simpa using hrest) (fun y hy => hp y (List.mem_cons_of_mem x hy)), List.length_cons]
    congr 1
    omega

theorem qnameEnd_of_isQName {α : Type} {d c : Char} {r rest : List Char} (hq : IsQName (d :: r))
    (h : s.Reads i (d :: r ++ c :: rest)) (hc : isNameChar c = false) (hc' : c ≠ ':') :
    s.qnameEnd (α := α) (i + 1) false = .ok (i + 1 + r.length) := by
  have h1 : s.Reads (i + 1) (r ++ [c]) := by
    have := (reads_cons.mp h).2
    exact (reads_append.mp (by simpa using this)).1
  generalize hw : d :: r = w at hq
  cases hq with
  | plain hn =>
    obtain ⟨d', r', he, -, hr⟩ := hn
    rw [← hw] at he
    simp only [List.cons.injEq] at he
    obtain ⟨rfl, rfl⟩ := he
    exact qnameEnd_local false h1 hr hc hc'
  | prefixed hp hl =>
    obtain ⟨d', p, rfl, -, hp⟩ := hp
    obtain ⟨e, l, rfl, he, hl⟩ := hl
    simp only [List.cons_append, List.cons.injEq] at hw
    obtain ⟨rfl, rfl⟩ := hw
    rw [qnameEnd_prefixed (by simpa using h1) hp he hl hc hc']
    simp only [List.length_append, List.length_cons]
    congr 1
    omega

theorem afterLt_name {d : Char} {w : List Char} (h : s.Reads i ('<' :: d :: w))
    (hd : isNameStart d = true) : s.afterLt i = s.startTag i := by
  have h1 := (reads_cons.mp h).2
  rw [afterLt, peek_of_reads h1 (isDocumentChar_of_isNameStart hd)]
  simp only [hd, if_true]

theorem contentToken_lt {w : List Char} (h : s.Reads i ('<' :: w)) : s.contentToken i = s.afterLt i := by
  rw [contentToken, peek_of_reads h (by decide)]
  simp only [beq_self_eq_true, if_true]

theorem contentToken_startTag {w rest : List Char} (hq : IsQName w)
    (h : s.Reads i ('<' :: w ++ '>' :: rest)) :
    s.contentToken i = .token (.startTag (String.ofList w) [] false) (i + w.length + 2) := by
  obtain ⟨d, r, rfl⟩ := List.exists_cons_of_ne_nil hq.ne_nil
  have hd := hq.chars.1
  have h1 : s.Reads (i + 1) (d :: r ++ '>' :: rest) := (reads_cons.mp h).2
  have hend : s.Reads (i + 1 + (d :: r).length) ('>' :: rest) := (reads_append.mp h1).2
  rw [contentToken_lt h, afterLt_name (w := r ++ '>' :: rest) (by simpa using h) hd, startTag,
    qnameEnd_of_isQName hq h1 (by decide) (by decide)]
  have hname := slice_of_reads (reads_append.mp h1).1
  simp only [List.length_cons] at hend hname ⊢
  rw [show i + 1 + 1 + r.length = i + 1 + (r.length + 1) by omega, peek_of_reads hend (by decide)]
  simp only [hname]
  congr 1
  omega

theorem contentToken_startTag_space {w rest : List Char} (hq : IsQName w)
    (h : s.Reads i ('<' :: w ++ ' ' :: rest)) :
    s.contentToken i = s.tagRest (i + w.length + 2) (String.ofList w) [] := by
  obtain ⟨d, r, rfl⟩ := List.exists_cons_of_ne_nil hq.ne_nil
  have hd := hq.chars.1
  have h1 : s.Reads (i + 1) (d :: r ++ ' ' :: rest) := (reads_cons.mp h).2
  have hend : s.Reads (i + 1 + (d :: r).length) (' ' :: rest) := (reads_append.mp h1).2
  rw [contentToken_lt h, afterLt_name (w := r ++ ' ' :: rest) (by simpa using h) hd, startTag,
    qnameEnd_of_isQName hq h1 (by decide) (by decide)]
  have hname := slice_of_reads (reads_append.mp h1).1
  simp only [List.length_cons] at hend hname ⊢
  rw [show i + 1 + 1 + r.length = i + 1 + (r.length + 1) by omega, peek_of_reads hend (by decide)]
  simp only [hname]
  rw [show i + (r.length + 1) + 2 = i + 1 + (r.length + 1) + 1 by omega]
  rfl

theorem contentToken_endTag {w rest : List Char} (hq : IsQName w)
    (h : s.Reads i ('<' :: '/' :: w ++ '>' :: rest)) :
    s.contentToken i = .token (.endTag (String.ofList w)) (i + w.length + 3) := by
  obtain ⟨d, r, rfl⟩ := List.exists_cons_of_ne_nil hq.ne_nil
  obtain ⟨hd, hr⟩ := hq.chars
  have h1 := (reads_cons.mp h).2
  have h2 : s.Reads (i + 1 + 1) (d :: r ++ '>' :: rest) := (reads_cons.mp h1).2
  have h3 : s.Reads (i + 1 + 1 + 1) (r ++ ['>']) := by
    have := (reads_cons.mp h2).2
    exact (reads_append.mp (by simpa using this)).1
  have hend : s.Reads (i + 1 + 1 + 1 + r.length) ('>' :: rest) := by
    have := (reads_cons.mp h2).2
    exact (reads_append.mp this).2
  have hname := slice_of_reads (reads_append.mp h2).1
  rw [contentToken_lt h, afterLt, peek_of_reads h1 (by decide)]
  simp only [show isNameStart '/' = false from rfl, Bool.false_eq_true, if_false,
    show ('/' == '!') = false from rfl, show ('/' == '?') = false from rfl, beq_self_eq_true, if_true]
  rw [endTag, show i + 2 = i + 1 + 1 from rfl, peek_of_reads h2 (isDocumentChar_of_isNameStart hd)]
  simp only [hd, if_true]
  rw [rawNameEnd_of_reads h3 hr (by decide) (by decide), peek_of_reads hend (by decide)]
  simp only [List.length_cons] at hname
  rw [show i + 1 + 1 + 1 + r.length = i + 1 + 1 + (r.length + 1) by omega, hname]
  simp only [List.length_cons]
  congr 1
  omega

theorem reference_entity {n rest : List Char} (hn : IsNCName n) (h : s.Reads i (n ++ ';' :: rest)) :
    s.reference i = .token (.entity (String.ofList n)) (i + n.length + 1) := by
  obtain ⟨d, r, rfl, hd, hr⟩ := hn
  have h1 : s.Reads (i + 1) (r ++ ';' :: rest) := (reads_cons.mp h).2
  have hend : s.Reads (i + 1 + r.length) (';' :: rest) := (reads_append.mp h1).2
  have hname := slice_of_reads (reads_append.mp h).1
  rw [reference, peek_of_reads h (isDocumentChar_of_isNameStart hd)]
  have hd' : (d == '#') = false := by
    rw [beq_eq_false_iff_ne]; rintro rfl; cases hd
  simp only [hd', hd, Bool.false_eq_true, if_false, if_true]
  rw [nameEnd_of_reads h1.upto hr (by decide), peek_of_reads hend (by decide)]
  simp only [List.length_cons] at hname
  rw [show i + 1 + r.length = i + (r.length + 1) by omega]
  simp only [hname, List.length_cons]

def decimalFrom (v : Nat) (ds : List Char) : Nat := ds.foldl (fun v x => v * 10 + (x.toNat - '0'.toNat)) v

theorem le_decimalFrom (v : Nat) (ds : List Char) : v ≤ decimalFrom v ds := by
  induction ds generalizing v with
  | nil => exact Nat.le_refl v
  | cons x ds ih =>
    have := ih (v * 10 + (x.toNat - '0'.toNat))
    simp only [decimalFrom, List.foldl_cons] at this ⊢
    omega

theorem digitValue_of_isDigit {x : Char} (hx : x.isDigit = true) :
    digitValue false x = some (x.toNat - '0'.toNat) := by
  have hx' : ('0' ≤ x && x ≤ '9') = true := by
    simpa [Char.isDigit, Char.le_def] using hx
  simp [digitValue, hx']

theorem charRefDigits_decimal {ds rest : List Char} {v : Nat} (h : s.Reads i (ds ++ ';' :: rest))
    (hds : ∀ x ∈ ds, x.isDigit = true) (hv : decimalFrom v ds < 0x110000) :
    s.charRefDigits i false (some v) =
      .token (.char (referencedChar (decimalFrom v ds))) (i + ds.length + 1) := by
  induction ds generalizing i v with
  | nil =>
    obtain ⟨hi, hci⟩ := getElem_of_reads h
    rw [charRefDigits, dif_pos hi]
    simp [hci, decimalFrom]
  | cons x ds ih =>
    obtain ⟨⟨hi, hxi⟩, hrest⟩ := reads_cons.mp h
    have hx := hds x List.mem_cons_self
    have hxs : x ≠ ';' := by rintro rfl; cases hx
    have hnext : v * 10 + (x.toNat - '0'.toNat) < 0x110000 :=
      Nat.lt_of_le_of_lt (le_decimalFrom _ ds) hv
    rw [charRefDigits, dif_pos hi]
    simp only [hxi, beq_iff_eq, hxs, if_false, digitValue_of_isDigit hx, Option.bind_some,
      Bool.false_eq_true, hnext, if_true]
    rw [ih hrest (fun y hy => hds y (List.mem_cons_of_mem x hy)) hv]
    simp only [decimalFrom, List.foldl_cons, List.length_cons]
    congr 1
    omega

theorem reference_decimal {d : Char} {ds rest : List Char} (h : s.Reads i ('#' :: d :: ds ++ ';' :: rest))
    (hd : d.isDigit = true) (hds : ∀ x ∈ ds, x.isDigit = true) (hv : decimalFrom 0 (d :: ds) < 0x110000) :
    s.reference i = .token (.char (referencedChar (decimalFrom 0 (d :: ds)))) (i + ds.length + 3) := by
  have h1 := (reads_cons.mp h).2
  have h2 := (reads_cons.mp h1).2
  have hdoc := isDocumentChar_of_isDigit hd
  rw [reference, peek_of_reads h (by decide)]
  simp only [beq_self_eq_true, if_true]
  rw [peek_of_reads h1 hdoc]
  have hdx : d ≠ 'x' := by rintro rfl; cases hd
  split
  · rename_i heq; cases heq; exact absurd rfl hdx
  · rename_i d' heq
    cases heq
    rw [digitValue_of_isDigit hd]
    simp only
    rw [charRefDigits_decimal h2 hds (by simpa [decimalFrom] using hv)]
    simp only [decimalFrom, List.foldl_cons, Nat.zero_mul, Nat.zero_add]
    congr 1
    omega
  · rename_i hne; exact absurd rfl (hne d)

theorem attributeValueEnd_quote {α : Type} {q : Char} {rest : List Char} (h : s.Reads i (q :: rest))
    (hq : isDocumentChar q = true) : s.attributeValueEnd (α := α) i q = .ok i := by
  obtain ⟨hi, hci⟩ := getElem_of_reads h
  rw [attributeValueEnd, dif_pos hi]
  simp [hci, hq]

theorem attributeValueEnd_plain {α : Type} {q : Char} {w rest : List Char} (h : s.Reads i (w ++ rest))
    (hw : ∀ x ∈ w, isDocumentChar x = true ∧ x ≠ q ∧ x ≠ '<' ∧ x ≠ '&') :
    s.attributeValueEnd (α := α) i q = s.attributeValueEnd (α := α) (i + w.length) q := by
  induction w generalizing i with
  | nil => rfl
  | cons x w ih =>
    obtain ⟨⟨hi, hxi⟩, hrest⟩ := reads_cons.mp h
    obtain ⟨hd, hq, hlt, hamp⟩ := hw x List.mem_cons_self
    rw [attributeValueEnd, dif_pos hi]
    simp only [hxi, hd, Bool.not_true, Bool.false_eq_true, if_false, beq_iff_eq, hq, hlt, hamp]
    rw [ih hrest (fun y hy => hw y (List.mem_cons_of_mem x hy)), List.length_cons]
    congr 1
    omega

theorem attributeValueEnd_amp {α : Type} {q : Char} {rest : List Char} {r : Reference} {next : Nat}
    (h : s.Reads i ('&' :: rest)) (hq : q ≠ '&') (hr : s.reference (i + 1) = .token r next) :
    s.attributeValueEnd (α := α) i q = s.attributeValueEnd (α := α) (i + 1) q := by
  obtain ⟨hi, hci⟩ := getElem_of_reads h
  rw [attributeValueEnd, dif_pos hi]
  have hq' : ('&' == q) = false := by rw [beq_eq_false_iff_ne]; exact fun h => hq h.symm
  simp only [hci, show isDocumentChar '&' = true from rfl, Bool.not_true, Bool.false_eq_true, if_false,
    hq', show ('&' == '<') = false from rfl, beq_self_eq_true, if_true, hr]

end Source

/-- An attribute as a start tag writes it: a qualified name, `=`, and the value between quotes of
one kind. -/
structure WrittenAttribute where
  name : List Char
  quote : Char
  value : List Char
  isQName : IsQName name
  isQuote : quote = '"' ∨ quote = '\''

def WrittenAttribute.text (a : WrittenAttribute) : List Char :=
  a.name ++ '=' :: a.quote :: a.value ++ [a.quote]

namespace Source

variable {s : Source} {i : Nat}

def ValueScans (s : Source) (a : WrittenAttribute) : Prop :=
  ∀ j rest, s.Reads j (a.value ++ a.quote :: rest) →
    s.attributeValueEnd (α := Markup) j a.quote = .ok (j + a.value.length)

/-- The raw attribute `r` that a start tag yields carries the written attribute `a`: the same
name, and the value's characters between its bounds. -/
def Carries (s : Source) (r : RawAttribute) (a : WrittenAttribute) : Prop :=
  r.name = String.ofList a.name ∧ s.Reads r.valueStart a.value ∧ r.valueEnd = r.valueStart + a.value.length

theorem attributeAt_of_reads {a : WrittenAttribute} {rest : List Char} (h : s.Reads i (a.text ++ rest))
    (hv : s.ValueScans a) :
    ∃ r, s.attributeAt (α := Markup) i = .ok (r, i + a.text.length) ∧ s.Carries r a := by
  obtain ⟨n, q, v, hn, hq⟩ := a
  simp only [WrittenAttribute.text, List.append_assoc, List.cons_append] at h ⊢
  obtain ⟨d, r, rfl⟩ := List.exists_cons_of_ne_nil hn.ne_nil
  have hq' : isDocumentChar q = true := by rcases hq with rfl | rfl <;> rfl
  have hqs : isMarkupSpace q = false := by rcases hq with rfl | rfl <;> rfl
  have heq : s.Reads (i + (d :: r).length) ('=' :: q :: (v ++ q :: rest)) := (reads_append.mp h).2
  have hval : s.Reads (i + (d :: r).length + 1 + 1) (v ++ q :: rest) :=
    (reads_cons.mp (reads_cons.mp heq).2).2
  have hname := slice_of_reads (reads_append.mp h).1
  simp only [List.length_cons] at heq hval hname
  rw [attributeAt]
  simp only [bind, Except.bind]
  rw [qnameEnd_of_isQName hn (by simpa using h) (by decide) (by decide)]
  simp only
  rw [attributeEq, show i + 1 + r.length = i + (r.length + 1) by omega, peek_of_reads heq (by decide)]
  simp only
  rw [spaceEnd_of_reads (reads_cons.mp heq).2 hqs, peek_of_reads (reads_cons.mp heq).2 hq']
  have hqq : (q == '"' || q == '\'') = true := by rcases hq with rfl | rfl <;> rfl
  simp only [hqq, if_true]
  rw [hv _ _ hval]
  simp only [pure, Except.pure, hname, Except.ok.injEq, Prod.mk.injEq, List.length_append, List.length_cons, List.length_nil]
  exact ⟨_, ⟨rfl, by omega⟩, rfl, (reads_append.mp hval).1, rfl⟩

theorem not_isMarkupSpace_of_isNameStart {c : Char} (h : isNameStart c = true) :
    isMarkupSpace c = false := by
  rw [Bool.eq_false_iff]
  intro hs
  simp only [isMarkupSpace, Bool.or_eq_true, beq_iff_eq] at hs
  rcases hs with ((rfl | rfl) | rfl) | rfl <;> cases h

theorem tagRest_attribute_start {a : WrittenAttribute} {rest : List Char} (h : s.Reads i (a.text ++ rest)) :
    ∃ d, (∃ hi : i < s.chars.size, s.chars[i] = d) ∧ isNameStart d = true := by
  obtain ⟨d, n, hdn⟩ := List.exists_cons_of_ne_nil a.isQName.ne_nil
  refine ⟨d, getElem_of_reads (w := n ++ '=' :: a.quote :: a.value ++ [a.quote] ++ rest) ?_,
    (hdn ▸ a.isQName).chars.1⟩
  simpa [WrittenAttribute.text, hdn] using h

theorem tagRest_last (name : String) (acc : List RawAttribute) {a : WrittenAttribute} {rest : List Char}
    (h : s.Reads i (a.text ++ '>' :: rest)) (hv : s.ValueScans a) :
    ∃ r, s.Carries r a ∧
      s.tagRest i name acc = .token (.startTag name (r :: acc).reverse false) (i + a.text.length + 1) := by
  obtain ⟨r, hat, hr⟩ := attributeAt_of_reads h hv
  obtain ⟨d, ⟨hi, hci⟩, hd⟩ := tagRest_attribute_start h
  refine ⟨r, hr, ?_⟩
  rw [tagRest, dif_pos hi]
  have hgt : (d == '>') = false := by rw [beq_eq_false_iff_ne]; rintro rfl; cases hd
  have hsl : (d == '/') = false := by rw [beq_eq_false_iff_ne]; rintro rfl; cases hd
  simp only [hci, not_isMarkupSpace_of_isNameStart hd, hgt, hsl, hd, Bool.false_eq_true, if_false,
    if_true, hat, peek_of_reads (reads_append.mp h).2 (by decide)]

theorem tagRest_next (name : String) (acc : List RawAttribute) {a : WrittenAttribute} {rest : List Char}
    (h : s.Reads i (a.text ++ ' ' :: rest)) (hv : s.ValueScans a) :
    ∃ r, s.Carries r a ∧
      s.tagRest i name acc = s.tagRest (i + a.text.length + 1) name (r :: acc) := by
  obtain ⟨r, hat, hr⟩ := attributeAt_of_reads h hv
  obtain ⟨d, ⟨hi, hci⟩, hd⟩ := tagRest_attribute_start h
  refine ⟨r, hr, ?_⟩
  have hlen : 0 < a.text.length := by
    simp only [WrittenAttribute.text, List.length_append, List.length_cons, List.length_nil]; omega
  conv_lhs => rw [tagRest, dif_pos hi]
  have hgt : (d == '>') = false := by rw [beq_eq_false_iff_ne]; rintro rfl; cases hd
  have hsl : (d == '/') = false := by rw [beq_eq_false_iff_ne]; rintro rfl; cases hd
  simp only [hci, not_isMarkupSpace_of_isNameStart hd, hgt, hsl, hd, Bool.false_eq_true, if_false,
    if_true, hat, peek_of_reads (reads_append.mp h).2 (by decide)]
  rw [if_pos (by omega)]
  rfl

theorem tagRest_attributes (name : String) (a : WrittenAttribute) (more : List WrittenAttribute)
    (acc : List RawAttribute) {rest : List Char}
    (h : s.Reads i (a.text ++ more.flatMap (fun b => ' ' :: b.text) ++ '>' :: rest))
    (hv : ∀ b ∈ a :: more, s.ValueScans b) :
    ∃ raws, s.tagRest i name acc = .token (.startTag name (acc.reverse ++ raws) false)
        (i + (a.text ++ more.flatMap (fun b => ' ' :: b.text)).length + 1) ∧
      List.Forall₂ s.Carries raws (a :: more) := by
  induction more generalizing i a acc with
  | nil =>
    obtain ⟨r, hr, htag⟩ := tagRest_last name acc (by simpa using h)
      (hv a List.mem_cons_self)
    exact ⟨[r], by rw [htag]; simp, .cons hr .nil⟩
  | cons b more ih =>
    obtain ⟨r, hr, htag⟩ := tagRest_next name acc
      (by simpa [List.append_assoc] using h) (hv a List.mem_cons_self)
    obtain ⟨raws, hrest, hraws⟩ := ih b (r :: acc)
      (by simpa [List.append_assoc] using (reads_cons.mp (reads_append.mp
        (by simpa [List.append_assoc] using h : s.Reads i (a.text ++ ' ' :: (b.text ++
          more.flatMap (fun b => ' ' :: b.text) ++ '>' :: rest)))).2).2)
      (fun c hc => hv c (List.mem_cons_of_mem a hc))
    refine ⟨r :: raws, ?_, .cons hr hraws⟩
    rw [htag, hrest]
    simp only [List.reverse_cons, List.append_assoc, List.singleton_append, List.flatMap_cons,
      List.length_append, List.length_cons]
    congr 1
    omega

end Source

def startTagText (w : List Char) (atts : List WrittenAttribute) : List Char :=
  '<' :: w ++ atts.flatMap (fun a => ' ' :: a.text) ++ ['>']

def endTagText (w : List Char) : List Char := '<' :: '/' :: w ++ ['>']

namespace Source

variable {s : Source} {i : Nat}

theorem contentToken_startTagText {w rest : List Char} {atts : List WrittenAttribute} (hq : IsQName w)
    (h : s.Reads i (startTagText w atts ++ rest)) (hv : ∀ a ∈ atts, s.ValueScans a) :
    ∃ raws, s.contentToken i = .token (.startTag (String.ofList w) raws false)
        (i + (startTagText w atts).length) ∧ List.Forall₂ s.Carries raws atts := by
  cases atts with
  | nil =>
    refine ⟨[], ?_, .nil⟩
    rw [contentToken_startTag hq (by simpa [startTagText] using h : s.Reads i ('<' :: w ++ '>' :: rest))]
    simp only [startTagText, List.flatMap_nil, List.append_nil, List.length_cons, List.length_append,
      List.length_nil]
    congr 1
  | cons a more =>
    have h' : s.Reads i ('<' :: w ++ ' ' :: (a.text ++ more.flatMap (fun b => ' ' :: b.text) ++ '>' :: rest)) := by
      simpa [startTagText, List.append_assoc] using h
    rw [contentToken_startTag_space hq h']
    have hrest := (reads_cons.mp (reads_append.mp (reads_cons.mp h').2).2).2
    obtain ⟨raws, htag, hraws⟩ := tagRest_attributes (String.ofList w) a more [] hrest hv
    refine ⟨raws, ?_, hraws⟩
    rw [show i + w.length + 2 = i + 1 + w.length + 1 by omega, htag]
    simp only [startTagText, List.reverse_nil, List.nil_append, List.flatMap_cons, List.length_cons,
      List.length_append, List.length_nil]
    congr 1
    omega

theorem contentToken_endTagText {w rest : List Char} (hq : IsQName w)
    (h : s.Reads i (endTagText w ++ rest)) :
    s.contentToken i = .token (.endTag (String.ofList w)) (i + (endTagText w).length) := by
  rw [contentToken_endTag hq (by simpa [endTagText] using h : s.Reads i ('<' :: '/' :: w ++ '>' :: rest))]
  simp only [endTagText, List.length_cons, List.length_append, List.length_nil]
  congr 1

end Source

def isPlainData (c : Char) : Bool :=
  isDocumentChar c && c != '<' && c != '&' && c != '\r' && c != '\n' && c != '>'

/-- The characters that end a run of data before the next token: markup, a reference, a line
feed. -/
def isDataStop (c : Char) : Bool := c == '<' || c == '&' || c == '\n'

theorem props_of_isPlainData {c : Char} (h : isPlainData c = true) :
    isDocumentChar c = true ∧ c ≠ '<' ∧ c ≠ '&' ∧ c ≠ '\r' ∧ c ≠ '\n' ∧ c ≠ '>' := by
  simpa [isPlainData, and_assoc] using h

namespace Source

variable {s : Source} {i : Nat}

theorem isDocumentChar_of_isDataStop {c : Char} (hc : isDataStop c = true) : isDocumentChar c = true := by
  simp only [isDataStop, Bool.or_eq_true, beq_iff_eq] at hc
  rcases hc with (rfl | rfl) | rfl <;> rfl

theorem peek_ne_gt {c : Char} {w : List Char} (h : s.Reads i (c :: w))
    (hc : isPlainData c = true ∨ isDataStop c = true) : s.peek i ≠ .char '>' := by
  have hdoc : isDocumentChar c = true := by
    rcases hc with hc | hc
    · exact (props_of_isPlainData hc).1
    · exact isDocumentChar_of_isDataStop hc
  rw [peek_of_reads h hdoc]
  intro heq
  cases heq
  revert hc
  decide

theorem bracket_in_data {p rest : List Char} {c : Char} (h : s.Reads (i + 1) (p ++ c :: rest))
    (hp : ∀ x ∈ p, isPlainData x = true) (hc : isDataStop c = true) :
    s.hasAt (i + 1) = true ∧ (s.peek (i + 1) = .char ']' → s.hasAt (i + 2) = true ∧ s.peek (i + 2) ≠ .char '>') := by
  cases p with
  | nil =>
    refine ⟨hasAt_of_reads h, fun hpk => ?_⟩
    rw [peek_of_reads h (isDocumentChar_of_isDataStop hc)] at hpk
    cases hpk
    cases hc
  | cons y p =>
    replace h : s.Reads (i + 1) (y :: (p ++ c :: rest)) := h
    have h2 := (reads_cons.mp h).2
    refine ⟨hasAt_of_reads h, fun _ => ?_⟩
    cases p with
    | nil => exact ⟨hasAt_of_reads h2, peek_ne_gt h2 (.inr hc)⟩
    | cons z p => exact ⟨hasAt_of_reads h2, peek_ne_gt h2 (.inl (hp z (by simp)))⟩

theorem dataEnd_of_reads {p rest : List Char} {c : Char} (h : s.Reads i (p ++ c :: rest))
    (hp : ∀ x ∈ p, isPlainData x = true) (hc : isDataStop c = true) : s.dataEnd i = .ok (i + p.length) := by
  have hcdoc := isDocumentChar_of_isDataStop hc
  induction p generalizing i with
  | nil =>
    obtain ⟨hi, hci⟩ := getElem_of_reads h
    rw [dataEnd, dif_pos hi]
    have : (!isDocumentChar c || c == '<' || c == '&' || c == '\r' || c == '\n') = true := by
      simp only [isDataStop, Bool.or_eq_true, beq_iff_eq] at hc
      rcases hc with (rfl | rfl) | rfl <;> rfl
    simp only [hci, this, if_true, List.length_nil, Nat.add_zero]
  | cons x p ih =>
    obtain ⟨⟨hi, hxi⟩, hrest⟩ := reads_cons.mp h
    replace hrest : s.Reads (i + 1) (p ++ c :: rest) := hrest
    obtain ⟨hxd, hxlt, hxamp, hxcr, hxlf, -⟩ := props_of_isPlainData (hp x List.mem_cons_self)
    have hp' := fun y hy => hp y (List.mem_cons_of_mem x hy)
    have hnext := ih hrest hp'
    rw [dataEnd, dif_pos hi]
    simp only [hxi]
    have hstop : ¬ ((!isDocumentChar x || x == '<' || x == '&' || x == '\r' || x == '\n') = true) := by
      simp [hxd, hxlt, hxamp, hxcr, hxlf]
    rw [if_neg hstop, List.length_cons, show i + (p.length + 1) = i + 1 + p.length by omega, ← hnext]
    -- a closing bracket is data here, since no `]]>` starts at it
    by_cases hbr : x = ']'
    · subst hbr
      obtain ⟨hat1, hbr2⟩ := bracket_in_data hrest hp' hc
      simp only [beq_self_eq_true, if_true, hat1]
      by_cases hpk : s.peek (i + 1) = .char ']'
      · obtain ⟨hat2, hne⟩ := hbr2 hpk
        simp only [hpk, beq_self_eq_true, if_true, hat2, beq_iff_eq, hne, if_false]
      · simp only [beq_iff_eq, hpk, if_false]
    · have : (x == ']') = false := by simpa using hbr
      simp only [this, Bool.false_eq_true, if_false]

theorem contentToken_data {x : Char} {p rest : List Char} {c : Char} (h : s.Reads i (x :: p ++ c :: rest))
    (hp : ∀ y ∈ x :: p, isPlainData y = true) (hc : isDataStop c = true) :
    s.contentToken i = .token (.data (String.ofList (x :: p))) (i + (x :: p).length) := by
  obtain ⟨⟨hi, hxi⟩, hrest⟩ := reads_cons.mp h
  replace hrest : s.Reads (i + 1) (p ++ c :: rest) := hrest
  obtain ⟨hxd, hxlt, hxamp, hxcr, hxlf, -⟩ := props_of_isPlainData (hp x List.mem_cons_self)
  have hp' := fun y hy => hp y (List.mem_cons_of_mem x hy)
  have hdata : s.dataFrom i (i + 1) = .token (.data (String.ofList (x :: p))) (i + (x :: p).length) := by
    have hslice := slice_of_reads (h.upto.shorter ⟨[c], by simp⟩ : s.Reads i (x :: p))
    rw [dataFrom, dataEnd_of_reads hrest hp' hc, show i + 1 + p.length = i + (x :: p).length by simp; omega]
    simp only [hslice]
  rw [contentToken, peek_of_reads h hxd]
  simp only [beq_iff_eq, hxlt, hxamp, hxcr, hxlf, if_false]
  -- a closing bracket starts data here too, since no `]]>` starts at it
  by_cases hbr : x = ']'
  · subst hbr
    obtain ⟨hat1, hbr2⟩ := bracket_in_data hrest hp' hc
    simp only [if_true, hat1, Bool.not_true, Bool.false_eq_true, if_false]
    by_cases hpk : s.peek (i + 1) = .char ']'
    · obtain ⟨hat2, hne⟩ := hbr2 hpk
      simp only [hpk, bne_self_eq_false, Bool.false_eq_true, if_false, hat2, Bool.not_true, hne, hdata]
    · simp only [bne_iff_ne, ne_eq, hpk, not_false_eq_true, if_true, hdata]
  · simp only [hbr, if_false, hdata]

theorem contentToken_lf {rest : List Char} (h : s.Reads i ('\n' :: rest)) :
    s.contentToken i = .token (.data "\n") (i + 1) := by
  rw [contentToken, peek_of_reads h (by decide)]
  rfl

theorem contentToken_amp {rest : List Char} {r : Reference} {next : Nat} (h : s.Reads i ('&' :: rest))
    (hr : s.reference (i + 1) = .token r next) : s.contentToken i = .token (.reference r) next := by
  rw [contentToken, peek_of_reads h (by decide)]
  simp only [show ('&' == '<') = false from rfl, beq_self_eq_true, Bool.false_eq_true, if_false,
    if_true, hr]
  rfl

theorem instructionEnd_of_reads {w rest : List Char} (h : s.Reads i (w ++ '?' :: '>' :: rest))
    (hw : ∀ x ∈ w, isDocumentChar x = true ∧ x ≠ '?') :
    s.instructionEnd i = .token () (i + w.length + 2) := by
  induction w generalizing i with
  | nil =>
    obtain ⟨⟨hi, hci⟩, h1⟩ := reads_cons.mp h
    rw [instructionEnd, dif_pos hi]
    simp only [hci, show isDocumentChar '?' = true from rfl, Bool.not_true, Bool.false_eq_true, if_false,
      beq_self_eq_true, if_true, peek_of_reads h1 (by decide), List.length_nil]
  | cons x w ih =>
    obtain ⟨⟨hi, hxi⟩, hrest⟩ := reads_cons.mp h
    obtain ⟨hxd, hxq⟩ := hw x List.mem_cons_self
    rw [instructionEnd, dif_pos hi]
    simp only [hxi, hxd, Bool.not_true, Bool.false_eq_true, if_false, beq_iff_eq, hxq]
    rw [ih hrest (fun y hy => hw y (List.mem_cons_of_mem x hy)), List.length_cons]
    congr 1
    omega

theorem asciiAt?_of_reads {c : Char} {w : List Char} {stop : Nat} (h : s.Reads i (c :: w)) (hi : i < stop)
    (hc : c.toNat < 0x80) : s.asciiAt? i stop = some c := by
  obtain ⟨hlt, hci⟩ := getElem_of_reads h
  simp [asciiAt?, hi, Array.getElem?_eq_getElem hlt, hci, hc]

theorem declSpaceEnd_of_reads {c : Char} {w : List Char} {stop : Nat} (h : s.Reads i (c :: w))
    (hi : i < stop) (hc : c.toNat < 0x80) (hs : isMarkupSpace c = false) : s.declSpaceEnd i stop = i := by
  rw [declSpaceEnd, dif_pos hi]
  simp [spaceAt, asciiAt?_of_reads h hi hc, hs]

theorem pseudoNameEnd_of_reads {w rest : List Char} {stop : Nat} (h : s.Reads i (w ++ '=' :: rest))
    (hw : ∀ x ∈ w, x.toNat < 0x80 ∧ x ≠ '=' ∧ isMarkupSpace x = false) (hstop : i + w.length < stop) :
    s.pseudoNameEnd i stop = .ok (i + w.length, i + w.length) := by
  induction w generalizing i with
  | nil =>
    rw [pseudoNameEnd, dif_pos (by simpa using hstop), asciiAt?_of_reads h (by simpa using hstop) (by decide)]
    simp
  | cons x w ih =>
    obtain ⟨hx, hxe, hxs⟩ := hw x List.mem_cons_self
    have hrest : s.Reads (i + 1) (w ++ '=' :: rest) := (reads_cons.mp h).2
    simp only [List.length_cons] at hstop
    rw [pseudoNameEnd, dif_pos (by omega), asciiAt?_of_reads h (by omega) hx]
    simp only [beq_iff_eq, hxe, if_false, hxs, Bool.false_eq_true]
    rw [ih hrest (fun y hy => hw y (List.mem_cons_of_mem x hy)) (by omega), List.length_cons]
    congr 2 <;> omega

def isPseudoValueChar (c : Char) : Bool :=
  isAsciiLetter c || c.isDigit || c == '.' || c == '-' || c == '_'

theorem pseudoValueEnd_of_reads {w rest : List Char} {q : Char} {stop : Nat} (h : s.Reads i (w ++ q :: rest))
    (hw : ∀ x ∈ w, x.toNat < 0x80 ∧ x ≠ q ∧ isPseudoValueChar x = true) (hq : q.toNat < 0x80)
    (hstop : i + w.length < stop) : s.pseudoValueEnd i stop q = .ok (i + w.length) := by
  induction w generalizing i with
  | nil =>
    rw [pseudoValueEnd, dif_pos (by simpa using hstop), asciiAt?_of_reads h (by simpa using hstop) hq]
    simp
  | cons x w ih =>
    obtain ⟨hx, hxq, hxv⟩ := hw x List.mem_cons_self
    have hrest : s.Reads (i + 1) (w ++ q :: rest) := (reads_cons.mp h).2
    simp only [List.length_cons] at hstop
    rw [pseudoValueEnd, dif_pos (by omega), asciiAt?_of_reads h (by omega) hx]
    simp only [isPseudoValueChar] at hxv
    simp only [beq_iff_eq, hxq, if_false, hxv, if_true]
    rw [ih hrest (fun y hy => hw y (List.mem_cons_of_mem x hy)) (by omega), List.length_cons]
    congr 1
    omega

theorem instruction_xml {w rest : List Char} (h : s.Reads i ('x' :: 'm' :: 'l' :: ' ' :: w ++ '?' :: '>' :: rest))
    (hw : ∀ x ∈ w, isDocumentChar x = true ∧ x ≠ '?') :
    s.instruction i = .token .declaration (i + w.length + 6) := by
  have hname : s.Reads i (['x', 'm', 'l'] ++ ' ' :: (w ++ '?' :: '>' :: rest)) := by simpa using h
  have h4 : s.Reads i ['x', 'm', 'l', ' '] := h.shorter ⟨w ++ '?' :: '>' :: rest, rfl⟩
  have hj : s.nameEnd (i + 1) = i + 3 :=
    nameEnd_of_reads (w := ['m', 'l']) (c := ' ') (reads_cons.mp h4).2
      (forall_mem_of_all_decide rfl) (by decide)
  have hsp : s.Reads (i + 3) (' ' :: (w ++ '?' :: '>' :: rest)) := (reads_append.mp hname).2
  have hslice : s.slice i (i + 3) = "xml" := slice_of_reads (w := ['x', 'm', 'l']) (reads_append.mp hname).1
  rw [instruction, peek_of_reads h (by decide)]
  simp only [show isNameStart 'x' = true from rfl, if_true, hj, peek_of_reads hsp (by decide),
    show isMarkupSpace ' ' = true from rfl, hslice, show targetKind "xml" = some .declaration from rfl]
  rw [instructionEnd_of_reads (reads_cons.mp hsp).2 hw]
  simp only [Scanned.withKind, Scanned.map]
  congr 1
  omega

theorem pseudoAttribute_of_reads {n v rest : List Char} {q : Char} {stop : Nat}
    (h : s.Reads i (' ' :: (n ++ '=' :: q :: (v ++ q :: rest))))
    (hn : ∀ x ∈ n, x.toNat < 0x80 ∧ x ≠ '=' ∧ isMarkupSpace x = false) (hn0 : n ≠ [])
    (hq : q = '"' ∨ q = '\'') (hv : ∀ x ∈ v, x.toNat < 0x80 ∧ x ≠ q ∧ isPseudoValueChar x = true)
    (hstop : i + n.length + v.length + 3 < stop) :
    s.pseudoAttribute i stop = .ok (some ⟨i + 1, i + 1 + n.length, i + n.length + 3,
      i + n.length + 3 + v.length, i + n.length + 4 + v.length⟩) := by
  obtain ⟨d, n', rfl⟩ := List.exists_cons_of_ne_nil hn0
  obtain ⟨hd, -, hds⟩ := hn d List.mem_cons_self
  have h1 : s.Reads (i + 1) (d :: n' ++ '=' :: q :: (v ++ q :: rest)) := (reads_cons.mp h).2
  have heq : s.Reads (i + 1 + (n'.length + 1)) ('=' :: q :: (v ++ q :: rest)) := by
    simpa using (reads_append.mp h1).2
  have hqv : s.Reads (i + 1 + (n'.length + 1) + 1) (q :: (v ++ q :: rest)) := (reads_cons.mp heq).2
  have hval : s.Reads (i + 1 + (n'.length + 1) + 1 + 1) (v ++ q :: rest) := (reads_cons.mp hqv).2
  have hq' : q.toNat < 0x80 := by rcases hq with rfl | rfl <;> decide
  have hqs : isMarkupSpace q = false := by rcases hq with rfl | rfl <;> rfl
  simp only [List.length_cons] at hstop
  have hi : i < stop := by omega
  have hi1 : i + 1 < stop := by omega
  have hne : (i == stop) = false := by simp; omega
  have hsp : s.spaceAt i stop = true := by
    simp only [spaceAt, asciiAt?_of_reads h hi (by decide)]; rfl
  have hname : s.pseudoNameEnd (i + 1) stop = _ := pseudoNameEnd_of_reads h1 hn (by simp; omega)
  simp only [List.length_cons] at hname
  have hs2 : (i + 1 == stop) = false := by simp; omega
  have hs3 : (i + 1 + (n'.length + 1) == i + 1) = false := by simp
  have hqq : (q == '"' || q == '\'') = true := by rcases hq with rfl | rfl <;> rfl
  have hvalue : s.pseudoValueEnd _ stop q = _ := pseudoValueEnd_of_reads hval hv hq' (by omega)
  have hqi : i + 1 + (n'.length + 1) + 1 < stop := by omega
  unfold pseudoAttribute
  simp only [bind, Except.bind, pure, Except.pure, hne, hsp, Bool.not_true, Bool.false_eq_true,
    if_false, declSpaceEnd_of_reads h1 hi1 hd hds, hname, hs2, hs3,
    declSpaceEnd_of_reads hqv hqi hq' hqs, asciiAt?_of_reads hqv hqi hq', hqq, if_true,
    hvalue, Except.ok.injEq, Option.some.injEq, PseudoAttribute.mk.injEq, List.length_cons]
  exact ⟨trivial, trivial, by omega, by omega, by omega⟩

theorem prologToken_instanceStart {d : Char} {w : List Char} (h : s.Reads i ('<' :: d :: w))
    (hd : isNameStart d = true) : s.prologToken i = .token .instanceStart i := by
  have hd1 := (reads_cons.mp h).2
  rw [prologToken, peek_of_reads h (by decide), peek_of_reads hd1 (isDocumentChar_of_isNameStart hd)]
  simp only [show ('<' == '"' || '<' == '\'') = false from rfl, show ('<' == '<') = true from rfl,
    Bool.false_eq_true, if_false, if_true]
  -- the two markup openings and the characters that cannot stand in a peek are ruled out
  split <;> rename_i heq <;> cases heq
  · cases hd
  · cases hd
  · simp [hd]

theorem prologToken_end (he : s.ending = .complete) (hi : s.chars.size ≤ i) :
    s.prologToken i = .finished := by
  rw [prologToken, peek_of_complete he hi]
  simp [atEnd, he]

end Source

end UpnpBinding.Xml
