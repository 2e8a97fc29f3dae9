import UpnpBinding.Proofs.ScanBounds
import UpnpBinding.Xml.Reader

/-!
# Reading does not depend on where the text lies

Reading from a position depends only on the characters from there on: two sources that agree
past a point, with the second's copy moved by `d`, give the same elements and refusals of the
same faults, every position moved by `d`. The content, the epilog and the prolog are each
proved so by induction on the fuel, one token at a time, from the scanners' relocation lemmas.
Refusals are compared by their fault alone (`ReadError.Alike`).
-/

namespace UpnpBinding.Xml

def sameFault (e e' : Fault × Nat) : Prop := e.1 = e'.1

def ReadError.Alike : ReadError → ReadError → Prop
  | .malformed e, .malformed e' => e.fault = e'.fault
  | e, e' => e = e'

theorem ReadError.Alike.refl (e : ReadError) : e.Alike e := by
  cases e <;> rfl

theorem Except.Rel.refl_alike {α : Type} (x : Except ReadError α) :
    Except.Rel ReadError.Alike Eq x x := by
  cases x with
  | error e => exact ReadError.Alike.refl e
  | ok a => rfl

def Shifted {α : Type} (d : Int) (x y : α × Nat) : Prop := y.1 = x.1 ∧ (y.2 : Int) = x.2 + d

theorem referenceValue_alike (c isCdata : Bool) (p p' : Nat) (acc : String) (i i' : Nat)
    (r : Reference) :
    Except.Rel sameFault Eq (referenceValue ⟨c, p⟩ isCdata acc i r)
      (referenceValue ⟨c, p'⟩ isCdata acc i' r) := by
  cases r with
  | char c' =>
    cases c' with
    | some x => rfl
    | none => rfl
  | entity name =>
    simp only [referenceValue]
    split
    · rfl
    · split <;> rfl

theorem TagState.take_alike (st : TagState) (p p' : Nat) (name value : String) :
    Except.Rel sameFault Eq (st.take p name value) (st.take p' name value) := by
  unfold TagState.take
  split
  · split <;> rfl
  · rfl

theorem expandAttributes_alike (scope : Scope) (p p' : Nat) (acc : List (QName × String))
    (l : List (String × String)) :
    Except.Rel sameFault Eq (expandAttributes scope p acc l) (expandAttributes scope p' acc l) := by
  induction l generalizing acc with
  | nil => rfl
  | cons nv rest ih =>
    obtain ⟨name, value⟩ := nv
    simp only [expandAttributes]
    split
    · split
      · dsimp only [pure, Except.pure, bind, Except.bind]
        split
        · rfl
        · exact ih _
      · rfl
    · dsimp only [pure, Except.pure, bind, Except.bind]
      split
      · rfl
      · exact ih _

theorem expandTagName_alike (scope : Scope) (p p' : Nat) (name : String) :
    Except.Rel sameFault Eq (expandTagName scope p name) (expandTagName scope p' name) := by
  unfold expandTagName
  split
  · split <;> rfl
  · rfl

namespace Source

def after (s : Source) (i : Nat) : Source := ⟨s.chars.extract i s.chars.size, s.ending⟩

theorem sameFrom_after (s : Source) (i : Nat) : s.SameFrom i (s.after i) 0 := by
  refine ⟨rfl, fun k => ?_⟩
  simp only [after, Nat.zero_add, Array.getElem?_extract]
  split
  · rfl
  · rw [Array.getElem?_eq_none_iff.mpr (by omega)]

variable {s t : Source} {i j : Nat} {d : Int}

theorem fail_alike {α : Type} {V : α → α → Prop} (f : Fault) (p p' : Nat) :
    Except.Rel ReadError.Alike V (s.fail f p) (t.fail f p') := rfl

theorem attributeValue_moved (h : s.SameFrom i t j) (hd : (j : Int) = i + d) (c : Bool) (p p' : Nat)
    (isCdata : Bool) (acc : String) :
    Except.Rel sameFault Eq (s.attributeValue ⟨c, p⟩ isCdata i acc)
      (t.attributeValue ⟨c, p'⟩ isCdata j acc) := by
  fun_induction s.attributeValue ⟨c, p⟩ isCdata i acc generalizing j
  case case1 i acc hlt _ hamp r next hr acc' hv hnext ih =>
    have hm := reference_moved (h.shift 1) (moved_add hd 1)
    rw [hr] at hm
    obtain ⟨r', next', hr', rfl, hn⟩ := hm.eq_token
    have hv' := referenceValue_alike c isCdata p p' acc i j r
    rw [hv] at hv'
    obtain ⟨acc'', hv'', rfl⟩ := hv'.eq_ok
    rw [Source.attributeValue.eq_1 t, dif_pos (h.lt_size.mp hlt)]
    dsimp only
    rw [← h.getElem hlt, if_pos hamp, hr']
    dsimp only
    rw [hv'']
    dsimp only
    rw [if_pos (show j < next' by omega)]
    exact ih (h.at_ hd (by omega) hn) hn
  case case2 i acc hlt _ hamp r next hr acc' hv hnext =>
    have hm := reference_moved (h.shift 1) (moved_add hd 1)
    rw [hr] at hm
    obtain ⟨r', next', hr', rfl, hn⟩ := hm.eq_token
    have hv' := referenceValue_alike c isCdata p p' acc i j r
    rw [hv] at hv'
    obtain ⟨acc'', hv'', rfl⟩ := hv'.eq_ok
    rw [Source.attributeValue.eq_1 t, dif_pos (h.lt_size.mp hlt)]
    dsimp only
    rw [← h.getElem hlt, if_pos hamp, hr']
    dsimp only
    rw [hv'']
    dsimp only
    rw [if_neg (show ¬ j < next' by omega)]
    rfl
  case case3 i acc hlt _ hamp r next hr e hv =>
    have hm := reference_moved (h.shift 1) (moved_add hd 1)
    rw [hr] at hm
    obtain ⟨r', next', hr', rfl, hn⟩ := hm.eq_token
    have hv' := referenceValue_alike c isCdata p p' acc i j r
    rw [hv] at hv'
    obtain ⟨e', hv'', he⟩ := hv'.eq_error
    rw [Source.attributeValue.eq_1 t, dif_pos (h.lt_size.mp hlt)]
    dsimp only
    rw [← h.getElem hlt, if_pos hamp, hr']
    dsimp only
    rw [hv'']
    exact he
  case case4 i acc hlt _ hamp q hr =>
    have hm := reference_moved (h.shift 1) (moved_add hd 1)
    rw [hr] at hm
    obtain ⟨q', hr', -⟩ := hm.eq_invalid
    rw [Source.attributeValue.eq_1 t, dif_pos (h.lt_size.mp hlt)]
    dsimp only
    rw [← h.getElem hlt, if_pos hamp, hr']
    rfl
  case case5 i acc hlt _ hamp hnt hni =>
    have hm := reference_moved (h.shift 1) (moved_add hd 1)
    rw [Source.attributeValue.eq_1 t, dif_pos (h.lt_size.mp hlt)]
    dsimp only
    rw [← h.getElem hlt, if_pos hamp]
    revert hnt hni
    generalize s.reference (i + 1) = x at hm
    generalize t.reference (j + 1) = y at hm
    intro hnt hni
    cases hm with
    | token => exact absurd rfl (hnt _ _)
    | invalid => exact absurd rfl (hni _)
    | _ => rfl
  case case6 i acc hlt _ hamp hlt' =>
    rw [Source.attributeValue.eq_1 t, dif_pos (h.lt_size.mp hlt)]
    dsimp only
    rw [← h.getElem hlt, if_neg hamp, if_pos hlt']
    rfl
  case case7 i acc hlt _ hamp hlt' hcr hlf ih =>
    rw [Source.attributeValue.eq_1 t, dif_pos (h.lt_size.mp hlt)]
    dsimp only
    rw [← h.getElem hlt, if_neg hamp, if_neg hlt', if_pos hcr, ← (h.shift 1).getElem?, if_pos hlf]
    exact ih (h.shift 2) (moved_add hd 2)
  case case8 i acc hlt _ hamp hlt' hcr hlf ih =>
    rw [Source.attributeValue.eq_1 t, dif_pos (h.lt_size.mp hlt)]
    dsimp only
    rw [← h.getElem hlt, if_neg hamp, if_neg hlt', if_pos hcr, ← (h.shift 1).getElem?, if_neg hlf]
    exact ih (h.shift 1) (moved_add hd 1)
  case case9 i acc hlt _ hamp hlt' hcr hsp ih =>
    rw [Source.attributeValue.eq_1 t, dif_pos (h.lt_size.mp hlt)]
    dsimp only
    rw [← h.getElem hlt, if_neg hamp, if_neg hlt', if_neg hcr, if_pos hsp]
    exact ih (h.shift 1) (moved_add hd 1)
  case case10 i acc hlt _ hamp hlt' hcr hsp ih =>
    rw [Source.attributeValue.eq_1 t, dif_pos (h.lt_size.mp hlt)]
    dsimp only
    rw [← h.getElem hlt, if_neg hamp, if_neg hlt', if_neg hcr, if_neg hsp]
    exact ih (h.shift 1) (moved_add hd 1)
  case case11 i acc hlt hback =>
    rw [Source.attributeValue.eq_1 t, dif_neg (mt h.lt_size.mpr hlt), if_pos hback]
    rfl
  case case12 i acc hlt hback =>
    rw [Source.attributeValue.eq_1 t, dif_neg (mt h.lt_size.mpr hlt), if_neg hback]
    rfl

theorem valueBetween_moved (h : s.SameFrom i t j) (hd : (j : Int) = i + d) {stop stop' : Nat}
    (hstop : (stop' : Int) = stop + d) (c : Bool) (p p' : Nat) (isCdata : Bool) :
    Except.Rel sameFault Eq (s.valueBetween ⟨c, p⟩ isCdata i stop)
      (t.valueBetween ⟨c, p'⟩ isCdata j stop') := by
  -- the value reads the characters before `stop` only: cut there, the two agree from `i` and `j` on
  have hcut : (Source.mk (s.chars.extract 0 stop) .complete).SameFrom i
      (Source.mk (t.chars.extract 0 stop') .complete) j := by
    refine ⟨rfl, fun k => ?_⟩
    have hk := (h.shift k).lt_size
    have hc := h.chars k
    simp only [Array.getElem?_extract, Nat.sub_zero, Nat.zero_add]
    by_cases hik : i + k < min stop s.chars.size
    · rw [if_pos hik, if_pos (by omega)]
      exact hc
    · rw [if_neg hik, if_neg (by omega)]
  exact attributeValue_moved hcut hd c p p' isCdata ""

theorem takeAttributes_moved {L L' : Nat} (h : s.SameFrom L t L') (hd : (L' : Int) = L + d)
    (c : Bool) (p p' : Nat) (decls : List AttributeDecl) (st : TagState)
    {atts atts' : List RawAttribute} (ha : List.Forall₂ (RawAttribute.Moved d) atts atts')
    (hpos : ∀ a ∈ atts, L ≤ a.valueStart) :
    Except.Rel sameFault Eq (s.takeAttributes ⟨c, p⟩ decls st atts)
      (t.takeAttributes ⟨c, p'⟩ decls st atts') := by
  induction ha generalizing st with
  | nil => rfl
  | cons hab hrest ih =>
    rename_i a a' as as'
    obtain ⟨hname, -, hvs, hve⟩ := hab
    simp only [takeAttributes, hname]
    by_cases hseen : st.seen.contains a.name = true
    · rw [if_pos hseen, if_pos hseen]
      rfl
    rw [if_neg hseen, if_neg hseen]
    have hv := valueBetween_moved (h.at_ hd (hpos a (List.mem_cons_self ..)) hvs) hvs hve c p p'
      (isCdataIn decls a.name)
    refine hv.bind fun v v' _ hvv => ?_
    subst hvv
    refine (TagState.take_alike _ p p' a.name v).bind fun st' st'' _ hst => ?_
    subst hst
    exact ih st' fun b hb => hpos b (List.mem_cons_of_mem _ hb)

theorem takeDefaults_alike (p p' : Nat) (st : TagState) (decls : List AttributeDecl) :
    Except.Rel sameFault Eq (takeDefaults p st decls) (takeDefaults p' st decls) := by
  induction decls generalizing st with
  | nil => rfl
  | cons dc rest ih =>
    simp only [takeDefaults]
    split
    · split
      · exact ih st
      · exact (TagState.take_alike _ p p' _ _).bind fun st' st'' _ hst => hst ▸ ih st'
    · exact ih st

theorem openTag_moved {L L' : Nat} (h : s.SameFrom L t L') (hd : (L' : Int) = L + d) (c : Bool)
    (p p' : Nat) (decls : List AttributeDecl) (scope : Scope) (name : String)
    {atts atts' : List RawAttribute} (ha : List.Forall₂ (RawAttribute.Moved d) atts atts')
    (hpos : ∀ a ∈ atts, L ≤ a.valueStart) :
    Except.Rel sameFault Eq (s.openTag ⟨c, p⟩ decls scope name atts)
      (t.openTag ⟨c, p'⟩ decls scope name atts') := by
  unfold openTag
  refine (takeAttributes_moved h hd c p p' decls _ ha hpos).bind fun st st' _ hst => ?_
  subst hst
  refine (takeDefaults_alike p p' st decls).bind fun st2 st2' _ h2 => ?_
  subst h2
  refine (expandAttributes_alike st2.scope p p' [] _).bind fun as as' _ h3 => ?_
  subst h3
  refine (expandTagName_alike st2.scope p p' name).bind fun tg tg' _ h4 => ?_
  subst h4
  rfl

/-- Reading from `i` with `fuel` steps left: `i` lies within the characters, and the fuel covers
what is left of them, a step for each and one more. -/
structure Covers (s : Source) (fuel i : Nat) : Prop where
  le : i ≤ s.chars.size
  enough : s.chars.size + 1 ≤ fuel + i

theorem Covers.exists_succ {fuel : Nat} (h : s.Covers fuel i) : ∃ f, fuel = f + 1 :=
  ⟨fuel - 1, by have := h.le; have := h.enough; omega⟩

theorem Covers.next {fuel next : Nat} (h : s.Covers (fuel + 1) i) (hi : i < next)
    (hn : next ≤ s.chars.size) : s.Covers fuel next :=
  ⟨hn, by have := h.enough; omega⟩

theorem le_size_of_prologToken {k : PrologToken} {next : Nat}
    (h : s.prologToken i = .token k next) : next ≤ s.chars.size := by
  have := prologToken_within (s := s) (i := i)
  rw [h] at this
  exact this

theorem Covers.whole (hi : i ≤ s.chars.size) : s.Covers (s.size + 1) i :=
  ⟨hi, by unfold size; omega⟩

theorem cdataSection_moved (h : s.SameFrom i t j) (hd : (j : Int) = i + d) {fuel fuel' : Nat}
    (hf : s.Covers fuel i) (hf' : t.Covers fuel' j) (stack : List Frame) :
    Except.Rel ReadError.Alike (Shifted d) (s.cdataSection fuel i stack)
      (t.cdataSection fuel' j stack) := by
  induction fuel generalizing i j fuel' stack with
  | zero => exact absurd hf.enough (by have := hf.le; omega)
  | succ fuel ih =>
    obtain ⟨fuel', rfl⟩ := hf'.exists_succ
    have hm := cdataToken_moved h hd
    have hpast := cdataToken_past (s := s) (i := i)
    have hwithin := cdataToken_within (s := s) (i := i)
    have hpast' := cdataToken_past (s := t) (i := j)
    have hwithin' := cdataToken_within (s := t) (i := j)
    simp only [cdataSection]
    revert hpast hwithin hpast' hwithin'
    generalize s.cdataToken i = x at hm
    generalize t.cdataToken j = y at hm
    intro hpast hwithin hpast' hwithin'
    cases hm with
    | token hk hn =>
      rename_i k k' next next'
      subst hk
      cases k with
      | text x =>
        exact ih (h.at_ hd (Nat.le_of_lt hpast) hn) hn (hf.next hpast hwithin)
          (hf'.next hpast' hwithin') _
      | close => exact ⟨rfl, hn⟩
    | invalid => rfl
    | unclosed => rfl
    | cutChar => rfl
    | finished => rfl

theorem cdataSection_bounds {fuel : Nat} {stack stack' : List Frame} {after : Nat}
    (h : s.cdataSection fuel i stack = .ok (stack', after)) : i < after ∧ after ≤ s.chars.size := by
  induction fuel generalizing i stack with
  | zero => simp [cdataSection, fail] at h
  | succ fuel ih =>
    have hpast := cdataToken_past (s := s) (i := i)
    have hwithin := cdataToken_within (s := s) (i := i)
    simp only [cdataSection] at h
    revert h hpast hwithin
    generalize s.cdataToken i = x
    intro h hpast hwithin
    cases x with
    | token k next =>
      have hpast : i < next := hpast
      cases k with
      | text x => exact ⟨by have := (ih h).1; omega, (ih h).2⟩
      | close =>
        cases h
        exact ⟨hpast, hwithin⟩
    | _ => simp [fail] at h

theorem le_valueStart_of_contentToken {name : String} {atts : List RawAttribute} {empty : Bool}
    {next : Nat} (h : s.contentToken i = .token (.startTag name atts empty) next) :
    ∀ a ∈ atts, i ≤ a.valueStart := by
  intro a ha
  -- read from `i` on alone, the same tag has its positions moved back by `i`, none below zero
  have hm := contentToken_moved (sameFrom_after s i) (show ((0 : Nat) : Int) = i + -(i : Int) by omega)
  rw [h] at hm
  obtain ⟨k', n', -, hk, -⟩ := hm.eq_token
  cases k' with
  | startTag name' atts' empty' =>
    obtain ⟨-, -, hatts⟩ := hk
    obtain ⟨a', -, ha'⟩ := exists_of_forall₂_of_mem hatts ha
    have := ha'.2.2.1
    omega
  | _ => cases hk

theorem content_moved (h : s.SameFrom i t j) (hd : (j : Int) = i + d) (dtd : Dtd) {fuel fuel' : Nat}
    (hf : s.Covers fuel i) (hf' : t.Covers fuel' j) (stack : List Frame) (scope : Scope) :
    Except.Rel ReadError.Alike (Shifted d) (s.content dtd fuel i stack scope)
      (t.content dtd fuel' j stack scope) := by
  induction fuel generalizing i j fuel' stack scope with
  | zero => exact absurd hf.enough (by have := hf.le; omega)
  | succ fuel ih =>
    obtain ⟨fuel', rfl⟩ := hf'.exists_succ
    have hm := contentToken_moved h hd
    have hatts := fun name atts empty next
        (h : s.contentToken i = .token (.startTag name atts empty) next) =>
      le_valueStart_of_contentToken h
    have hpast := contentToken_past (s := s) (i := i)
    have hwithin := contentToken_within (s := s) (i := i)
    have hpast' := contentToken_past (s := t) (i := j)
    have hwithin' := contentToken_within (s := t) (i := j)
    simp only [content]
    revert hatts hpast hwithin hpast' hwithin'
    generalize s.contentToken i = x at hm
    generalize t.contentToken j = y at hm
    intro hatts hpast hwithin hpast' hwithin'
    cases hm with
    | token hk hn =>
      rename_i m m' next next'
      have hpast : i < next := hpast
      have hwithin : next ≤ s.chars.size := hwithin
      have hpast' : j < next' := hpast'
      have hwithin' : next' ≤ t.chars.size := hwithin'
      have hnext := h.at_ hd (Nat.le_of_lt hpast) hn
      -- what follows the token is read alike from `next` and `next'`
      have step (stack : List Frame) (scope : Scope) :
          Except.Rel ReadError.Alike (Shifted d) (s.content dtd fuel next stack scope)
            (t.content dtd fuel' next' stack scope) :=
        ih hnext hn (hf.next hpast hwithin) (hf'.next hpast' hwithin') stack scope
      cases m with
      | data x =>
        have hk : m' = .data x := hk
        subst hk
        exact step _ _
      | reference r =>
        have hk : m' = .reference r := hk
        subst hk
        cases r with
        | entity name =>
          dsimp only
          split
          · exact step _ _
          · split <;> rfl
        | char c =>
          cases c with
          | none => rfl
          | some c => exact step _ _
      | startTag name atts empty =>
        cases m' with
        | startTag name' atts' empty' =>
          obtain ⟨hname, hempty, hatts'⟩ := hk
          subst name' empty'
          have ho := openTag_moved h hd dtd.checked i j (dtd.declsFor name) scope name hatts'
            (hatts name atts empty next rfl)
          dsimp only
          cases hos : s.openTag ⟨dtd.checked, i⟩ (dtd.declsFor name) scope name atts with
          | error e =>
            rw [hos] at ho
            obtain ⟨e', hot, he⟩ := ho.eq_error
            rw [hot]
            exact he
          | ok r =>
            rw [hos] at ho
            obtain ⟨r', hot, rfl⟩ := ho.eq_ok
            rw [hot]
            obtain ⟨tag, attributes, inner⟩ := r
            dsimp only
            by_cases hempty : empty = true
            · rw [if_pos hempty, if_pos hempty]
              -- an empty tag closes its element: the root ends reading, any other is a child
              cases stack with
              | nil => exact ⟨rfl, hn⟩
              | cons parent more => exact step _ _
            · rw [if_neg hempty, if_neg hempty]
              exact step _ _
        | _ => cases hk
      | endTag name =>
        have hk : m' = .endTag name := hk
        subst hk
        cases stack with
        | nil => rfl
        | cons top rest =>
          dsimp only
          by_cases hne : (name != top.rawName) = true
          · rw [if_pos hne, if_pos hne]
            rfl
          · rw [if_neg hne, if_neg hne]
            -- the end tag closes its element: the root ends reading, any other is a child
            cases rest with
            | nil => exact ⟨rfl, hn⟩
            | cons parent more => exact step _ _
      | cdataOpen =>
        have hk : m' = .cdataOpen := hk
        subst hk
        dsimp only
        have hc := cdataSection_moved hnext hn (⟨hwithin, by unfold size; omega⟩ : s.Covers (s.size + 1) next)
          (⟨hwithin', by unfold size; omega⟩ : t.Covers (t.size + 1) next') stack
        cases hcs : s.cdataSection (s.size + 1) next stack with
        | error e =>
          rw [hcs] at hc
          obtain ⟨e', hct, he⟩ := hc.eq_error
          rw [hct]
          exact he
        | ok r =>
          rw [hcs] at hc
          obtain ⟨⟨stack', after'⟩, hct, rfl, hafter⟩ := hc.eq_ok
          rw [hct]
          obtain ⟨stack', after⟩ := r
          have hb := cdataSection_bounds hcs
          have hb' := cdataSection_bounds hct
          exact ih (h.at_ hd (by omega) hafter) hafter (hf.next (by omega) hb.2)
            (hf'.next (by omega) hb'.2) _ _
      | comment =>
        have hk : m' = .comment := hk
        subst hk
        exact step _ _
      | instruction k =>
        have hk : m' = .instruction k := hk
        subst hk
        cases k with
        | plain => exact step _ _
        | declaration => rfl
      | trailingReturn =>
        have hk : m' = .trailingReturn := hk
        subst hk
        rfl
      | trailingBracket =>
        have hk : m' = .trailingBracket := hk
        subst hk
        rfl
    | invalid => rfl
    | unclosed => rfl
    | cutChar => rfl
    | finished => rfl

theorem content_bounds {dtd : Dtd} {fuel : Nat} {stack : List Frame} {scope : Scope} {e : Element}
    {after : Nat} (h : s.content dtd fuel i stack scope = .ok (e, after)) :
    i < after ∧ after ≤ s.chars.size := by
  induction fuel generalizing i stack scope with
  | zero => simp [content, fail] at h
  | succ fuel ih =>
    simp only [content] at h
    have hwithin := contentToken_within (s := s) (i := i)
    have hpast := contentToken_past (s := s) (i := i)
    revert h hwithin hpast
    generalize s.contentToken i = x
    intro h hwithin hpast
    cases x with
    | token m next =>
      have hwithin : next ≤ s.chars.size := hwithin
      have hpast : i < next := hpast
      -- reading on from the token's end keeps both bounds
      have on {stack' : List Frame} {scope' : Scope}
          (h : s.content dtd fuel next stack' scope' = .ok (e, after)) :
          i < after ∧ after ≤ s.chars.size := by
        have := ih h
        omega
      cases m with
      | data x => exact on h
      | reference r =>
        cases r with
        | char c =>
          cases c with
          | none => simp [fail] at h
          | some c => exact on h
        | entity name =>
          dsimp only at h
          split at h
          · exact on h
          · split at h <;> simp [fail] at h
      | startTag name atts empty =>
        dsimp only at h
        split at h
        · simp [fail] at h
        · split at h
          · -- an empty tag closes its element: closing the root ends reading at the token's end
            cases stack with
            | nil =>
              cases h
              exact ⟨hpast, hwithin⟩
            | cons parent more => exact on h
          · exact on h
      | endTag name =>
        dsimp only at h
        split at h
        · split at h
          · simp [fail] at h
          · next top rest _ =>
            -- the end tag closes its element: closing the root ends reading at the token's end
            cases rest with
            | nil =>
              cases h
              exact ⟨hpast, hwithin⟩
            | cons parent more => exact on h
        · simp [fail] at h
      | cdataOpen =>
        dsimp only at h
        split at h
        · rename_i hc
          have := cdataSection_bounds hc
          have := ih h
          omega
        · cases h
      | comment => exact on h
      | instruction k =>
        cases k with
        | plain => exact on h
        | declaration => simp [fail] at h
      | trailingReturn => simp [fail] at h
      | trailingBracket => simp [fail] at h
    | _ => simp [fail, failToken] at h

theorem epilog_moved (h : s.SameFrom i t j) (hd : (j : Int) = i + d) {fuel fuel' : Nat}
    (hf : s.Covers fuel i) (hf' : t.Covers fuel' j) :
    Except.Rel ReadError.Alike Eq (s.epilog fuel i) (t.epilog fuel' j) := by
  induction fuel generalizing i j fuel' with
  | zero => exact absurd hf.enough (by have := hf.le; omega)
  | succ fuel ih =>
    obtain ⟨fuel', rfl⟩ := hf'.exists_succ
    have hm := prologToken_moved h hd
    have hlt := fun k next (h : s.prologToken i = .token k next) => lt_of_prologToken h
    have hlt' := fun k next (h : t.prologToken j = .token k next) => lt_of_prologToken h
    have hwithin := prologToken_within (s := s) (i := i)
    have hwithin' := prologToken_within (s := t) (i := j)
    simp only [epilog]
    revert hlt hlt' hwithin hwithin'
    generalize s.prologToken i = x at hm
    generalize t.prologToken j = y at hm
    intro hlt hlt' hwithin hwithin'
    cases hm with
    | token hk hn =>
      rename_i k k' next next'
      subst hk
      -- white space, comments and instructions are read on from the token's end
      have step (hk : k ≠ .instanceStart) :
          Except.Rel ReadError.Alike Eq (s.epilog fuel next) (t.epilog fuel' next') := by
        have hpast := hlt k next rfl hk
        have hpast' := hlt' k next' rfl hk
        exact ih (h.at_ hd (Nat.le_of_lt hpast) hn) hn (hf.next hpast hwithin)
          (hf'.next hpast' hwithin')
      cases k with
      | space => exact step nofun
      | comment => exact step nofun
      | instruction kind =>
        cases kind with
        | plain => exact step nofun
        | declaration => rfl
      | _ => rfl
    | invalid => rfl
    | unclosed => rfl
    | cutChar => rfl
    | finished => rfl

theorem badPublicIdAt_moved (h : s.SameFrom i t j) (hd : (j : Int) = i + d) {stop stop' : Nat}
    (hstop : (stop' : Int) = stop + d) :
    Option.Rel (fun (p p' : Nat) => (p' : Int) = p + d) (s.badPublicIdAt i stop)
      (t.badPublicIdAt j stop') := by
  fun_induction s.badPublicIdAt i stop generalizing j
  case case1 i hi c hc hpub ih =>
    rw [Source.badPublicIdAt.eq_1 t, dif_pos (by omega), ← h.getElem?, hc]
    dsimp only
    rw [if_pos hpub]
    exact ih (h.shift 1) (moved_add hd 1)
  case case2 i hi c hc hpub =>
    rw [Source.badPublicIdAt.eq_1 t, dif_pos (by omega), ← h.getElem?, hc]
    dsimp only
    rw [if_neg hpub]
    exact .some hd
  case case3 i hi hc =>
    rw [Source.badPublicIdAt.eq_1 t, dif_pos (by omega), ← h.getElem?, hc]
    exact .none
  case case4 i hi =>
    rw [Source.badPublicIdAt.eq_1 t, dif_neg (by omega)]
    exact .none

theorem publicId_moved (h : s.SameFrom i t j) (hd : (j : Int) = i + d) {stop stop' : Nat}
    (hstop : (stop' : Int) = stop + d) :
    Except.Rel ReadError.Alike Eq (s.publicId i stop) (t.publicId j stop') := by
  have hbad := badPublicIdAt_moved h hd hstop
  unfold publicId
  revert hbad
  cases s.badPublicIdAt i stop <;> cases t.badPublicIdAt j stop' <;> intro hbad <;> cases hbad
  case none.none =>
    show normalizePublicId (s.slice i stop) = normalizePublicId (t.slice j stop')
    rw [h.slice_to hd hstop]
  case some.some => rfl

theorem declare_alike (h : s.SameFrom i t j) (hd : (j : Int) = i + d) {stop stop' : Nat}
    (hstop : (stop' : Int) = stop + d) (dtd : Dtd) (pending : Option Declared) (step : Step) :
    Except.Rel ReadError.Alike Eq (s.declare dtd pending i stop step)
      (t.declare dtd pending j stop' step) := by
  cases step with
  | entityValue =>
    simp only [declare]
    split
    · split <;> rfl
    · rfl
  | entityPublicId =>
    exact (publicId_moved h hd hstop).bind fun _ _ _ hid => by subst hid; rfl
  | entitySystemId =>
    show (dtd, pending.map fun dc => { dc with systemId := some (s.slice i stop) }) =
      (dtd, pending.map fun dc => { dc with systemId := some (t.slice j stop') })
    rw [h.slice_to hd hstop]
  | entityDone =>
    simp only [declare]
    split
    · split <;> rfl
    · rfl
  | doctypePublicId =>
    exact (publicId_moved h hd hstop).bind fun _ _ _ hid => by subst hid; rfl
  | attributeDefault =>
    simp only [declare]
    split
    · have hv := valueBetween_moved h hd hstop dtd.checked (i - 1) (j - 1) dtd.cursor.isCdata
      cases hvs : s.valueBetween ⟨dtd.checked, i - 1⟩ dtd.cursor.isCdata i stop with
      | error e =>
        rw [hvs] at hv
        obtain ⟨e', hvt, he⟩ := hv.eq_error
        rw [hvt]
        exact he
      | ok v =>
        rw [hvs] at hv
        obtain ⟨v', hvt, rfl⟩ := hv.eq_ok
        rw [hvt]
        rfl
    · rfl
  | notationPublicId =>
    exact (publicId_moved h hd hstop).bind fun _ _ _ _ => rfl
  | _ => rfl

theorem Stage.next_instanceStart {stage stage' : Stage} {step : Step}
    (h : stage.next .instanceStart = some (stage', step)) : step = .rootStart := by
  cases stage <;> cases h <;> rfl

section PrologSteps

variable {dtd : Dtd} {pending : Option Declared} {stage stage' : Stage} {fuel next : Nat}
  {k : PrologToken} {step : Step}

/-! One step of reading the prolog, by what the token read does at the stage reached. -/

theorem prolog_of_stop (hk : s.prologToken i = .token k next) (hst : stage.next k = none) :
    s.prolog dtd pending stage (fuel + 1) i = s.fail k.fault i := by
  simp only [prolog, hk, hst]

theorem prolog_of_rootStart (hk : s.prologToken i = .token k next)
    (hst : stage.next k = some (stage', .rootStart)) :
    s.prolog dtd pending stage (fuel + 1) i =
      (s.content dtd (s.size + 1) i [] Scope.initial >>= fun r =>
        s.epilog (s.size + 1) r.2 >>= fun _ => .ok r.1) := by
  simp only [prolog, hk, hst]
  cases s.content dtd (s.size + 1) i [] Scope.initial with
  | error e => rfl
  | ok r =>
    obtain ⟨root, after⟩ := r
    show _ = (s.epilog (s.size + 1) after >>= fun _ => .ok root)
    dsimp only
    cases s.epilog (s.size + 1) after <;> rfl

theorem prolog_of_step (hk : s.prologToken i = .token k next)
    (hst : stage.next k = some (stage', step)) (hroot : step ≠ .rootStart) :
    s.prolog dtd pending stage (fuel + 1) i =
      (s.declare dtd pending (i + 1) (next - 1) step >>= fun r =>
        s.prolog r.1 r.2 stage' fuel next) := by
  simp only [prolog, hk, hst]
  split <;> rename_i hd <;> rw [hd] <;> rfl

end PrologSteps

theorem prolog_moved (h : s.SameFrom i t j) (hd : (j : Int) = i + d) {fuel fuel' : Nat}
    (hf : s.Covers fuel i) (hf' : t.Covers fuel' j) (dtd : Dtd) (pending : Option Declared)
    (stage : Stage) :
    Except.Rel ReadError.Alike Eq (s.prolog dtd pending stage fuel i)
      (t.prolog dtd pending stage fuel' j) := by
  induction fuel generalizing i j fuel' dtd pending stage with
  | zero => exact absurd hf.enough (by have := hf.le; omega)
  | succ fuel ih =>
    obtain ⟨fuel', rfl⟩ := hf'.exists_succ
    have hm := prologToken_moved h hd
    generalize hx : s.prologToken i = x at hm
    generalize hy : t.prologToken j = y at hm
    cases hm with
    | token hk hn =>
      rename_i k k' next next'
      subst hk
      cases hst : stage.next k with
      | none =>
        rw [prolog_of_stop hx hst, prolog_of_stop hy hst]
        exact fail_alike _ _ _
      | some p =>
        obtain ⟨stage', step⟩ := p
        by_cases hroot : step = .rootStart
        · -- the root element is read from the token's start, then what follows it
          subst hroot
          rw [prolog_of_rootStart hx hst, prolog_of_rootStart hy hst]
          refine (content_moved h hd dtd (Covers.whole hf.le) (Covers.whole hf'.le) []
            Scope.initial).bind fun r r' hr hmoved => ?_
          obtain ⟨hroot, hafter⟩ := hmoved
          have hb := content_bounds hr
          have hsize := h.size_sub
          have hj := hf'.le
          refine (epilog_moved (h.at_ hd (Nat.le_of_lt hb.1) hafter) hafter (Covers.whole hb.2)
            (Covers.whole (by omega))).bind fun _ _ _ _ => ?_
          exact hroot.symm
        · -- any other step takes the token's literal in and reads on past it
          have hk : k ≠ .instanceStart := fun hk => hroot (Stage.next_instanceStart (hk ▸ hst))
          have hpast := lt_of_prologToken hx hk
          have hpast' := lt_of_prologToken hy hk
          have hwithin := le_size_of_prologToken hx
          have hwithin' := le_size_of_prologToken hy
          rw [prolog_of_step hx hst hroot, prolog_of_step hy hst hroot]
          refine (declare_alike (h.shift 1) (moved_add hd 1) (by omega) dtd pending step).bind
            fun r r' _ hr => ?_
          subst hr
          exact ih (h.at_ hd (Nat.le_of_lt hpast) hn) hn (hf.next hpast hwithin)
            (hf'.next hpast' hwithin') _ _ _
    | invalid =>
      simp only [prolog, hx, hy]
      rfl
    | unclosed =>
      simp only [prolog, hx, hy]
      rfl
    | cutChar =>
      simp only [prolog, hx, hy]
      rfl
    | finished =>
      simp only [prolog, hx, hy]
      rfl

end Source
end UpnpBinding.Xml
