import UpnpBinding.Client.Binding
import UpnpBinding.Proofs.Keyed
import UpnpBinding.Proofs.Monadic
/-!
Taking in an event notification. Each property of a notification reports on one evented field:
the first of the definition's evented fields, in their order, that is one of its variables; the
variable's value is the text of the last child element of that name. A notification is taken in
whole or not at all: when its body is no property set, or one reported value cannot be read,
nothing changes and nothing is reported. Otherwise the changes come in document order, each
cached value takes the last change of its name, and the callback gets the changes when there
are any.
-/
namespace UpnpBinding

namespace Property

theorem lookup_eq_find? (p : Property) (n : String) :
    p.lookup n = (p.find? (·.1 == n)).map Prod.snd := by
  induction p with
  | nil => rfl
  | cons kv p ih =>
    obtain ⟨k, v⟩ := kv
    by_cases h : k = n
    · subst h
      simp
    · have h' : (n == k) = false := by simpa using Ne.symm h
      simp [List.lookup_cons, h', h, ih]

theorem lookup_eq_none {p : Property} {n : String} : p.lookup n = none ↔ p.any (·.1 == n) = false := by
  rw [lookup_eq_find?, Option.map_eq_none_iff, List.find?_eq_none]
  simp

end Property

theorem PropertySet.lookup_property (e : Xml.Element) (n : String) :
    (PropertySet.property e).lookup n =
      (e.children.reverse.find? (·.tag.localName == n)).map (·.text.getD "") := by
  have hput : PropertySet.property e =
      (e.children.map fun c => (c.tag.localName, c.text.getD "")).foldl (putBy Prod.fst) [] := by
    rw [List.foldl_map]
    rfl
  rw [Property.lookup_eq_find?, hput, find?_foldl_putBy, ← List.map_reverse, List.find?_map,
    Option.map_map]
  rfl

/-- The property carries the variable `raw` for the field `f`, the first of the evented fields
`F` that it carries: `F` is `pre ++ f :: post` and no field of `pre` is a variable of it. -/
def Reports (F : List Field) (p : Property) (f : Field) (raw : String) : Prop :=
  ∃ pre post, F = pre ++ f :: post ∧ (∀ g ∈ pre, p.lookup g.name = none) ∧
    p.lookup f.name = some raw

inductive PropertyOutcome (F : List Field) (p : Property) :
    Except EventError (Option (String × Value)) → Prop where
  | untracked (absent : ∀ f ∈ F, p.lookup f.name = none) : PropertyOutcome F p (.ok none)
  | empty {f : Field} (reports : Reports F p f "") (kind : f.dataType.kind ≠ .text) :
      PropertyOutcome F p (.ok none)
  | read {f : Field} {raw : String} {v : Value} (reports : Reports F p f raw)
      (kind : raw = "" → f.dataType.kind = .text) (value : f.fromWire (some raw) = .ok v) :
      PropertyOutcome F p (.ok (some (f.name, v)))
  | invalid {f : Field} {raw : String} {e : WireError} (reports : Reports F p f raw)
      (kind : raw = "" → f.dataType.kind = .text) (value : f.fromWire (some raw) = .error e) :
      PropertyOutcome F p (.error (.invalidValue f.name raw))

namespace Binding

theorem propertyChange_outcome (b : Binding) (p : Property) :
    PropertyOutcome b.definition.evented p (b.propertyChange p) := by
  unfold propertyChange
  split
  · rename_i hnone
    refine .untracked fun f hf => Property.lookup_eq_none.mpr ?_
    exact Bool.eq_false_iff.mpr (List.find?_eq_none.mp hnone f hf)
  · rename_i f hf
    obtain ⟨hany, pre, post, hF, hpre⟩ := List.find?_eq_some_iff_append.mp hf
    -- the value is the one the property carries for the field
    obtain ⟨raw, hraw⟩ : ∃ raw, p.lookup f.name = some raw := by
      refine Option.ne_none_iff_exists'.mp fun hn => ?_
      rw [Property.lookup_eq_none.mp hn] at hany
      cases hany
    have hrep : Reports b.definition.evented p f raw :=
      ⟨pre, post, hF, fun g hg => Property.lookup_eq_none.mpr (by simpa using hpre g hg), hraw⟩
    have hval : ((p.find? (·.1 == f.name)).map Prod.snd).getD "" = raw := by
      rw [← Property.lookup_eq_find?, hraw]
      rfl
    simp only [hval]
    split
    · rename_i hskip
      simp only [Bool.and_eq_true, String.isEmpty_iff, bne_iff_ne, ne_eq] at hskip
      obtain ⟨rfl, hkind⟩ := hskip
      exact .empty hrep hkind
    · rename_i hkeep
      have hkind : raw = "" → f.dataType.kind = .text := by
        intro he
        by_contra hk
        exact hkeep (by simp [he, hk])
      split
      · exact .read hrep hkind ‹_›
      · exact .invalid hrep hkind ‹_›

theorem fst_find?_getD (cs : List (String × Value)) (e : String × Value) :
    ((cs.find? (·.1 == e.1)).getD e).1 = e.1 := by
  cases hf : cs.find? (·.1 == e.1) with
  | none => rfl
  | some c => simpa using List.find?_some hf

theorem foldl_overwrite (cs c : List (String × Value)) :
    cs.foldl (fun acc ch => acc.map fun e => if e.1 == ch.1 then ch else e) c =
      c.map fun e => (cs.reverse.find? (·.1 == e.1)).getD e := by
  induction cs using List.reverseRecOn with
  | nil => simp
  | append_singleton cs ch ih =>
    rw [List.foldl_append, List.foldl_cons, List.foldl_nil, ih, List.map_map]
    apply List.map_congr_left
    intro e _
    have hname := fst_find?_getD cs.reverse e
    rw [List.reverse_append, List.reverse_singleton, List.singleton_append, List.find?_cons]
    by_cases hc : ch.1 = e.1
    · simp [hname, hc]
    · have hne : (ch.1 == e.1) = false := by simpa using hc
      have hne' : (e.1 == ch.1) = false := by simpa using Ne.symm hc
      simp only [Function.comp_apply, hname, hne, hne', Bool.false_eq_true, ite_false]

theorem changes_eq (b : Binding) (body : Xml.Document) :
    b.changes body =
      match PropertySet.read body with
      | .error _ => []
      | .ok props =>
        if (props.map b.propertyChange).all Except.toBool then
          (props.map b.propertyChange).filterMap (·.toOption.join)
        else [] := by
  unfold changes
  cases PropertySet.read body with
  | error e => rfl
  | ok props =>
    dsimp only
    cases h : props.filterMapM b.propertyChange with
    | ok cs =>
      obtain ⟨hall, rfl⟩ := filterMapM_eq_ok h
      simp [hall]
    | error e => simp [all_toBool_of_filterMapM_eq_error h]

theorem handleEvent_fst (b : Binding) (body : Xml.Document) :
    (b.handleEvent body).1 =
      { b with evented := b.evented.map fun e =>
          ((b.handleEvent body).2.reverse.find? (·.1 == e.1)).getD e } := by
  simp only [handleEvent, foldl_overwrite]

theorem handleEvent_of_changes_nil {b : Binding} {body : Xml.Document}
    (h : (b.handleEvent body).2 = []) : b.handleEvent body = (b, []) := by
  have hfst := handleEvent_fst b body
  rw [h] at hfst
  cases b
  simp_all [Prod.ext_iff]

/-- A notification is taken in whole or not at all. When its body is a property set and every
property is taken in, the changes are those the properties bring, in document order; otherwise
nothing changes and nothing is reported. Each cached value takes the last change of its name,
the names stay, and the callback is called once, with the changes, when there are any. The
variable a property carries is the text of its last child of that name. -/
theorem handleEvent_whole_or_nothing (b : Binding) (body : Xml.Document) :
    (b.handleEvent body).1 = { b with evented := b.evented.map fun e =>
        ((b.handleEvent body).2.reverse.find? (·.1 == e.1)).getD e } ∧
    (b.handleEvent body).1.evented.map Prod.fst = b.evented.map Prod.fst ∧
    eventCalls (b.handleEvent body).2 =
      (if (b.handleEvent body).2 = [] then [] else [(b.handleEvent body).2]) ∧
    (∀ e n, (PropertySet.property e).lookup n =
      (e.children.reverse.find? (·.tag.localName == n)).map (·.text.getD "")) ∧
    match PropertySet.read body with
    | .error _ => b.handleEvent body = (b, [])
    | .ok props => ∃ outs, List.Forall₂ (PropertyOutcome b.definition.evented) props outs ∧
        if outs.all Except.toBool then (b.handleEvent body).2 = outs.filterMap (·.toOption.join)
        else b.handleEvent body = (b, []) := by
  have hch : (b.handleEvent body).2 = b.changes body := rfl
  refine ⟨handleEvent_fst b body, ?_, ?_, PropertySet.lookup_property, ?_⟩
  · rw [handleEvent_fst, List.map_map]
    exact List.map_congr_left fun e _ => fst_find?_getD _ e
  · unfold eventCalls
    cases (b.handleEvent body).2 <;> simp
  · cases hr : PropertySet.read body with
    | error e =>
      apply handleEvent_of_changes_nil
      rw [hch, changes_eq, hr]
    | ok props =>
      refine ⟨props.map b.propertyChange,
        List.forall₂_map_right_iff.mpr (List.forall₂_same.mpr fun p _ => propertyChange_outcome b p),
        ?_⟩
      split
      · rename_i hall
        rw [hch, changes_eq, hr]
        exact if_pos hall
      · rename_i hall
        apply handleEvent_of_changes_nil
        rw [hch, changes_eq, hr]
        exact if_neg hall

end Binding

end UpnpBinding
