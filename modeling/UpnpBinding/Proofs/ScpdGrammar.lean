import UpnpBinding.Scpd.Reader
import UpnpBinding.Proofs.Monadic
import Mathlib.Data.List.Nodup
/-!
The grammar that reading a service description accepts, stated on the root element of the
document. A description reads exactly when its document reads (its padding cut from the end) to
a root element called `scpd` in which: the version numbers, when present and not blank, are
integers; every state variable of a state table has a name and a data type that are not blank,
and no two share a name; every action of an action list has a name that is not blank, and no
two share one; and every argument of an argument list has a name, the direction `in` or `out`,
and a related state variable that is declared, all stripped of blanks.

What it reads is what the document says: the state variables and the actions in document order,
each with the stripped texts of its elements, an action with its arguments in document order.
-/
namespace UpnpBinding

namespace ScpdReader

open Xml

def Filled (e : Element) (field : String) : Prop :=
  ∃ t, strippedText? e field = some t ∧ t ≠ ""

def VersionText (v : Element) (field : String) : Prop :=
  ∀ t, strippedText? v field = some t → t ≠ "" → ∃ n, readInteger t = .ok n

/-- `n` is the number a version field says: its stripped text read as an integer, or `fallback`
when it is absent or blank. -/
def VersionValue (v : Element) (field : String) (fallback n : Int) : Prop :=
  match strippedText? v field with
  | some t => if t = "" then n = fallback else readInteger t = .ok n
  | none => n = fallback

/-- An argument element as the grammar wants it, `declared` holding the names of the state
variables. -/
structure ArgumentForm (declared : List String) (g : Element) : Prop where
  name : Filled g "name"
  direction : strippedText? g "direction" = some "in" ∨ strippedText? g "direction" = some "out"
  related : ∃ t, strippedText? g "relatedStateVariable" = some t ∧ t ≠ "" ∧ t ∈ declared

def variableElements (root : Element) : List Element :=
  nested root "serviceStateTable" "stateVariable"

def actionElements (root : Element) : List Element :=
  nested root "actionList" "action"

structure Grammar (root : Element) : Prop where
  named : root.tag.localName = "scpd"
  versions : ∀ v, root.child? "specVersion" = some v →
    VersionText v "major" ∧ VersionText v "minor"
  variablesFilled : ∀ e ∈ variableElements root, Filled e "name" ∧ Filled e "dataType"
  variableNames : ((variableElements root).map (strippedText? · "name")).Nodup
  actionsFilled : ∀ a ∈ actionElements root, Filled a "name" ∧
    ∀ g ∈ nested a "argumentList" "argument",
      ArgumentForm ((variableElements root).filterMap (strippedText? · "name")) g
  actionNames : ((actionElements root).map (strippedText? · "name")).Nodup

structure VariableOf (e : Element) (v : StateVariable) : Prop where
  name : strippedText? e "name" = some v.name
  nameFilled : v.name ≠ ""
  dataType : strippedText? e "dataType" = some v.dataType
  dataTypeFilled : v.dataType ≠ ""
  sendEvents : v.sendEvents = match e.attribute? "sendEvents" with
    | some a => a == "yes"
    | none => strippedText? e "sendEventsAttribute" == some "yes"
  multicast : v.multicast = (e.attribute? "multicast" == some "yes")
  defaultValue : v.defaultValue = e.childText? "defaultValue"
  allowedRange : v.allowedRange = (e.child? "allowedValueRange").map fun r =>
    ⟨strippedText? r "minimum", strippedText? r "maximum", strippedText? r "step"⟩
  allowedValues : v.allowedValues = (nested e "allowedValueList" "allowedValue").filterMap (·.text)

structure ArgumentOf (g : Element) (arg : Argument) : Prop where
  name : strippedText? g "name" = some arg.name
  nameFilled : arg.name ≠ ""
  direction : strippedText? g "direction" = some arg.direction.text
  related : strippedText? g "relatedStateVariable" = some arg.relatedStateVariable
  relatedFilled : arg.relatedStateVariable ≠ ""

structure ActionOf (e : Element) (a : Action) : Prop where
  name : strippedText? e "name" = some a.name
  nameFilled : a.name ≠ ""
  arguments : List.Forall₂ ArgumentOf (nested e "argumentList" "argument") a.arguments

structure DescriptionOf (root : Element) (d : Scpd) : Prop where
  version : match root.child? "specVersion" with
    | some v => VersionValue v "major" 1 d.specVersion.major ∧
        VersionValue v "minor" 0 d.specVersion.minor
    | none => d.specVersion = ⟨1, 0⟩
  stateVariables : List.Forall₂ VariableOf (variableElements root) d.stateVariables
  actions : List.Forall₂ ActionOf (actionElements root) d.actions

theorem requiredText_eq_ok_iff {e : Element} {field owner t : String} :
    requiredText e field owner = .ok t ↔ strippedText? e field = some t ∧ t ≠ "" := by
  unfold requiredText
  cases strippedText? e field with
  | none => simp
  | some s =>
    by_cases hs : s = ""
    · subst hs
      simp
    · dsimp only
      rw [if_neg (by simpa [String.isEmpty_iff] using hs), Except.ok.injEq, Option.some.injEq]
      constructor
      · rintro rfl
        exact ⟨rfl, hs⟩
      · exact fun h => h.1

theorem versionNumber_eq_ok_iff {v : Element} {field : String} {fallback n : Int} :
    versionNumber v field fallback = .ok n ↔ VersionValue v field fallback n := by
  unfold versionNumber VersionValue
  cases strippedText? v field with
  | none => exact ⟨fun h => (Except.ok.inj h).symm, fun h => h ▸ rfl⟩
  | some t =>
    by_cases ht : t = ""
    · subst ht
      exact ⟨fun h => (Except.ok.inj h).symm, fun h => h ▸ rfl⟩
    · simp only [String.isEmpty_iff, ht, if_false]
      cases readInteger t <;> simp

theorem exists_versionNumber_iff {v : Element} {field : String} {fallback : Int} :
    (∃ n, versionNumber v field fallback = .ok n) ↔ VersionText v field := by
  simp only [versionNumber_eq_ok_iff, VersionValue, VersionText]
  cases strippedText? v field with
  | none => simp
  | some t =>
    by_cases ht : t = ""
    · simp [ht]
    · simp [ht]

theorem specVersion_eq_ok_iff {root : Element} {sv : SpecVersion} :
    specVersion root = .ok sv ↔ match root.child? "specVersion" with
      | some v => VersionValue v "major" 1 sv.major ∧ VersionValue v "minor" 0 sv.minor
      | none => sv = ⟨1, 0⟩ := by
  unfold specVersion
  cases root.child? "specVersion" with
  | none => simp [eq_comm]
  | some v =>
    simp only [Except.bind_eq_ok, pure, Except.pure, Except.ok.injEq, ← versionNumber_eq_ok_iff]
    constructor
    · rintro ⟨major, hmajor, minor, hminor, rfl⟩
      exact ⟨hmajor, hminor⟩
    · rintro ⟨hmajor, hminor⟩
      exact ⟨sv.major, hmajor, sv.minor, hminor, rfl⟩

theorem exists_specVersion_iff {root : Element} :
    (∃ sv, specVersion root = .ok sv) ↔
      ∀ v, root.child? "specVersion" = some v → VersionText v "major" ∧ VersionText v "minor" := by
  simp only [specVersion_eq_ok_iff]
  cases root.child? "specVersion" with
  | none => simp
  | some v =>
    simp only [Option.some.injEq, forall_eq']
    rw [← exists_versionNumber_iff, ← exists_versionNumber_iff]
    simp only [versionNumber_eq_ok_iff]
    constructor
    · rintro ⟨sv, hmajor, hminor⟩
      exact ⟨⟨_, hmajor⟩, ⟨_, hminor⟩⟩
    · rintro ⟨⟨major, hmajor⟩, ⟨minor, hminor⟩⟩
      exact ⟨⟨major, minor⟩, hmajor, hminor⟩

theorem stateVariable_eq_ok_iff {e : Element} {v : StateVariable} :
    stateVariable e = .ok v ↔ VariableOf e v := by
  unfold stateVariable
  simp only [Except.bind_eq_ok, pure, Except.pure, Except.ok.injEq]
  constructor
  · rintro ⟨name, hname, dataType, hdata, rfl⟩
    obtain ⟨hname, hnameFilled⟩ := requiredText_eq_ok_iff.mp hname
    obtain ⟨hdata, hdataFilled⟩ := requiredText_eq_ok_iff.mp hdata
    exact ⟨hname, hnameFilled, hdata, hdataFilled, rfl, rfl, rfl, rfl, rfl⟩
  · rintro ⟨hname, hnameFilled, hdata, hdataFilled, hsend, hmulti, hdefault, hrange, hvalues⟩
    refine ⟨v.name, requiredText_eq_ok_iff.mpr ⟨hname, hnameFilled⟩, v.dataType,
      requiredText_eq_ok_iff.mpr ⟨hdata, hdataFilled⟩, ?_⟩
    cases v
    simp only at hsend hmulti hdefault hrange hvalues
    subst hsend hmulti hdefault hrange hvalues
    cases e.attribute? "sendEvents" <;> rfl

theorem exists_stateVariable_iff {e : Element} :
    (∃ v, stateVariable e = .ok v) ↔ Filled e "name" ∧ Filled e "dataType" := by
  constructor
  · rintro ⟨v, hv⟩
    have h := stateVariable_eq_ok_iff.mp hv
    exact ⟨⟨_, h.name, h.nameFilled⟩, ⟨_, h.dataType, h.dataTypeFilled⟩⟩
  · rintro ⟨⟨name, hname, hnameFilled⟩, ⟨dataType, hdata, hdataFilled⟩⟩
    exact ⟨⟨name, dataType, _, _, _, _, _⟩,
      stateVariable_eq_ok_iff.mpr ⟨hname, hnameFilled, hdata, hdataFilled, rfl, rfl, rfl, rfl, rfl⟩⟩

theorem ofText?_eq_some_iff {w : String} {d : Direction} : Direction.ofText? w = some d ↔ w = d.text := by
  unfold Direction.ofText?
  split <;> cases d <;> simp_all [Direction.text]

theorem argument_eq_ok_iff {owner : String} {g : Element} {arg : Argument} :
    argument owner g = .ok arg ↔ ArgumentOf g arg := by
  unfold argument
  simp only [Except.bind_eq_ok]
  constructor
  · rintro ⟨name, hname, word, hword, h⟩
    obtain ⟨hname, hnameFilled⟩ := requiredText_eq_ok_iff.mp hname
    obtain ⟨hword, -⟩ := requiredText_eq_ok_iff.mp hword
    cases hd : Direction.ofText? word with
    | none =>
      -- a word that names no direction is refused
      rw [hd] at h
      cases h
    | some dir =>
      rw [hd] at h
      simp only [Except.bind_eq_ok, pure, Except.pure, Except.ok.injEq, exists_eq_left'] at h
      obtain ⟨related, hrel, rfl⟩ := h
      obtain ⟨hrel, hrelFilled⟩ := requiredText_eq_ok_iff.mp hrel
      exact ⟨hname, hnameFilled, ofText?_eq_some_iff.mp hd ▸ hword, hrel, hrelFilled⟩
  · rintro ⟨hname, hnameFilled, hdir, hrel, hrelFilled⟩
    have hword : arg.direction.text ≠ "" := by cases arg.direction <;> decide
    have hd : Direction.ofText? arg.direction.text = some arg.direction :=
      ofText?_eq_some_iff.mpr rfl
    refine ⟨arg.name, requiredText_eq_ok_iff.mpr ⟨hname, hnameFilled⟩, arg.direction.text,
      requiredText_eq_ok_iff.mpr ⟨hdir, hword⟩, ?_⟩
    rw [hd]
    simp only [Except.bind_eq_ok, pure, Except.pure]
    exact ⟨arg.direction, rfl, arg.relatedStateVariable,
      requiredText_eq_ok_iff.mpr ⟨hrel, hrelFilled⟩, rfl⟩

theorem action_eq_ok_iff {e : Element} {a : Action} : action e = .ok a ↔ ActionOf e a := by
  unfold action
  simp only [Except.bind_eq_ok, pure, Except.pure, Except.ok.injEq, mapM_eq_ok_iff,
    argument_eq_ok_iff]
  constructor
  · rintro ⟨name, hname, args, hargs, rfl⟩
    obtain ⟨hname, hnameFilled⟩ := requiredText_eq_ok_iff.mp hname
    exact ⟨hname, hnameFilled, hargs⟩
  · rintro ⟨hname, hnameFilled, hargs⟩
    exact ⟨a.name, requiredText_eq_ok_iff.mpr ⟨hname, hnameFilled⟩, a.arguments, hargs, rfl⟩

section

variable {β : Type} {read : Element → Except ScpdError β} {nameOf : β → String}
  {duplicate : String → ScpdError}

theorem readUnique_eq_ok_iff {acc : List β} {es : List Element} {vs : List β} :
    readUnique read nameOf duplicate acc es = .ok vs ↔
      ∃ ws, List.Forall₂ (fun e v => read e = .ok v) es ws ∧ (ws.map nameOf).Nodup ∧
        (∀ w ∈ ws, nameOf w ∉ acc.map nameOf) ∧ vs = acc.reverse ++ ws := by
  induction es generalizing acc with
  | nil =>
    simp only [readUnique, Except.ok.injEq, List.forall₂_nil_left_iff, exists_eq_left,
      List.map_nil, List.nodup_nil, List.not_mem_nil, IsEmpty.forall_iff, implies_true,
      List.append_nil, true_and]
    exact eq_comm
  | cons e rest ih =>
    simp only [readUnique, Except.bind_eq_ok]
    constructor
    · rintro ⟨v, hv, hrest⟩
      split at hrest
      · cases hrest
      · rename_i hfresh
        obtain ⟨ws, hws, hnodup, hnew, rfl⟩ := ih.mp hrest
        have hv' : nameOf v ∉ acc.map nameOf := by simpa using hfresh
        refine ⟨v :: ws, .cons hv hws, ?_, ?_, by simp⟩
        · refine List.nodup_cons.mpr ⟨fun hm => ?_, hnodup⟩
          obtain ⟨w, hw, hwv⟩ := List.mem_map.mp hm
          exact hnew w hw (by simp [hwv])
        · intro w hw
          rcases List.mem_cons.mp hw with rfl | hw
          · exact hv'
          · exact fun h => hnew w hw (List.mem_cons_of_mem _ h)
    · rintro ⟨ws, hws, hnodup, hnew, rfl⟩
      obtain ⟨v, ws, rfl⟩ : ∃ v ws', ws = v :: ws' := by
        cases hws with
        | cons h t => exact ⟨_, _, rfl⟩
      obtain ⟨hv, hws⟩ := List.forall₂_cons.mp hws
      rw [List.map_cons, List.nodup_cons] at hnodup
      have hfresh : acc.any (nameOf · == nameOf v) = false := by
        simpa using hnew v List.mem_cons_self
      refine ⟨v, hv, ?_⟩
      rw [if_neg (by simp [hfresh])]
      refine ih.mpr ⟨ws, hws, hnodup.2, fun w hw hm => ?_, by simp⟩
      rw [List.map_cons, List.mem_cons] at hm
      rcases hm with h | h
      · exact hnodup.1 (h ▸ List.mem_map_of_mem hw)
      · exact hnew w (List.mem_cons_of_mem _ hw) h

theorem readUnique_nil_eq_ok_iff {es : List Element} {vs : List β} :
    readUnique read nameOf duplicate [] es = .ok vs ↔
      List.Forall₂ (fun e v => read e = .ok v) es vs ∧ (vs.map nameOf).Nodup := by
  rw [readUnique_eq_ok_iff]
  constructor
  · rintro ⟨ws, hws, hnodup, -, rfl⟩
    exact ⟨hws, hnodup⟩
  · rintro ⟨hvs, hnodup⟩
    exact ⟨vs, hvs, hnodup, by simp, by simp⟩

end

theorem stateVariables_eq_ok_iff {es : List Element} {vs : List StateVariable} :
    stateVariables es = .ok vs ↔ List.Forall₂ VariableOf es vs ∧ (vs.map (·.name)).Nodup := by
  unfold stateVariables
  rw [readUnique_nil_eq_ok_iff]
  simp only [stateVariable_eq_ok_iff]

theorem actions_eq_ok_iff {es : List Element} {as : List Action} :
    actions es = .ok as ↔ List.Forall₂ ActionOf es as ∧ (as.map (·.name)).Nodup := by
  unfold actions
  rw [readUnique_nil_eq_ok_iff]
  simp only [action_eq_ok_iff]

theorem unresolved_eq_none_iff {d : Scpd} :
    unresolved d = none ↔
      ∀ a ∈ d.actions, ∀ arg ∈ a.arguments, d.hasStateVariable arg.relatedStateVariable = true := by
  unfold unresolved
  simp only [List.findSome?_eq_none_iff, Option.map_eq_none_iff, List.find?_eq_none,
    Bool.not_eq_true', Bool.not_eq_false]

theorem nodup_names_iff {R : Element → β → Prop} {nameOf : β → String} {es : List Element}
    {vs : List β} (h : List.Forall₂ R es vs) (hname : ∀ e v, R e v → strippedText? e "name" = some (nameOf v)) :
    (es.map (strippedText? · "name")).Nodup ↔ (vs.map nameOf).Nodup := by
  have hmap : es.map (strippedText? · "name") = (vs.map nameOf).map some := by
    rw [List.map_map]
    exact (map_eq_map_of_forall₂ h hname).symm
  rw [hmap]
  exact List.nodup_map_iff fun _ _ h => Option.some.inj h

theorem hasStateVariable_of_declared {d : Scpd} {es : List Element}
    (h : List.Forall₂ VariableOf es d.stateVariables) {t : String}
    (ht : t ∈ es.filterMap (strippedText? · "name")) : d.hasStateVariable t = true := by
  obtain ⟨e, he, hname⟩ := List.mem_filterMap.mp ht
  obtain ⟨v, hv, hvar⟩ := exists_of_forall₂_of_mem h he
  rw [hvar.name, Option.some.injEq] at hname
  exact List.any_eq_true.mpr ⟨v, hv, by simp [hname]⟩

theorem declared_of_hasStateVariable {d : Scpd} {es : List Element}
    (h : List.Forall₂ VariableOf es d.stateVariables) {t : String}
    (ht : d.hasStateVariable t = true) : t ∈ es.filterMap (strippedText? · "name") := by
  obtain ⟨v, hv, hname⟩ := List.any_eq_true.mp ht
  obtain ⟨e, he, hvar⟩ := exists_of_forall₂_of_mem_right h hv
  refine List.mem_filterMap.mpr ⟨e, he, ?_⟩
  rw [hvar.name, show v.name = t by simpa using hname]

theorem argumentForm_of_argumentOf {declared : List String} {g : Element} {arg : Argument}
    (h : ArgumentOf g arg) (hdeclared : arg.relatedStateVariable ∈ declared) :
    ArgumentForm declared g := by
  refine ⟨⟨_, h.name, h.nameFilled⟩, ?_, ⟨_, h.related, h.relatedFilled, hdeclared⟩⟩
  rw [h.direction]
  cases arg.direction
  · exact .inl rfl
  · exact .inr rfl

theorem exists_argumentOf {declared : List String} {g : Element} (h : ArgumentForm declared g) :
    ∃ arg, ArgumentOf g arg := by
  obtain ⟨⟨name, hname, hnameFilled⟩, hdir, ⟨related, hrel, hrelFilled, -⟩⟩ := h
  rcases hdir with hdir | hdir
  · exact ⟨⟨name, .input, related⟩, hname, hnameFilled, hdir, hrel, hrelFilled⟩
  · exact ⟨⟨name, .output, related⟩, hname, hnameFilled, hdir, hrel, hrelFilled⟩

theorem ofElement_eq_ok_iff {root : Element} {d : Scpd} :
    Scpd.ofElement root = .ok d ↔ root.tag.localName = "scpd" ∧
      specVersion root = .ok d.specVersion ∧
      stateVariables (variableElements root) = .ok d.stateVariables ∧
      actions (actionElements root) = .ok d.actions ∧ unresolved d = none := by
  unfold Scpd.ofElement
  by_cases hroot : root.tag.localName = "scpd"
  · simp only [hroot, bne_self_eq_false, Bool.false_eq_true, if_false, Except.bind_eq_ok, true_and]
    constructor
    · rintro ⟨version, hversion, vs, hvs, as, has, hd⟩
      split at hd
      · cases hd
      · rename_i hnone
        cases hd
        exact ⟨hversion, hvs, has, hnone⟩
    · rintro ⟨hversion, hvs, has, hnone⟩
      refine ⟨d.specVersion, hversion, d.stateVariables, hvs, d.actions, has, ?_⟩
      rw [hnone]
      rfl
  · have hne : (root.tag.localName != "scpd") = true := by simpa using hroot
    simp only [hne, if_true, hroot, false_and, iff_false]
    exact fun h => nomatch h

theorem ofElement_eq_ok_iff_grammar {root : Element} {d : Scpd} :
    Scpd.ofElement root = .ok d ↔ Grammar root ∧ DescriptionOf root d := by
  rw [ofElement_eq_ok_iff, stateVariables_eq_ok_iff, actions_eq_ok_iff, specVersion_eq_ok_iff,
    unresolved_eq_none_iff]
  constructor
  · rintro ⟨hroot, hversion, ⟨hvars, hvarNames⟩, ⟨hacts, hactNames⟩, hresolved⟩
    refine ⟨⟨hroot, ?_, ?_, ?_, ?_, ?_⟩, hversion, hvars, hacts⟩
    · exact exists_specVersion_iff.mp ⟨_, specVersion_eq_ok_iff.mpr hversion⟩
    · intro e he
      obtain ⟨v, -, hv⟩ := exists_of_forall₂_of_mem hvars he
      exact ⟨⟨_, hv.name, hv.nameFilled⟩, ⟨_, hv.dataType, hv.dataTypeFilled⟩⟩
    · exact (nodup_names_iff hvars fun _ _ hv => hv.name).mpr hvarNames
    · intro e he
      obtain ⟨a, ha, hact⟩ := exists_of_forall₂_of_mem hacts he
      refine ⟨⟨_, hact.name, hact.nameFilled⟩, fun g hg => ?_⟩
      obtain ⟨arg, harg, hargOf⟩ := exists_of_forall₂_of_mem hact.arguments hg
      exact argumentForm_of_argumentOf hargOf
        (declared_of_hasStateVariable hvars (hresolved a ha arg harg))
    · exact (nodup_names_iff hacts fun _ _ ha => ha.name).mpr hactNames
  · rintro ⟨hg, hversion, hvars, hacts⟩
    refine ⟨hg.named, hversion, ⟨hvars, (nodup_names_iff hvars fun _ _ hv => hv.name).mp
      hg.variableNames⟩, ⟨hacts, (nodup_names_iff hacts fun _ _ ha => ha.name).mp hg.actionNames⟩,
      fun a ha arg harg => ?_⟩
    -- the argument's element names a declared state variable, which is one of those read
    obtain ⟨e, he, hact⟩ := exists_of_forall₂_of_mem_right hacts ha
    obtain ⟨g, hg', hargOf⟩ := exists_of_forall₂_of_mem_right hact.arguments harg
    obtain ⟨t, ht, -, hdeclared⟩ := ((hg.actionsFilled e he).2 g hg').related
    rw [hargOf.related, Option.some.injEq] at ht
    exact hasStateVariable_of_declared hvars (ht ▸ hdeclared)

theorem exists_descriptionOf {root : Element} (hg : Grammar root) : ∃ d, DescriptionOf root d := by
  obtain ⟨version, hversion⟩ := exists_specVersion_iff.mpr hg.versions
  obtain ⟨vs, hvs⟩ := exists_forall₂_of_forall fun e he =>
    exists_stateVariable_iff.mpr (hg.variablesFilled e he)
  -- each action element has a name and arguments that say an argument each
  obtain ⟨as, has⟩ := exists_forall₂_of_forall fun e he => by
    obtain ⟨⟨name, hname, hnameFilled⟩, hargs⟩ := hg.actionsFilled e he
    obtain ⟨args, hargsOf⟩ := exists_forall₂_of_forall (f := argument name) fun g hg' => by
      obtain ⟨arg, harg⟩ := exists_argumentOf (hargs g hg')
      exact ⟨arg, argument_eq_ok_iff.mpr harg⟩
    exact ⟨⟨name, args⟩, action_eq_ok_iff.mpr ⟨hname, hnameFilled,
      hargsOf.imp fun _ _ h => argument_eq_ok_iff.mp h⟩⟩
  exact ⟨⟨version, vs, as⟩, specVersion_eq_ok_iff.mp hversion,
    hvs.imp fun _ _ h => stateVariable_eq_ok_iff.mp h, has.imp fun _ _ h => action_eq_ok_iff.mp h⟩

end ScpdReader

open ScpdReader in
/-- Reading a service description accepts exactly the documents that, their padding cut from the
end, read to a root element of the grammar; what it reads is what that element says. -/
theorem Scpd.read_accepts_grammar (doc : Xml.Document) :
    ((∃ d, Scpd.read doc = .ok d) ↔ ∃ root, doc.trimEnd.read = .ok root ∧ Grammar root) ∧
    ∀ d, Scpd.read doc = .ok d ↔
      ∃ root, doc.trimEnd.read = .ok root ∧ Grammar root ∧ DescriptionOf root d := by
  have hread : ∀ d, Scpd.read doc = .ok d ↔
      ∃ root, doc.trimEnd.read = .ok root ∧ Grammar root ∧ DescriptionOf root d := by
    intro d
    unfold Scpd.read
    cases doc.trimEnd.read with
    | error e => simp
    | ok root => simp [ofElement_eq_ok_iff_grammar]
  refine ⟨⟨fun ⟨d, hd⟩ => ?_, fun ⟨root, hroot, hg⟩ => ?_⟩, hread⟩
  · obtain ⟨root, hroot, hg, -⟩ := (hread d).mp hd
    exact ⟨root, hroot, hg⟩
  · obtain ⟨d, hdesc⟩ := exists_descriptionOf hg
    exact ⟨d, (hread d).mpr ⟨root, hroot, hg, hdesc⟩⟩

end UpnpBinding
