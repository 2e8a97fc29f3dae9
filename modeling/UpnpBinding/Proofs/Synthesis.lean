import UpnpBinding.Definition
import UpnpBinding.Proofs.Monadic
import UpnpBinding.Proofs.Normalization
import UpnpBinding.Proofs.Keyed
/-!
Making a service definition from a service description succeeds or fails as a whole, and when
it succeeds the definition reflects the description exactly. It succeeds exactly when every
argument's state variable is declared and every data type in use has a mapping, and when every
record type can be made: its type name and field names usable, its field names distinct and not
starting with an underscore, and distinct again in the compatibility normal form that the
record's constructor gives its parameters.
-/
namespace UpnpBinding

/-- A name that can name a record type or one of its fields: an identifier that is no reserved
word. -/
def UsableName (n : String) : Prop := Text.isIdentifier n = true ∧ Name.isReserved n = false

/-- Field names a record type can be made with: usable names that do not start with an
underscore and stand once each, whose compatibility normal forms, which the constructor's
parameters take, also stand once each and differ from the record parameter. -/
def FieldNames (fs : List String) : Prop :=
  (∀ f ∈ fs, UsableName f ∧ ¬ f.startsWith "_") ∧ fs.Nodup ∧
    (RecordType.recordParameter :: fs.map Text.Normalization.nfkc).Nodup

instance (n : String) : Decidable (UsableName n) := inferInstanceAs (Decidable (_ ∧ _))

instance (fs : List String) : Decidable (FieldNames fs) := inferInstanceAs (Decidable (_ ∧ _))

theorem usableName_response {n : String} (h : UsableName (n ++ "Args")) :
    UsableName (n ++ "Response") := by
  obtain ⟨hid, -⟩ := h
  refine ⟨?_, ?_⟩
  · unfold Text.isIdentifier at hid ⊢
    rw [String.toList_append] at hid ⊢
    cases hn : n.toList with
    | nil => rfl
    | cons c rest =>
      rw [hn] at hid
      simp only [List.cons_append, Bool.and_eq_true, List.all_append] at hid ⊢
      exact ⟨hid.1, hid.2.1, by decide⟩
  · -- no reserved word ends in `Response`
    have suffixes : ∀ w ∈ Name.reservedWords, ¬ "Response".toList <:+ w.toList := by decide
    unfold Name.isReserved
    cases hc : Name.reservedWords.contains (n ++ "Response") with
    | false => rfl
    | true =>
      have hm : n ++ "Response" ∈ Name.reservedWords := by simpa using hc
      exact absurd ⟨n.toList, (String.toList_append).symm⟩ (suffixes _ hm)

namespace RecordType

theorem nameFault_eq_none {n : String} : nameFault n = none ↔ UsableName n := by
  unfold nameFault UsableName
  cases Text.isIdentifier n <;> cases Name.isReserved n <;> simp

theorem fieldFault_eq_none {seen fs : List String} :
    fieldFault seen fs = none ↔
      (∀ f ∈ fs, ¬ f.startsWith "_") ∧ fs.Nodup ∧ ∀ f ∈ fs, f ∉ seen := by
  induction fs generalizing seen with
  | nil => simp [fieldFault]
  | cons f fs ih =>
    unfold fieldFault
    by_cases hu : f.startsWith "_" = true
    · rw [if_pos hu]
      simp only [reduceCtorEq, false_iff, not_and]
      intro h
      exact absurd hu (h f List.mem_cons_self)
    · by_cases hs : f ∈ seen
      · rw [if_neg hu, if_pos (List.contains_iff_mem.mpr hs)]
        simp only [reduceCtorEq, false_iff, not_and]
        intro _ _ h
        exact absurd hs (h f List.mem_cons_self)
      · rw [if_neg hu, if_neg (by simpa using hs), ih]
        simp only [List.mem_cons, forall_eq_or_imp, List.nodup_cons, not_or]
        constructor
        · rintro ⟨h1, h2, h3⟩
          exact ⟨⟨hu, h1⟩, ⟨fun hm => (h3 f hm).1 rfl, h2⟩, hs, fun g hg => (h3 g hg).2⟩
        · rintro ⟨⟨_, h1⟩, ⟨hf, h2⟩, _, h3⟩
          exact ⟨h1, h2, fun g hg => ⟨fun he => hf (he ▸ hg), h3 g hg⟩⟩

theorem repeatedName_eq_none {seen ns : List String} :
    repeatedName seen ns = none ↔ ns.Nodup ∧ ∀ n ∈ ns, n ∉ seen := by
  induction ns generalizing seen with
  | nil => simp [repeatedName]
  | cons n ns ih =>
    unfold repeatedName
    by_cases hs : n ∈ seen
    · simp [hs]
    · rw [if_neg (by simpa using hs), ih]
      simp only [List.mem_cons, forall_eq_or_imp, List.nodup_cons, not_or]
      constructor
      · rintro ⟨h1, h2⟩
        exact ⟨⟨fun hm => (h2 n hm).1 rfl, h1⟩, hs, fun m hm => (h2 m hm).2⟩
      · rintro ⟨⟨hn, h1⟩, _, h2⟩
        exact ⟨h1, fun m hm => ⟨fun he => hn (he ▸ hm), h2 m hm⟩⟩

theorem make_eq_ok_iff {name : String} {fields : List String} {defaults : List Value}
    {r : RecordType} :
    make name fields defaults = .ok r ↔ UsableName name ∧ FieldNames fields ∧
      r = ⟨name, fields, (fields.drop (fields.length - defaults.length)).zip defaults⟩ := by
  have names : (name :: fields).findSome? nameFault = none ↔
      UsableName name ∧ ∀ f ∈ fields, UsableName f := by
    simp [List.findSome?_eq_none_iff, nameFault_eq_none]
  unfold make FieldNames
  split
  · rename_i e he
    simp only [reduceCtorEq, false_iff, not_and]
    intro hn hf
    rw [names.mpr ⟨hn, fun f hm => (hf.1 f hm).1⟩] at he
    cases he
  · rename_i hn
    obtain ⟨hname, hfields⟩ := names.mp hn
    split
    · rename_i e he
      simp only [reduceCtorEq, false_iff, not_and]
      intro _ hf
      have hnone : fieldFault [] fields = none :=
        fieldFault_eq_none.mpr ⟨fun f hm => (hf.1 f hm).2, hf.2.1, by simp⟩
      rw [hnone] at he
      cases he
    · rename_i hff
      obtain ⟨hund, hnodup, -⟩ := fieldFault_eq_none.mp hff
      split
      · rename_i n hr
        simp only [reduceCtorEq, false_iff, not_and]
        intro _ hf
        have hnone : repeatedName [] (recordParameter :: fields.map Text.Normalization.nfkc) =
            none := repeatedName_eq_none.mpr ⟨hf.2.2, by simp⟩
        rw [hnone] at hr
        cases hr
      · rename_i hr
        have hp := (repeatedName_eq_none.mp hr).1
        simp only [Except.ok.injEq]
        constructor
        · rintro rfl
          exact ⟨hname, ⟨fun f hm => ⟨hfields f hm, hund f hm⟩, hnodup, hp⟩, rfl⟩
        · rintro ⟨-, -, rfl⟩
          rfl

end RecordType

theorem DataType.ofName_name (t : DataType) : DataType.ofName (some t.name) = .ok t := by
  cases t <;> rfl

theorem DataType.name_of_ofName {n : String} {t : DataType}
    (h : DataType.ofName (some n) = .ok t) : t.name = n := by
  simp only [DataType.ofName] at h
  cases hf : DataType.all.find? (·.name == n) with
  | some t' =>
    rw [hf] at h
    cases h
    simpa using List.find?_some hf
  | none =>
    rw [hf] at h
    by_cases hfix : DataType.isFixedName n <;> simp [hfix] at h

theorem Action.mem_arguments {a : Action} {arg : Argument} (h : arg ∈ a.arguments) :
    arg ∈ a.inArguments ∨ arg ∈ a.outArguments := by
  unfold Action.inArguments Action.outArguments
  cases hd : arg.direction with
  | input => exact .inl (List.mem_filter.mpr ⟨h, by simp [hd]⟩)
  | output => exact .inr (List.mem_filter.mpr ⟨h, by simp [hd]⟩)

/-- How a field stands for an argument: under the argument's name, bound to the state variable
the argument names, with the data type that state variable names. -/
def FieldOf (scpd : Scpd) (arg : Argument) (f : Field) : Prop :=
  f.name = arg.name ∧ scpd.stateVariable? arg.relatedStateVariable = some f.stateVariable ∧
    f.dataType.name = f.stateVariable.dataType

/-- What an argument needs to have a field: its state variable is declared, and that state
variable's data type has a mapping. -/
def Resolvable (scpd : Scpd) (arg : Argument) : Prop :=
  ∃ sv, scpd.stateVariable? arg.relatedStateVariable = some sv ∧ ∃ t : DataType, t.name = sv.dataType

structure ActionSynthesizable (scpd : Scpd) (a : Action) : Prop where
  resolvable : ∀ arg ∈ a.arguments, Resolvable scpd arg
  typeName : UsableName (a.name ++ "Args")
  inNames : FieldNames (a.inArguments.map (·.name) ++ ["xmlns"])
  outNames : FieldNames (a.outArguments.map (·.name))

/-- The definition of an action reflects the action: its fields are its in- and out-arguments in
document order, the request record holds the in-fields and then `xmlns` defaulting to the service
type, and the response record holds the out-fields, each defaulting to nothing. -/
structure ActionReflects (scpd : Scpd) (serviceType : String) (a : Action) (ad : ActionDefinition) :
    Prop where
  name : ad.name = a.name
  inFields : List.Forall₂ (FieldOf scpd) a.inArguments ad.inFields
  outFields : List.Forall₂ (FieldOf scpd) a.outArguments ad.outFields
  request : ad.request = ⟨a.name ++ "Args", a.inArguments.map (·.name) ++ ["xmlns"],
    [("xmlns", .text serviceType)]⟩
  response : ad.response = ⟨a.name ++ "Response", a.outArguments.map (·.name),
    a.outArguments.map fun arg => (arg.name, .none)⟩

theorem resolvable_of_fieldOf {scpd : Scpd} {arg : Argument} {f : Field}
    (h : FieldOf scpd arg f) : Resolvable scpd arg :=
  ⟨f.stateVariable, h.2.1, f.dataType, h.2.2⟩

theorem zip_map_const (l : List α) (ys : List β) (c : γ) (h : l.length = ys.length) :
    l.zip (ys.map fun _ => c) = l.map (·, c) := by
  induction l generalizing ys with
  | nil => rfl
  | cons x l ih =>
    cases ys with
    | nil => cases h
    | cons y ys => simp only [List.map_cons, List.zip_cons_cons, ih ys (by simpa using h)]

namespace Definition

theorem field_eq_ok_iff {name : String} {sv : StateVariable} {f : Field} :
    field name sv = .ok f ↔
      f.name = name ∧ f.stateVariable = sv ∧ f.dataType.name = sv.dataType := by
  unfold field
  split
  · rename_i t ht
    have hname := DataType.name_of_ofName ht
    constructor
    · intro h
      cases h
      exact ⟨rfl, rfl, hname⟩
    · rintro ⟨h1, h2, h3⟩
      have same : f.dataType = t := by
        have h := DataType.ofName_name f.dataType
        rw [h3, ht] at h
        cases h
        rfl
      cases f
      simp_all
  · rename_i e he
    simp only [reduceCtorEq, false_iff, not_and]
    intro _ _ h3
    rw [← h3, DataType.ofName_name] at he
    cases he

theorem argumentField_eq_ok_iff {scpd : Scpd} {a : Action} {arg : Argument} {f : Field} :
    argumentField scpd a arg = .ok f ↔ FieldOf scpd arg f := by
  unfold argumentField FieldOf
  split
  · rename_i sv hsv
    rw [field_eq_ok_iff, hsv]
    constructor
    · rintro ⟨h1, rfl, h3⟩
      exact ⟨h1, rfl, h3⟩
    · rintro ⟨h1, h2, h3⟩
      cases h2
      exact ⟨h1, rfl, h3⟩
  · rename_i hsv
    simp [hsv]

theorem exists_argumentField_iff {scpd : Scpd} {a : Action} {arg : Argument} :
    (∃ f, argumentField scpd a arg = .ok f) ↔ Resolvable scpd arg := by
  simp only [argumentField_eq_ok_iff, FieldOf, Resolvable]
  constructor
  · rintro ⟨f, -, hsv, ht⟩
    exact ⟨_, hsv, f.dataType, ht⟩
  · rintro ⟨sv, hsv, t, ht⟩
    exact ⟨⟨arg.name, sv, t⟩, rfl, hsv, ht⟩

theorem record_eq_ok_iff {name : String} {fields : List String} {defaults : List Value}
    {r : RecordType} : record name fields defaults = .ok r ↔ RecordType.make name fields defaults = .ok r := by
  unfold record
  split <;> rename_i h <;> rw [h] <;> simp

theorem fieldNames_of_forall₂ {scpd : Scpd} {args : List Argument} {fs : List Field}
    (h : List.Forall₂ (FieldOf scpd) args fs) : fs.map (·.name) = args.map (·.name) :=
  map_eq_map_of_forall₂ h fun _ _ hf => hf.1.symm

theorem action_eq_ok_iff {scpd : Scpd} {st : String} {a : Action} {ad : ActionDefinition} :
    action scpd st a = .ok ad ↔
      List.Forall₂ (FieldOf scpd) a.inArguments ad.inFields ∧
      List.Forall₂ (FieldOf scpd) a.outArguments ad.outFields ∧
      RecordType.make (a.name ++ "Args") (ad.inFields.map (·.name) ++ ["xmlns"]) [.text st] =
        .ok ad.request ∧
      RecordType.make (a.name ++ "Response") (ad.outFields.map (·.name))
        (ad.outFields.map fun _ => .none) = .ok ad.response ∧
      ad.name = a.name := by
  simp only [action, Except.bind_eq_ok, record_eq_ok_iff, mapM_eq_ok_iff, argumentField_eq_ok_iff,
    pure, Except.pure, Except.ok.injEq]
  constructor
  · rintro ⟨ins, hins, outs, houts, req, hreq, resp, hresp, rfl⟩
    exact ⟨hins, houts, hreq, hresp, rfl⟩
  · rintro ⟨hins, houts, hreq, hresp, hname⟩
    cases ad
    cases hname
    exact ⟨_, hins, _, houts, _, hreq, _, hresp, rfl⟩

theorem action_reflects {scpd : Scpd} {st : String} {a : Action} {ad : ActionDefinition}
    (h : action scpd st a = .ok ad) : ActionReflects scpd st a ad := by
  obtain ⟨hins, houts, hreq, hresp, hname⟩ := action_eq_ok_iff.mp h
  obtain ⟨-, -, hq⟩ := RecordType.make_eq_ok_iff.mp hreq
  obtain ⟨-, -, hr⟩ := RecordType.make_eq_ok_iff.mp hresp
  refine ⟨hname, hins, houts, ?_, ?_⟩
  · rw [hq, fieldNames_of_forall₂ hins]
    simp only [List.length_append, List.length_singleton, Nat.add_sub_cancel, List.drop_left,
      List.zip_cons_cons, List.zip_nil_left]
  · rw [hr, fieldNames_of_forall₂ houts]
    have hlen : (a.outArguments.map (·.name)).length - (ad.outFields.map fun _ => Value.none).length
        = 0 := by simp [houts.length_eq]
    rw [hlen, List.drop_zero]
    rw [zip_map_const _ _ _ (by simp [houts.length_eq]), List.map_map]
    rfl

theorem exists_action_iff {scpd : Scpd} {st : String} {a : Action} :
    (∃ ad, action scpd st a = .ok ad) ↔ ActionSynthesizable scpd a := by
  constructor
  · rintro ⟨ad, h⟩
    obtain ⟨hins, houts, hreq, hresp, -⟩ := action_eq_ok_iff.mp h
    obtain ⟨hargs, hin, -⟩ := RecordType.make_eq_ok_iff.mp hreq
    obtain ⟨-, hout, -⟩ := RecordType.make_eq_ok_iff.mp hresp
    rw [fieldNames_of_forall₂ hins] at hin
    rw [fieldNames_of_forall₂ houts] at hout
    refine ⟨fun arg harg => ?_, hargs, hin, hout⟩
    rcases Action.mem_arguments harg with hm | hm
    · obtain ⟨f, -, hf⟩ := exists_of_forall₂_of_mem hins hm
      exact resolvable_of_fieldOf hf
    · obtain ⟨f, -, hf⟩ := exists_of_forall₂_of_mem houts hm
      exact resolvable_of_fieldOf hf
  · intro hs
    have fields : ∀ args, (∀ arg ∈ args, arg ∈ a.arguments) →
        ∃ fs, List.Forall₂ (FieldOf scpd) args fs := by
      intro args hsub
      obtain ⟨fs, hfs⟩ : ∃ fs, List.Forall₂ (fun arg f => argumentField scpd a arg = .ok f) args fs :=
        exists_forall₂_of_forall fun arg harg =>
          exists_argumentField_iff.mpr (hs.resolvable arg (hsub arg harg))
      exact ⟨fs, hfs.imp fun _ _ => argumentField_eq_ok_iff.mp⟩
    obtain ⟨ins, hins⟩ := fields a.inArguments fun arg h => (List.mem_filter.mp h).1
    obtain ⟨outs, houts⟩ := fields a.outArguments fun arg h => (List.mem_filter.mp h).1
    have hreq : RecordType.make (a.name ++ "Args") (ins.map (·.name) ++ ["xmlns"]) [.text st] =
        .ok ⟨a.name ++ "Args", ins.map (·.name) ++ ["xmlns"], _⟩ :=
      RecordType.make_eq_ok_iff.mpr
        ⟨hs.typeName, (fieldNames_of_forall₂ hins).symm ▸ hs.inNames, rfl⟩
    have hresp : RecordType.make (a.name ++ "Response") (outs.map (·.name))
        (outs.map fun _ => .none) = .ok ⟨a.name ++ "Response", outs.map (·.name), _⟩ :=
      RecordType.make_eq_ok_iff.mpr
        ⟨usableName_response hs.typeName, (fieldNames_of_forall₂ houts).symm ▸ hs.outNames, rfl⟩
    exact ⟨⟨a.name, ins, outs, _, _⟩, action_eq_ok_iff.mpr ⟨hins, houts, hreq, hresp, rfl⟩⟩

theorem putAction_eq_putBy : putAction = putBy (·.name) := rfl

end Definition

/-- What a whole description needs to have a definition: every action has one, and the data
type of every evented state variable has a mapping. -/
structure Synthesizable (scpd : Scpd) : Prop where
  actions : ∀ a ∈ scpd.actions, ActionSynthesizable scpd a
  evented : ∀ sv ∈ scpd.eventedStateVariables, ∃ t : DataType, t.name = sv.dataType

/-- A service definition reflects its description and parameters. Its actions are keyed by name
in the order names first appear, each the definition of the last action of its name; its evented
fields are the evented state variables in document order. -/
structure Reflects (scpd : Scpd) (name control event : String) (requested : Option String)
    (d : ServiceDefinition) : Prop where
  serviceName : d.serviceName = name
  serviceType : d.serviceType = match requested with
    | some t => if t.isEmpty then serviceTypeOf name else t
    | none => serviceTypeOf name
  controlPath : d.controlPath = control
  eventPath : d.eventPath = event
  actionNames : d.actions.map (·.name) = (scpd.actions.map (·.name)).eraseDups
  actions : ∀ ad ∈ d.actions, ∃ a, scpd.actions.reverse.find? (·.name == ad.name) = some a ∧
    ActionReflects scpd d.serviceType a ad
  evented : List.Forall₂ (fun sv f => f.name = sv.name ∧ f.stateVariable = sv ∧
    f.dataType.name = sv.dataType) scpd.eventedStateVariables d.evented

namespace ServiceDefinition

variable {scpd : Scpd} {serviceName controlPath eventPath : String} {serviceType : Option String}

theorem ofScpd_eq_ok_iff {d : ServiceDefinition} :
    ofScpd scpd serviceName controlPath eventPath serviceType = .ok d ↔
      ∃ ads evs, List.Forall₂ (fun a ad => Definition.action scpd (match serviceType with
          | some t => if t.isEmpty then serviceTypeOf serviceName else t
          | none => serviceTypeOf serviceName) a = .ok ad) scpd.actions ads ∧
        List.Forall₂ (fun sv f => Definition.field sv.name sv = .ok f)
          scpd.eventedStateVariables evs ∧
        d = ⟨serviceName, match serviceType with
          | some t => if t.isEmpty then serviceTypeOf serviceName else t
          | none => serviceTypeOf serviceName, controlPath, eventPath,
          ads.foldl Definition.putAction [], evs⟩ := by
  simp only [ofScpd, Except.bind_eq_ok]
  simp only [foldlM_put_eq_ok_iff]
  simp only [mapM_eq_ok_iff, pure, Except.pure, Except.ok.injEq]
  constructor
  · rintro ⟨_, ⟨ads, hads, rfl⟩, evs, hevs, rfl⟩
    exact ⟨ads, evs, hads, hevs, rfl⟩
  · rintro ⟨ads, evs, hads, hevs, rfl⟩
    exact ⟨_, ⟨ads, hads, rfl⟩, evs, hevs, rfl⟩

theorem exists_ofScpd_iff :
    (∃ d, ofScpd scpd serviceName controlPath eventPath serviceType = .ok d) ↔
      Synthesizable scpd := by
  constructor
  · rintro ⟨d, h⟩
    obtain ⟨ads, evs, hads, hevs, -⟩ := ofScpd_eq_ok_iff.mp h
    refine ⟨fun a ha => ?_, fun sv hsv => ?_⟩
    · obtain ⟨ad, -, had⟩ := exists_of_forall₂_of_mem hads ha
      exact Definition.exists_action_iff.mp ⟨ad, had⟩
    · obtain ⟨f, -, hf⟩ := exists_of_forall₂_of_mem hevs hsv
      exact ⟨f.dataType, (Definition.field_eq_ok_iff.mp hf).2.2⟩
  · intro hs
    -- the actions have definitions whatever the service type they are made for
    have hads : ∀ st, ∃ ads,
        List.Forall₂ (fun a ad => Definition.action scpd st a = .ok ad) scpd.actions ads :=
      fun st => exists_forall₂_of_forall fun a ha => Definition.exists_action_iff.mpr (hs.actions a ha)
    obtain ⟨evs, hevs⟩ := exists_forall₂_of_forall fun sv hsv =>
      let ⟨t, ht⟩ := hs.evented sv hsv
      ⟨⟨sv.name, sv, t⟩, Definition.field_eq_ok_iff.mpr ⟨rfl, rfl, ht⟩⟩
    exact (hads _).elim fun ads h => ⟨_, ofScpd_eq_ok_iff.mpr ⟨ads, evs, h, hevs, rfl⟩⟩

theorem ofScpd_reflects {d : ServiceDefinition}
    (h : ofScpd scpd serviceName controlPath eventPath serviceType = .ok d) :
    Reflects scpd serviceName controlPath eventPath serviceType d := by
  obtain ⟨ads, evs, hads, hevs, rfl⟩ := ofScpd_eq_ok_iff.mp h
  have hnames : ads.map (·.name) = scpd.actions.map (·.name) :=
    map_eq_map_of_forall₂ hads fun _ _ had => (Definition.action_reflects had).name.symm
  refine ⟨rfl, rfl, rfl, rfl, ?_, fun ad had => ?_, ?_⟩
  · show (ads.foldl Definition.putAction []).map (·.name) = _
    rw [Definition.putAction_eq_putBy, keys_foldl_putBy, hnames]
  · -- the definition kept under a name is the one of the last action of that name
    have hkept : ad ∈ ads.foldl (putBy (·.name)) [] := had
    obtain ⟨a, ha, hrel⟩ := exists_find?_of_forall₂ (List.forall₂_reverse_iff.mpr hads)
      (fun a ad' hr => by rw [(Definition.action_reflects hr).name])
      (find?_of_mem_foldl_putBy hkept)
    exact ⟨a, ha, Definition.action_reflects hrel⟩
  · exact hevs.imp fun _ _ hf => Definition.field_eq_ok_iff.mp hf

/-- Making a service definition from a description succeeds exactly when the description is
synthesizable, and what it makes reflects the description. -/
theorem ofScpd_reflects_or_fails (scpd : Scpd) (serviceName controlPath eventPath : String)
    (serviceType : Option String) :
    ((∃ d, ofScpd scpd serviceName controlPath eventPath serviceType = .ok d) ↔
        Synthesizable scpd) ∧
      ∀ d, ofScpd scpd serviceName controlPath eventPath serviceType = .ok d →
        Reflects scpd serviceName controlPath eventPath serviceType d :=
  ⟨exists_ofScpd_iff, fun _ => ofScpd_reflects⟩

end ServiceDefinition

/-- A description whose one action `Echo` takes the text arguments `ϐ` and `β`, whose
compatibility normal forms are both `β`. -/
def compatibleNamesScpd : Scpd :=
  ⟨⟨1, 0⟩, [⟨"V0", "string", false, false, none, none, []⟩,
      ⟨"V1", "string", false, false, none, none, []⟩],
    [⟨"Echo", [⟨"ϐ", .input, "V0"⟩, ⟨"β", .input, "V1"⟩]⟩]⟩

/-- Distinct usable argument names do not make an action synthesizable: `ϐ` and `β` are such
names, every other requirement holds, and still no definition is made. -/
theorem ofScpd_rejects_compatible_names :
    (∀ a ∈ compatibleNamesScpd.actions, (∀ arg ∈ a.arguments, Resolvable compatibleNamesScpd arg) ∧
      UsableName (a.name ++ "Args") ∧
      (∀ n ∈ a.inArguments.map (·.name) ++ ["xmlns"], UsableName n ∧ ¬ n.startsWith "_") ∧
      (a.inArguments.map (·.name) ++ ["xmlns"]).Nodup ∧
      (∀ n ∈ a.outArguments.map (·.name), UsableName n ∧ ¬ n.startsWith "_") ∧
      (a.outArguments.map (·.name)).Nodup) ∧
    (∀ sv ∈ compatibleNamesScpd.eventedStateVariables, ∃ t : DataType, t.name = sv.dataType) ∧
    ¬ ∃ d, ServiceDefinition.ofScpd compatibleNamesScpd "Echo" "/Control" "/Event" none = .ok d := by
  have hϐ : Text.Normalization.nfkc "ϐ" = "β" := by
    simp only [Text.Normalization.nfkc, Text.Normalization.decomposeOne_eq_scan]
    decide +kernel
  have hβ : Text.Normalization.nfkc "β" = "β" := by
    simp only [Text.Normalization.nfkc, Text.Normalization.decomposeOne_eq_scan]
    decide +kernel
  refine ⟨fun a ha => ?_, fun sv hsv => by simp [compatibleNamesScpd, Scpd.eventedStateVariables] at hsv, ?_⟩
  · simp only [compatibleNamesScpd, List.mem_singleton] at ha
    subst ha
    refine ⟨fun arg harg => ?_, by decide +kernel, by decide +kernel, by decide, by decide,
      by decide⟩
    simp only [List.mem_cons, List.not_mem_nil, or_false] at harg
    rcases harg with rfl | rfl
    · exact ⟨_, rfl, .string, rfl⟩
    · exact ⟨_, rfl, .string, rfl⟩
  · -- the normal forms of the request's field names repeat `β`
    rw [ServiceDefinition.exists_ofScpd_iff]
    intro hs
    have hnodup : [RecordType.recordParameter, Text.Normalization.nfkc "ϐ",
        Text.Normalization.nfkc "β", Text.Normalization.nfkc "xmlns"].Nodup :=
      (hs.actions _ List.mem_cons_self).inNames.2.2
    have hx : Text.Normalization.nfkc "xmlns" = "xmlns" := by decide
    rw [hϐ, hβ, hx] at hnodup
    exact absurd hnodup (by decide)

end UpnpBinding
