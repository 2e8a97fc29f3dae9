import UpnpBinding.Proofs.RequestRoundTrip
/-!
The checks made before an action call is written, in the order they run; preparing the call
stops at the first that fails. A request value together with keyword values is refused. Keyword
values must name every in-field: the first in-field, in document order, that none names is
missing. Then the first keyword that names no parameter of the request record's constructor is
refused; the parameters are `xmlns` and the in-field names in compatibility normal form, so a
keyword spelling a field name that is not in that form is refused too. Then each in-field is
checked in document order, and the first whose attribute is absent, or whose value its data type
refuses, is named with that value. An integer too large for a double, given for a real type,
stops the checks there as well; with which error is left aside here. Last, the namespace: a
request whose `xmlns` is true but not a text cannot be written. Main statement:
`createRequest_outcome`.
-/
namespace UpnpBinding

/-- The request value made from a request value, given alone, or from keyword values that name
every in-field and only parameters of the request record's constructor. -/
inductive RequestMade (a : ActionDefinition) :
    Option (List (String × Value)) → List (String × Value) → RequestValue → Prop where
  | object {attrs : List (String × Value)} : RequestMade a (some attrs) [] (.object attrs)
  | record {kwargs vs : List (String × Value)}
      (named : ∀ f ∈ a.inFields, f.name ∈ kwargs.map Prod.fst)
      (made : a.request.instantiate kwargs = .ok vs) : RequestMade a none kwargs (.record vs)

def RequestValue.Accepts (r : RequestValue) (f : Field) : Prop :=
  ∃ v c, r.attribute? f.name = some v ∧ f.dataType.validate v = .ok c

/-- How the in-field `f` of a request value stops the checks: its attribute is absent, or its
value is refused; an integer too large for a double is refused with an error left aside. -/
inductive FieldRefusal (r : RequestValue) (f : Field) : CallError → Prop where
  | absent (attr : r.attribute? f.name = none) : FieldRefusal r f (.invalidValue f.name .none)
  | invalid {v : Value} (attr : r.attribute? f.name = some v)
      (refused : f.dataType.validate v = .error .invalid) : FieldRefusal r f (.invalidValue f.name v)
  | tooLarge {v : Value} {e : CallError} (attr : r.attribute? f.name = some v)
      (refused : f.dataType.validate v = .error .tooLargeForDouble) : FieldRefusal r f e

/-- The namespace a request value is written in: its `xmlns` when that is a text that is not
empty, the service type when `xmlns` is absent or false, and none when it is true but not a
text. -/
inductive NamespaceOf (r : RequestValue) (serviceType : String) : Except CallError String → Prop where
  | given {s : String} (attr : r.attribute? "xmlns" = some (.text s)) (nonempty : s ≠ "") :
      NamespaceOf r serviceType (.ok s)
  | fallback (unset : ∀ v, r.attribute? "xmlns" = some v → v.truthy = false) :
      NamespaceOf r serviceType (.ok serviceType)
  | notText {v : Value} (attr : r.attribute? "xmlns" = some v) (truthy : v.truthy = true)
      (other : ∀ s, v ≠ .text s) : NamespaceOf r serviceType (.error (.namespaceNotText v))

/-- How preparing a call of action `a` ends: at the first check that fails, or with the control
URL, the headers and the envelope. -/
inductive RequestOutcome (b : Binding) (a : ActionDefinition) (request : Option (List (String × Value)))
    (kwargs : List (String × Value)) :
    Except CallError (String × List (String × String) × String) → Prop where
  | mixed {attrs : List (String × Value)} (given : request = some attrs) (nonempty : kwargs ≠ []) :
      RequestOutcome b a request kwargs (.error .mixedRequest)
  | missing {pre post : List Field} {f : Field} (keywords : request = none)
      (split : a.inFields = pre ++ f :: post) (named : ∀ g ∈ pre, g.name ∈ kwargs.map Prod.fst)
      (unnamed : f.name ∉ kwargs.map Prod.fst) :
      RequestOutcome b a request kwargs (.error (.invalidValue f.name .none))
  | unexpected {pre post : List (String × Value)} {k : String} {v : Value} (keywords : request = none)
      (named : ∀ g ∈ a.inFields, g.name ∈ kwargs.map Prod.fst) (split : kwargs = pre ++ (k, v) :: post)
      (before : ∀ kv ∈ pre, kv.1 ∈ a.request.parameters) (stray : k ∉ a.request.parameters) :
      RequestOutcome b a request kwargs (.error (.unexpectedKeyword a.name a.request.name k))
  | refused {r : RequestValue} {pre post : List Field} {f : Field} {e : CallError}
      (made : RequestMade a request kwargs r) (split : a.inFields = pre ++ f :: post)
      (before : ∀ g ∈ pre, r.Accepts g) (fails : FieldRefusal r f e) :
      RequestOutcome b a request kwargs (.error e)
  | unwritable {r : RequestValue} {e : CallError} (made : RequestMade a request kwargs r)
      (accepted : ∀ g ∈ a.inFields, r.Accepts g) (ns : NamespaceOf r (b.serviceType) (.error e)) :
      RequestOutcome b a request kwargs (.error e)
  | written {r : RequestValue} {args : List (String × String)} {ns : String}
      (made : RequestMade a request kwargs r)
      (checked : List.Forall₂ (fun f w => ∃ v c, r.attribute? f.name = some v ∧
        f.dataType.validate v = .ok c ∧ w = (f.name, c.wireText)) a.inFields args)
      (space : NamespaceOf r (b.serviceType) (.ok ns)) :
      RequestOutcome b a request kwargs
        (.ok (b.controlUrl, Soap.headers b.serviceType a.name, Soap.envelope a.name ns args))

section Checks

variable {a : ActionDefinition} {request : Option (List (String × Value))}
  {kwargs : List (String × Value)}

theorem any_name_iff {kwargs : List (String × Value)} {n : String} :
    kwargs.any (·.1 == n) = true ↔ n ∈ kwargs.map Prod.fst := by
  rw [List.any_eq_true, List.mem_map]
  simp only [beq_iff_eq]

theorem requestMade_of_requestValue {r : RequestValue} (h : a.requestValue request kwargs = .ok r) :
    RequestMade a request kwargs r := by
  unfold ActionDefinition.requestValue at h
  cases request with
  | some attrs =>
    dsimp only at h
    split at h
    · rename_i hempty
      obtain rfl := List.isEmpty_iff.mp hempty
      cases h
      exact .object
    · cases h
  | none =>
    dsimp only at h
    split at h
    · cases h
    · rename_i hnone
      -- no in-field is left unnamed, and the record takes every keyword
      have named : ∀ f ∈ a.inFields, f.name ∈ kwargs.map Prod.fst := fun f hf => by
        rw [← any_name_iff]
        simpa using List.find?_eq_none.mp hnone f hf
      split at h
      · rename_i vs hvs
        cases h
        exact .record named hvs
      · cases h

theorem requestValue_outcome (b : Binding) {e : CallError}
    (h : a.requestValue request kwargs = .error e) : RequestOutcome b a request kwargs (.error e) := by
  unfold ActionDefinition.requestValue at h
  cases request with
  | some attrs =>
    dsimp only at h
    split at h
    · cases h
    · rename_i hfull
      cases h
      exact .mixed rfl fun hnil => hfull (by simp [hnil])
  | none =>
    dsimp only at h
    split at h
    · rename_i f hfirst
      cases h
      obtain ⟨hunnamed, pre, post, hsplit, hpre⟩ := List.find?_eq_some_iff_append.mp hfirst
      refine .missing rfl hsplit (fun g hg => ?_) fun hmem => ?_
      · rw [← any_name_iff]
        simpa using hpre g hg
      · rw [← any_name_iff] at hmem
        simp [hmem] at hunnamed
    · rename_i hnone
      have named : ∀ f ∈ a.inFields, f.name ∈ kwargs.map Prod.fst := fun f hf => by
        rw [← any_name_iff]
        simpa using List.find?_eq_none.mp hnone f hf
      split at h
      · cases h
      · rename_i k hk
        cases h
        -- the keyword refused is the first that names no parameter
        obtain ⟨v, hfind⟩ := RecordType.instantiate_eq_error.mp hk
        obtain ⟨hstray, pre, post, hsplit, hpre⟩ := List.find?_eq_some_iff_append.mp hfind
        refine .unexpected rfl named hsplit (fun kv hkv => ?_) ?_
        · simpa using hpre kv hkv
        · simpa using hstray

end Checks

section Arguments

variable {a : ActionDefinition} {r : RequestValue}

theorem arguments_eq_error {e : CallError} (h : a.arguments r = .error e) :
    ∃ pre f post, a.inFields = pre ++ f :: post ∧ (∀ g ∈ pre, r.Accepts g) ∧ FieldRefusal r f e := by
  unfold ActionDefinition.arguments at h
  obtain ⟨pre, f, post, hsplit, hpre, hf⟩ := mapM_eq_error_iff.mp h
  refine ⟨pre, f, post, hsplit, fun g hg => ?_, ?_⟩
  · obtain ⟨w, hw⟩ := hpre g hg
    split at hw
    · cases hw
    · rename_i v hv
      split at hw
      · rename_i c hc
        exact ⟨v, c, hv, hc⟩
      · cases hw
      · cases hw
  · split at hf
    · rename_i hnone
      cases hf
      exact .absent hnone
    · rename_i v hv
      split at hf
      · cases hf
      · rename_i hinvalid
        cases hf
        exact .invalid hv hinvalid
      · rename_i hlarge
        exact .tooLarge hv hlarge

end Arguments

theorem namespaceOr_spec (r : RequestValue) (serviceType : String) :
    NamespaceOf r serviceType (r.namespaceOr serviceType) := by
  unfold RequestValue.namespaceOr
  split
  · rename_i v hattr
    split
    · rename_i hfalse
      refine .fallback fun w hw => ?_
      rw [hattr, Option.some.injEq] at hw
      subst hw
      simpa using hfalse
    · rename_i htrue
      have htruthy : v.truthy = true := by simpa using htrue
      split
      · rename_i s
        exact .given hattr fun hs => by
          subst hs
          simp [Value.truthy] at htruthy
      · rename_i hother
        exact .notText hattr htruthy hother
  · rename_i hnone
    exact .fallback fun w hw => by
      rw [hnone] at hw
      cases hw

/-- Preparing a call ends at the first of its checks that fails, in the order they run, or with
the call written. -/
theorem createRequest_outcome (b : Binding) (a : ActionDefinition)
    (request : Option (List (String × Value))) (kwargs : List (String × Value)) :
    RequestOutcome b a request kwargs (b.createRequest a request kwargs) := by
  unfold Binding.createRequest
  cases hreq : a.requestValue request kwargs with
  | error e => exact requestValue_outcome b hreq
  | ok r =>
    have made := requestMade_of_requestValue hreq
    simp only [bind, Except.bind]
    cases hargs : a.arguments r with
    | error e =>
      obtain ⟨pre, f, post, hsplit, hpre, hf⟩ := arguments_eq_error hargs
      exact .refused made hsplit hpre hf
    | ok args =>
      have accepted : ∀ g ∈ a.inFields, r.Accepts g :=
        exists_arguments_iff.mp ⟨args, hargs⟩
      have hspace := namespaceOr_spec r b.serviceType
      cases hns : r.namespaceOr b.serviceType with
      | error e =>
        rw [hns] at hspace
        exact .unwritable made accepted hspace
      | ok ns =>
        rw [hns] at hspace
        exact .written made (arguments_eq_ok.mp hargs) hspace

/-- A request of `Echo` whose values pass their checks, but whose namespace is the number 5,
cannot be written. -/
theorem createRequest_refuses_numeric_namespace :
    (echoOf .string).inFields.map (·.name) = ["A"] ∧
      DataType.string.validate (.text "v") = .ok (.text "v") ∧
      (default : Binding).createRequest (echoOf .string) (some [("A", .text "v"), ("xmlns", .int 5)])
        [] = .error (.namespaceNotText (.int 5)) :=
  ⟨rfl, rfl, rfl⟩

end UpnpBinding
