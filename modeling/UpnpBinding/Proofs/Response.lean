import UpnpBinding.Client.Binding
import UpnpBinding.Proofs.Keyed
import UpnpBinding.Proofs.Monadic
import UpnpBinding.Proofs.Synthesis
import Mathlib.Data.List.Nodup
/-!
Reading the response to an action call. The received text, stripped of spaces, tabs, line ends
and NUL at both ends, is read as a document; a text that cannot be read is refused as such. The
response element is the first child named `<action>Response` of the first `Body` child of the
`Envelope` that has one; without it the response is unexpected. Each out-field, in field order,
reads the text of the last child of the response element named after it: empty or missing text
is the empty text for text types and nothing for the others. The first field whose text cannot
be read refuses the response. The response record is then made from the fields the element
carries, matched by the names of its constructor's parameters: the compatibility normal forms of
the field names. A carried field whose name is no parameter's name is refused as a keyword; a
field whose name is in normal form holds its own value, and nothing when it is not carried.
-/
namespace UpnpBinding

namespace Xml.Element

/-- The text of the last child of `e` with local name `name`: none when there is no such child,
and `some none` when that child has no text. -/
def lastChildText? (e : Element) (name : String) : Option (Option String) :=
  (e.children.reverse.find? (·.tag.localName == name)).map (·.text)

end Xml.Element

namespace Soap

theorem elementValues_eq_foldl (el : Xml.Element) :
    elementValues el =
      (el.children.map fun c => (c.tag.localName, c.text)).foldl (putBy Prod.fst) [] := by
  rw [List.foldl_map]
  rfl

theorem elementValues_lookup (el : Xml.Element) (n : String) :
    ((elementValues el).find? (·.1 == n)).map Prod.snd = el.lastChildText? n := by
  rw [elementValues_eq_foldl, find?_foldl_putBy, ← List.map_reverse, List.find?_map, Option.map_map]
  rfl

/-- The element that the envelope `root` carries under `name`: `root` is an `Envelope`, and `el`
is the first child named `name` of the first `Body` child of `root` that has one. -/
def Carries (root : Xml.Element) (name : String) (el : Xml.Element) : Prop :=
  root.tag.localName = "Envelope" ∧
    ∃ pre body post, root.childrenNamed "Body" = pre ++ body :: post ∧
      (∀ b ∈ pre, ∀ c ∈ b.children, c.tag.localName ≠ name) ∧
      ∃ before after, body.children = before ++ el :: after ∧
        (∀ c ∈ before, c.tag.localName ≠ name) ∧ el.tag.localName = name

theorem firstNamed_eq_some_iff {cs : List Xml.Element} {name : String} {el : Xml.Element} :
    firstNamed cs name = some el ↔ ∃ before after, cs = before ++ el :: after ∧
      (∀ c ∈ before, c.tag.localName ≠ name) ∧ el.tag.localName = name := by
  unfold firstNamed
  rw [List.find?_eq_some_iff_append]
  constructor
  · rintro ⟨hel, before, after, rfl, hb⟩
    exact ⟨before, after, rfl, fun c hc => by simpa using hb c hc, by simpa using hel⟩
  · rintro ⟨before, after, rfl, hb, hel⟩
    exact ⟨by simpa using hel, before, after, rfl, fun c hc => by simpa using hb c hc⟩

theorem firstNamed_eq_none_iff {cs : List Xml.Element} {name : String} :
    firstNamed cs name = none ↔ ∀ c ∈ cs, c.tag.localName ≠ name := by
  simp [firstNamed]

theorem bodyElement?_eq_some_iff {root : Xml.Element} {name : String} {el : Xml.Element} :
    bodyElement? root name = some el ↔ Carries root name el := by
  unfold bodyElement? Carries
  by_cases henv : root.tag.localName = "Envelope"
  · simp only [henv, bne_self_eq_false, Bool.false_eq_true, if_false, true_and,
      List.findSome?_eq_some_iff, firstNamed_eq_some_iff, firstNamed_eq_none_iff]
    constructor
    · rintro ⟨pre, body, post, hsplit, hel, hpre⟩
      exact ⟨pre, body, post, hsplit, hpre, hel⟩
    · rintro ⟨pre, body, post, hsplit, hpre, hel⟩
      exact ⟨pre, body, post, hsplit, hel, hpre⟩
  · simp [henv]

theorem bodyElement?_eq_none_iff {root : Xml.Element} {name : String} :
    bodyElement? root name = none ↔ root.tag.localName ≠ "Envelope" ∨
      ∀ b ∈ root.childrenNamed "Body", ∀ c ∈ b.children, c.tag.localName ≠ name := by
  unfold bodyElement?
  by_cases henv : root.tag.localName = "Envelope"
  · simp only [henv, bne_self_eq_false, Bool.false_eq_true, if_false, ne_eq, not_true_eq_false,
      false_or, List.findSome?_eq_none_iff, firstNamed_eq_none_iff]
  · simp [henv]

end Soap

namespace RecordType

theorem instantiate_eq_error {r : RecordType} {kwargs : List (String × Value)} {k : String} :
    r.instantiate kwargs = .error k ↔
      ∃ v, kwargs.find? (fun kv => !r.parameters.contains kv.1) = some (k, v) := by
  unfold instantiate
  split
  · rename_i k' v' h
    rw [h]
    simp
  · rename_i h
    rw [h]
    simp

theorem instantiate_eq_ok {r : RecordType} {kwargs vs : List (String × Value)} :
    r.instantiate kwargs = .ok vs ↔ (∀ kv ∈ kwargs, kv.1 ∈ r.parameters) ∧
      vs = r.fields.map fun f => (f, ((Value.lookupIn kwargs (Text.Normalization.nfkc f)).orElse
        fun _ => Value.lookupIn r.defaults f).getD .none) := by
  unfold instantiate
  split
  · rename_i k v h
    simp only [reduceCtorEq, false_iff, not_and]
    intro named
    have refused := List.find?_some h
    simp only [Bool.not_eq_eq_eq_not, Bool.not_true] at refused
    exact absurd (named _ (List.mem_of_find?_eq_some h)) (by simpa using refused)
  · rename_i h
    rw [List.find?_eq_none] at h
    rw [Except.ok.injEq, eq_comm]
    constructor
    · rintro rfl
      exact ⟨fun kv hkv => by simpa using h kv hkv, rfl⟩
    · rintro ⟨-, rfl⟩
      rfl

end RecordType

/-- The response record of a bound action: named for the action's response, with one field per
out-field, in order, each defaulting to nothing. -/
def ResponseShape (a : ActionDefinition) : Prop :=
  a.response = ⟨a.name ++ "Response", a.outFields.map (·.name),
    a.outFields.map fun f => (f.name, .none)⟩

section Described

variable {scpd : Scpd} {name control event : String} {requested : Option String}
  {d : ServiceDefinition} {a : ActionDefinition}

theorem responseShape_of_ofScpd (h : ServiceDefinition.ofScpd scpd name control event requested = .ok d)
    (ha : a ∈ d.actions) : ResponseShape a := by
  obtain ⟨act, -, reflects⟩ := (ServiceDefinition.ofScpd_reflects h).actions a ha
  have hnames : a.outFields.map (·.name) = act.outArguments.map (·.name) :=
    Definition.fieldNames_of_forall₂ reflects.outFields
  have hdefaults : a.outFields.map (fun f => (f.name, Value.none)) =
      act.outArguments.map fun arg => (arg.name, .none) :=
    map_eq_map_of_forall₂ reflects.outFields fun _ _ hf => by rw [hf.1]
  rw [ResponseShape, reflects.response, reflects.name, hnames, hdefaults]

theorem outFieldNames_nodup_of_ofScpd
    (h : ServiceDefinition.ofScpd scpd name control event requested = .ok d)
    (ha : a ∈ d.actions) : (a.outFields.map (·.name)).Nodup := by
  obtain ⟨act, hfind, reflects⟩ := (ServiceDefinition.ofScpd_reflects h).actions a ha
  have hact : act ∈ scpd.actions := List.mem_reverse.mp (List.mem_of_find?_eq_some hfind)
  have hs := (ServiceDefinition.exists_ofScpd_iff.mp ⟨d, h⟩).actions act hact
  rw [Definition.fieldNames_of_forall₂ reflects.outFields]
  exact hs.outNames.2.1

end Described

section Reading

variable {el : Xml.Element}

def Readable (el : Xml.Element) (f : Field) : Prop :=
  ∀ t, el.lastChildText? f.name = some t → ∃ v, f.fromWire t = .ok v

/-- Reading the out-field `f` from the response element `el`: nothing when `el` carries no
text for it, its value when the text reads, and the refusal of the text otherwise. -/
def readOutField (el : Xml.Element) (f : Field) : Except CallError (Option (String × Value)) :=
  match el.lastChildText? f.name with
  | none => .ok none
  | some t =>
    match f.fromWire t with
    | .ok v => .ok (some (f.name, v))
    | .error _ => .error (.invalidResponseValue f.name t)

def carriedValue (el : Xml.Element) (f : Field) : Option (String × Value) :=
  (el.lastChildText? f.name).bind fun t => (f.fromWire t).toOption.map fun v => (f.name, v)

theorem readOutField_eq_error {f : Field} {e : CallError} (h : readOutField el f = .error e) :
    ∃ t w, el.lastChildText? f.name = some t ∧ f.fromWire t = .error w ∧
      e = .invalidResponseValue f.name t := by
  unfold readOutField at h
  split at h
  · cases h
  · rename_i t hl
    split at h
    · cases h
    · rename_i w hw
      cases h
      exact ⟨t, w, hl, hw, rfl⟩

theorem readable_of_readOutField_eq_ok {f : Field} {o : Option (String × Value)}
    (h : readOutField el f = .ok o) : Readable el f := by
  intro t ht
  cases hw : f.fromWire t with
  | ok v => exact ⟨v, rfl⟩
  | error w =>
    unfold readOutField at h
    simp [ht, hw] at h

theorem readOutField_of_readable {f : Field} (h : Readable el f) :
    readOutField el f = .ok (carriedValue el f) := by
  unfold readOutField carriedValue
  cases hl : el.lastChildText? f.name with
  | none => rfl
  | some t =>
    obtain ⟨v, hv⟩ := h t hl
    simp [hv, Except.toOption]

theorem carriedValue_eq_some {f : Field} {kv : String × Value} (h : carriedValue el f = some kv) :
    kv.1 = f.name ∧ ∃ t, el.lastChildText? f.name = some t ∧ f.fromWire t = .ok kv.2 := by
  unfold carriedValue at h
  obtain ⟨t, ht, hkv⟩ := Option.bind_eq_some_iff.mp h
  cases hw : f.fromWire t with
  | error w => simp [hw, Except.toOption] at hkv
  | ok v =>
    simp only [hw, Except.toOption, Option.map_some, Option.some.injEq] at hkv
    subst hkv
    exact ⟨rfl, t, ht, hw⟩

theorem carriedValue_of_present {f : Field} (h : Readable el f)
    (present : el.lastChildText? f.name ≠ none) : ∃ v, carriedValue el f = some (f.name, v) := by
  obtain ⟨t, ht⟩ := Option.ne_none_iff_exists'.mp present
  obtain ⟨v, hv⟩ := h t ht
  exact ⟨v, by simp [carriedValue, ht, hv, Except.toOption]⟩

theorem readable_of_filterMapM_readOutField {fs : List Field} {given : List (String × Value)}
    (h : fs.filterMapM (readOutField el) = .ok given) : ∀ f ∈ fs, Readable el f := by
  intro f hf
  cases hr : readOutField el f with
  | error e =>
    -- a text that does not read would have stopped the walk
    obtain ⟨e', he'⟩ := exists_filterMapM_eq_error hf hr
    rw [he'] at h
    cases h
  | ok o => exact readable_of_readOutField_eq_ok hr

theorem filterMapM_readOutField {fs : List Field} (readable : ∀ f ∈ fs, Readable el f) :
    fs.filterMapM (readOutField el) = .ok (fs.filterMap (carriedValue el)) := by
  rw [filterMapM_congr fun f hf => readOutField_of_readable (readable f hf)]
  exact filterMapM_eq_ok_of_forall fun f _ => ⟨_, rfl⟩

theorem lookupIn_carried_eq_some {fs : List Field} {k : String} {v : Value}
    (h : Value.lookupIn (fs.filterMap (carriedValue el)) k = some v) :
    ∃ f ∈ fs, f.name = k ∧ ∃ t, el.lastChildText? f.name = some t ∧ f.fromWire t = .ok v := by
  unfold Value.lookupIn at h
  obtain ⟨kv, hfind, rfl⟩ := Option.map_eq_some_iff.mp h
  have hkey : kv.1 = k := by simpa using List.find?_some hfind
  obtain ⟨f, hf, hcarried⟩ := List.mem_filterMap.mp (List.mem_of_find?_eq_some hfind)
  obtain ⟨hname, t, hl, hw⟩ := carriedValue_eq_some hcarried
  exact ⟨f, hf, hname.symm.trans hkey, t, hl, hw⟩

theorem lookupIn_carried_eq_none {fs : List Field} {k : String}
    (readable : ∀ f ∈ fs, Readable el f)
    (h : Value.lookupIn (fs.filterMap (carriedValue el)) k = none) :
    ∀ f ∈ fs, f.name = k → el.lastChildText? f.name = none := by
  intro f hf hname
  unfold Value.lookupIn at h
  rw [Option.map_eq_none_iff, List.find?_eq_none] at h
  by_contra present
  obtain ⟨v, hv⟩ := carriedValue_of_present (readable f hf) present
  exact h _ (List.mem_filterMap.mpr ⟨f, hf, hv⟩) (by simp [hname])

theorem instantiate_carried_eq_error {fs : List Field} {r : RecordType} {k : String}
    (readable : ∀ f ∈ fs, Readable el f)
    (h : r.instantiate (fs.filterMap (carriedValue el)) = .error k) :
    ∃ pre f post, fs = pre ++ f :: post ∧
      (∀ g ∈ pre, el.lastChildText? g.name ≠ none → g.name ∈ r.parameters) ∧
      el.lastChildText? f.name ≠ none ∧ f.name ∉ r.parameters ∧ k = f.name := by
  obtain ⟨v, hfind⟩ := RecordType.instantiate_eq_error.mp h
  rw [List.find?_filterMap, Option.bind_eq_some_iff] at hfind
  obtain ⟨f, hf, hcarried⟩ := hfind
  obtain ⟨hkey, t, hl, -⟩ := carriedValue_eq_some hcarried
  obtain ⟨hp, pre, post, hsplit, hpre⟩ := List.find?_eq_some_iff_append.mp hf
  refine ⟨pre, f, post, hsplit, fun g hg present => ?_, by simp [hl], ?_, hkey⟩
  · -- a field before `f` that is carried was not refused, so its name is a parameter
    have hgs : g ∈ fs := by
      rw [hsplit]
      exact List.mem_append_left _ hg
    obtain ⟨w, hw⟩ := carriedValue_of_present (readable g hgs) present
    simpa [hw] using hpre g hg
  · rw [hcarried] at hp
    simpa [← hkey] using hp

theorem names_of_instantiate_carried {fs : List Field} {r : RecordType}
    {vs : List (String × Value)} (readable : ∀ f ∈ fs, Readable el f)
    (h : r.instantiate (fs.filterMap (carriedValue el)) = .ok vs) :
    ∀ g ∈ fs, el.lastChildText? g.name ≠ none → g.name ∈ r.parameters := by
  intro g hg present
  obtain ⟨v, hv⟩ := carriedValue_of_present (readable g hg) present
  exact (RecordType.instantiate_eq_ok.mp h).1 _ (List.mem_filterMap.mpr ⟨g, hg, hv⟩)

end Reading

/-- The value that the field `g` of the response record takes from the response element `el`:
what the out-field named as `g`'s constructor parameter reads from its last child, or nothing
when `el` carries no such field. -/
def SlotValue (a : ActionDefinition) (el : Xml.Element) (g : Field) (v : Value) : Prop :=
  (∃ f ∈ a.outFields, f.name = Text.Normalization.nfkc g.name ∧
      ∃ t, el.lastChildText? f.name = some t ∧ f.fromWire t = .ok v) ∨
    (v = .none ∧ ∀ f ∈ a.outFields, f.name = Text.Normalization.nfkc g.name →
      el.lastChildText? f.name = none)

theorem slotValue_of_lookup {a : ActionDefinition} {el : Xml.Element} {g : Field}
    (readable : ∀ f ∈ a.outFields, Readable el f) :
    SlotValue a el g ((Value.lookupIn (a.outFields.filterMap (carriedValue el))
      (Text.Normalization.nfkc g.name)).getD .none) := by
  cases hl : Value.lookupIn (a.outFields.filterMap (carriedValue el))
      (Text.Normalization.nfkc g.name) with
  | some v => exact .inl (lookupIn_carried_eq_some hl)
  | none => exact .inr ⟨rfl, lookupIn_carried_eq_none readable hl⟩

theorem getD_lookupIn_defaults (fs : List Field) (k : String) :
    (Value.lookupIn (fs.map fun f => (f.name, Value.none)) k).getD .none = .none := by
  unfold Value.lookupIn
  cases h : (fs.map fun f => (f.name, Value.none)).find? (·.1 == k) with
  | none => rfl
  | some kv =>
    obtain ⟨f, -, rfl⟩ := List.mem_map.mp (List.mem_of_find?_eq_some h)
    rfl

theorem response_slots {a : ActionDefinition} {el : Xml.Element} (shape : ResponseShape a)
    (readable : ∀ f ∈ a.outFields, Readable el f) :
    List.Forall₂ (fun g r => r.1 = g.name ∧ SlotValue a el g r.2) a.outFields
      (a.response.fields.map fun f => (f,
        ((Value.lookupIn (a.outFields.filterMap (carriedValue el))
          (Text.Normalization.nfkc f)).orElse fun _ => Value.lookupIn a.response.defaults f).getD
            .none)) := by
  rw [shape]
  dsimp only
  rw [List.map_map, List.forall₂_map_right_iff, List.forall₂_same]
  intro g _
  dsimp only [Function.comp_apply]
  refine ⟨rfl, ?_⟩
  have hslot := slotValue_of_lookup (g := g) readable
  cases hl : Value.lookupIn (a.outFields.filterMap (carriedValue el))
      (Text.Normalization.nfkc g.name) with
  | some v =>
    rw [hl] at hslot
    exact hslot
  | none =>
    -- a field that no out-field gives takes its default, which is nothing
    have hdefault : ((none : Option Value).orElse fun _ =>
        Value.lookupIn (a.outFields.map fun f => (f.name, Value.none)) g.name).getD .none = .none :=
      getD_lookupIn_defaults a.outFields g.name
    rw [hl] at hslot
    rw [hdefault]
    exact hslot

inductive ResponseOutcome (b : Binding) (a : ActionDefinition) (text : String) :
    Except CallError (List (String × Value)) → Prop where
  | unreadable {e : Xml.ReadError} (refused : (Xml.Document.text text).read = .error e) :
      ResponseOutcome b a text (.error (.unreadableEnvelope (.unreadable e)))
  | unexpected {root : Xml.Element} (read : (Xml.Document.text text).read = .ok root)
      (missing : root.tag.localName ≠ "Envelope" ∨ ∀ body ∈ root.childrenNamed "Body",
        ∀ c ∈ body.children, c.tag.localName ≠ a.responseElement) :
      ResponseOutcome b a text (.error (.unexpectedResponse (Text.lower b.serviceName) a.name))
  | invalidValue {root el : Xml.Element} {pre post : List Field} {f : Field} {t : Option String}
      {e : WireError} (read : (Xml.Document.text text).read = .ok root)
      (carried : Soap.Carries root a.responseElement el) (split : a.outFields = pre ++ f :: post)
      (before : ∀ g ∈ pre, Readable el g) (last : el.lastChildText? f.name = some t)
      (fails : f.fromWire t = .error e) :
      ResponseOutcome b a text (.error (.invalidResponseValue f.name t))
  | unexpectedKeyword {root el : Xml.Element} {pre post : List Field} {f : Field}
      (read : (Xml.Document.text text).read = .ok root)
      (carried : Soap.Carries root a.responseElement el)
      (readable : ∀ g ∈ a.outFields, Readable el g) (split : a.outFields = pre ++ f :: post)
      (before : ∀ g ∈ pre, el.lastChildText? g.name ≠ none → g.name ∈ a.response.parameters)
      (present : el.lastChildText? f.name ≠ none) (unnamed : f.name ∉ a.response.parameters) :
      ResponseOutcome b a text (.error (.unexpectedField (a.name ++ "Response") f.name))
  | response {root el : Xml.Element} {rs : List (String × Value)}
      (read : (Xml.Document.text text).read = .ok root)
      (carried : Soap.Carries root a.responseElement el)
      (readable : ∀ g ∈ a.outFields, Readable el g)
      (named : ∀ g ∈ a.outFields, el.lastChildText? g.name ≠ none → g.name ∈ a.response.parameters)
      (fields : List.Forall₂ (fun g r => r.1 = g.name ∧ SlotValue a el g r.2) a.outFields rs) :
      ResponseOutcome b a text (.ok rs)

theorem responseValue_eq (a : ActionDefinition) (el : Xml.Element) :
    a.responseValue (Soap.elementValues el) = (do
      let given ← a.outFields.filterMapM (readOutField el)
      match a.response.instantiate given with
      | .ok vs => return vs
      | .error k => throw (.unexpectedField a.response.name k)) := by
  unfold ActionDefinition.responseValue
  congr 1
  apply filterMapM_congr
  intro f _
  have hlookup := Soap.elementValues_lookup el f.name
  unfold readOutField
  split
  · rename_i hnone
    rw [hnone, Option.map_none] at hlookup
    rw [← hlookup]
    rfl
  · rename_i t hsome
    rw [hsome, Option.map_some] at hlookup
    rw [← hlookup]
    rfl

theorem responseValue_of_refused {a : ActionDefinition} {el : Xml.Element} {e : CallError}
    (h : a.outFields.filterMapM (readOutField el) = .error e) :
    a.responseValue (Soap.elementValues el) = .error e := by
  rw [responseValue_eq, h]
  rfl

theorem responseValue_of_readings {a : ActionDefinition} {el : Xml.Element}
    {given : List (String × Value)} (h : a.outFields.filterMapM (readOutField el) = .ok given) :
    a.responseValue (Soap.elementValues el) =
      (a.response.instantiate given).mapError (.unexpectedField a.response.name) := by
  rw [responseValue_eq, h]
  simp only [bind, Except.bind]
  cases a.response.instantiate given <;> rfl

theorem parseResponse_of_found {b : Binding} {a : ActionDefinition} {body : Xml.Document}
    {el : Xml.Element} (h : Soap.findInEnvelope body a.responseElement = .ok (some el)) :
    b.parseResponse a body = a.responseValue (Soap.elementValues el) := by
  unfold Binding.parseResponse
  rw [h]

theorem responseValue_outcome {b : Binding} {a : ActionDefinition} {text : String}
    {root el : Xml.Element} (read : (Xml.Document.text text).read = .ok root)
    (carried : Soap.Carries root a.responseElement el) (shape : ResponseShape a) :
    ResponseOutcome b a text (a.responseValue (Soap.elementValues el)) := by
  cases hgiven : a.outFields.filterMapM (readOutField el) with
  | error e =>
    obtain ⟨pre, f, post, split, hpre, hf⟩ := filterMapM_eq_error_iff.mp hgiven
    obtain ⟨t, w, hl, hw, rfl⟩ := readOutField_eq_error hf
    have before : ∀ g ∈ pre, Readable el g := fun g hg => by
      obtain ⟨o, ho⟩ := hpre g hg
      exact readable_of_readOutField_eq_ok ho
    rw [responseValue_of_refused hgiven]
    exact .invalidValue read carried split before hl hw
  | ok given =>
    have readable := readable_of_filterMapM_readOutField hgiven
    cases (filterMapM_readOutField readable).symm.trans hgiven
    rw [responseValue_of_readings hgiven]
    cases hinst : a.response.instantiate (a.outFields.filterMap (carriedValue el)) with
    | error k =>
      obtain ⟨pre, f, post, split, before, present, unnamed, rfl⟩ :=
        instantiate_carried_eq_error readable hinst
      have hname : a.response.name = a.name ++ "Response" := by rw [shape]
      rw [hname]
      exact .unexpectedKeyword read carried readable split before present unnamed
    | ok vs =>
      obtain ⟨-, rfl⟩ := RecordType.instantiate_eq_ok.mp hinst
      exact .response read carried readable (names_of_instantiate_carried readable hinst)
        (response_slots shape readable)

/-- Every response to a bound action has exactly one of the outcomes above: the text of the
message, stripped at both ends, is refused as unreadable, holds no response element, refuses
the first out-field whose text does not read, refuses the first carried out-field that names no
parameter of the response constructor, or gives the response record. -/
theorem parseResponse_outcome (b : Binding) (a : ActionDefinition) (body : Xml.Document)
    (shape : ResponseShape a) :
    ResponseOutcome b a (Text.trimWhile Soap.isMessagePadding body.lenientText)
      (b.parseResponse a body) := by
  unfold Binding.parseResponse Soap.findInEnvelope
  dsimp only
  cases hread : (Xml.Document.text (Text.trimWhile Soap.isMessagePadding body.lenientText)).read with
  | error e => exact .unreadable hread
  | ok root =>
    dsimp only
    cases hel : Soap.bodyElement? root a.responseElement with
    | none => exact .unexpected hread (Soap.bodyElement?_eq_none_iff.mp hel)
    | some el => exact responseValue_outcome hread (Soap.bodyElement?_eq_some_iff.mp hel) shape

def compatibleField : Field := ⟨"ϐ", ⟨"V0", "string", false, false, none, none, []⟩, .string⟩

def compatibleEcho : ActionDefinition :=
  ⟨"Echo", [], [compatibleField],
    ⟨"EchoArgs", ["xmlns"], [("xmlns", .text "urn:schemas-upnp-org:service:Echo:1")]⟩,
    ⟨"EchoResponse", ["ϐ"], [("ϐ", .none)]⟩⟩

def compatibleResponse : Xml.Document :=
  .text "<Envelope><Body><EchoResponse><ϐ>v</ϐ></EchoResponse></Body></Envelope>"

theorem parseResponse_outcome_echo : ResponseShape compatibleEcho ∧
    ResponseOutcome default compatibleEcho
      (Text.trimWhile Soap.isMessagePadding compatibleResponse.lenientText)
      ((default : Binding).parseResponse compatibleEcho compatibleResponse) :=
  ⟨rfl, parseResponse_outcome _ _ _ rfl⟩

theorem nfkc_curled_beta : Text.Normalization.nfkc "ϐ" = "β" := by
  simp only [Text.Normalization.nfkc, Text.Normalization.decomposeOne_eq_scan]
  decide +kernel

/-- A field whose name is not in normal form is refused when it is carried: the response
constructor's parameter is named `β`, and the value comes under `ϐ`. -/
theorem parseResponse_refuses_compatible_name : ResponseShape compatibleEcho ∧
    (default : Binding).parseResponse compatibleEcho compatibleResponse =
      .error (.unexpectedField "EchoResponse" "ϐ") := by
  refine ⟨rfl, ?_⟩
  -- the envelope carries the response element, whose last child `ϐ` holds `v`
  have found : (((Soap.findInEnvelope compatibleResponse compatibleEcho.responseElement).toOption.bind
      id).bind (·.lastChildText? "ϐ")) = some (some "v") := by
    decide +kernel
  obtain ⟨el, hfind, hlast⟩ : ∃ el, Soap.findInEnvelope compatibleResponse
      compatibleEcho.responseElement = .ok (some el) ∧ el.lastChildText? "ϐ" = some (some "v") := by
    cases h : Soap.findInEnvelope compatibleResponse compatibleEcho.responseElement with
    | error e =>
      rw [h] at found
      cases found
    | ok o =>
      rw [h] at found
      cases o with
      | none => cases found
      | some el => exact ⟨el, rfl, found⟩
  have hread : readOutField el compatibleField = .ok (some ("ϐ", .text "v")) := by
    unfold readOutField
    rw [show compatibleField.name = "ϐ" from rfl, hlast]
    rfl
  have hgiven : compatibleEcho.outFields.filterMapM (readOutField el) =
      .ok [("ϐ", .text "v")] := by
    show [compatibleField].filterMapM (readOutField el) = _
    rw [List.filterMapM_cons, hread]
    rfl
  have hinst : compatibleEcho.response.instantiate [("ϐ", .text "v")] = .error "ϐ" := by
    have hparams : compatibleEcho.response.parameters = ["β"] := by
      show [Text.Normalization.nfkc "ϐ"] = ["β"]
      rw [nfkc_curled_beta]
    rw [RecordType.instantiate_eq_error, hparams]
    exact ⟨.text "v", rfl⟩
  rw [parseResponse_of_found hfind, responseValue_of_readings hgiven, hinst]
  rfl

end UpnpBinding
