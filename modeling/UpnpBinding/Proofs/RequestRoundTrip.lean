import UpnpBinding.Proofs.EnvelopeRead
import UpnpBinding.Proofs.Response
import Mathlib.Data.List.Forall2
/-!
Requests read from a call envelope and written again. Reading a call envelope gives the request
record with each in-field read from the text of the child named after it (an absent child as an
empty text), and the namespace of the call element, or the service type, as `xmlns`. Writing that
request again checks each in-field's value against its data type: it succeeds exactly when every
value is taken. What it writes then reads back as the same request, a NaN as a NaN, when the names
are XML names in compatibility normal form, the namespace can be declared and every text and URL
can be written.
-/
namespace UpnpBinding

/-- What making a definition from a description gives every request record: the in-fields and
then `xmlns`, all of distinct names, defaulting to the service type, which is never empty. -/
structure RequestShape (a : ActionDefinition) (serviceType : String) : Prop where
  request : a.request = ⟨a.name ++ "Args", a.inFields.map (·.name) ++ ["xmlns"],
    [("xmlns", .text serviceType)]⟩
  serviceType_ne : serviceType ≠ ""
  distinct : (a.inFields.map (·.name) ++ ["xmlns"]).Nodup

namespace RequestShape

variable {a : ActionDefinition} {st : String}

theorem names_nodup (shape : RequestShape a st) : (a.inFields.map (·.name)).Nodup :=
  (List.nodup_append.mp shape.distinct).1

theorem xmlns_not_mem (shape : RequestShape a st) : "xmlns" ∉ a.inFields.map (·.name) :=
  fun h => (List.nodup_append.mp shape.distinct).2.2 _ h _ List.mem_cons_self rfl

end RequestShape

section Described

variable {scpd : Scpd} {name control event : String} {requested : Option String}
  {d : ServiceDefinition} {a : ActionDefinition}

theorem serviceType_ne_of_ofScpd
    (h : ServiceDefinition.ofScpd scpd name control event requested = .ok d) :
    d.serviceType ≠ "" := by
  rw [(ServiceDefinition.ofScpd_reflects h).serviceType]
  have hof : serviceTypeOf name ≠ "" := by
    intro h
    unfold serviceTypeOf at h
    have hl : ("urn:schemas-upnp-org:service:" ++ name ++ ":1").toList = ("" : String).toList := by
      rw [h]
    rw [String.toList_append, String.toList_empty, List.append_eq_nil_iff] at hl
    exact absurd hl.2 (by decide)
  split
  · split
    · exact hof
    · rename_i t ht
      simpa using ht
  · exact hof

theorem requestShape_of_ofScpd
    (h : ServiceDefinition.ofScpd scpd name control event requested = .ok d)
    (ha : a ∈ d.actions) : RequestShape a d.serviceType := by
  obtain ⟨act, hfind, reflects⟩ := (ServiceDefinition.ofScpd_reflects h).actions a ha
  have hnames : a.inFields.map (·.name) = act.inArguments.map (·.name) :=
    Definition.fieldNames_of_forall₂ reflects.inFields
  have hact : act ∈ scpd.actions := List.mem_reverse.mp (List.mem_of_find?_eq_some hfind)
  have hs := (ServiceDefinition.exists_ofScpd_iff.mp ⟨d, h⟩).actions act hact
  refine ⟨?_, serviceType_ne_of_ofScpd h, ?_⟩
  · rw [reflects.request, reflects.name, hnames]
  · rw [hnames]
    exact hs.inNames.2.1

end Described

namespace Value

variable {l l' : List (String × Value)} {k : String}

theorem lookupIn_append_of_mem (hk : k ∈ l.map (·.1)) : lookupIn (l ++ l') k = lookupIn l k := by
  obtain ⟨e, he, rfl⟩ := List.mem_map.mp hk
  obtain ⟨e', he'⟩ : ∃ e', l.find? (·.1 == e.1) = some e' :=
    Option.isSome_iff_exists.mp (List.find?_isSome.mpr ⟨e, he, by simp⟩)
  simp [lookupIn, List.find?_append, he']

theorem lookupIn_append_of_not_mem (hk : k ∉ l.map (·.1)) :
    lookupIn (l ++ l') k = lookupIn l' k := by
  have hnone : l.find? (·.1 == k) = Option.none :=
    List.find?_eq_none.mpr fun e he hek => hk (List.mem_map.mpr ⟨e, he, by simpa using hek⟩)
  simp [lookupIn, List.find?_append, hnone]

theorem lookupIn_cons_self (v : Value) : lookupIn ((k, v) :: l) k = some v := by
  simp [lookupIn]

theorem lookupIn_cons_of_ne {k' : String} {v : Value} (h : k' ≠ k) :
    lookupIn ((k', v) :: l) k = lookupIn l k := by
  simp [lookupIn, h]

theorem map_lookupIn_of_nodup :
    ∀ {l : List (String × Value)}, (l.map (·.1)).Nodup →
      (l.map (·.1)).map (fun k => (k, (lookupIn l k).getD .none)) = l
  | [], _ => rfl
  | (k, v) :: l, hnd => by
    rw [List.map_cons, List.nodup_cons] at hnd
    have hk : k ∉ l.map (·.1) := hnd.1
    have htail : (l.map (·.1)).map (fun k' => (k', (lookupIn ((k, v) :: l) k').getD .none)) =
        (l.map (·.1)).map (fun k' => (k', (lookupIn l k').getD .none)) :=
      List.map_congr_left fun k' hk' => by
        rw [lookupIn_cons_of_ne (by rintro rfl; exact hk hk')]
    simp only [List.map_cons, lookupIn_cons_self, Option.getD_some, htail,
      map_lookupIn_of_nodup hnd.2]

end Value

section Related

variable {α β γ : Type}

theorem forall₂_of_common {R : α → β → Prop} {S : α → γ → Prop}
    {T : β → γ → Prop}
    (h : ∀ x y z, R x y → S x z → T y z) :
    ∀ {xs ys zs}, List.Forall₂ R xs ys → List.Forall₂ S xs zs → List.Forall₂ T ys zs
  | _, _, _, .nil, .nil => .nil
  | _, _, _, .cons hr hrs, .cons hs hss => .cons (h _ _ _ hr hs) (forall₂_of_common h hrs hss)

theorem exists_forall₂_of_forall₂ {R : α → β → Prop} {S : α → γ → Prop}
    {T : γ → β → Prop} (h : ∀ x y, R x y → ∃ z, S x z ∧ T z y) :
    ∀ {xs ys}, List.Forall₂ R xs ys →
      ∃ zs, List.Forall₂ S xs zs ∧ List.Forall₂ T zs ys
  | _, _, .nil => ⟨[], .nil, .nil⟩
  | _, _, .cons hr hrs =>
    let ⟨z, hs, ht⟩ := h _ _ hr
    let ⟨zs, hss, hts⟩ := exists_forall₂_of_forall₂ h hrs
    ⟨z :: zs, .cons hs hss, .cons ht hts⟩

theorem forall₂_and_mem {R : α → β → Prop} :
    ∀ {xs ys}, List.Forall₂ R xs ys → List.Forall₂ (fun x y => R x y ∧ y ∈ ys) xs ys
  | _, _, .nil => .nil
  | _, _, .cons hr hrs =>
    .cons ⟨hr, List.mem_cons_self⟩
      ((forall₂_and_mem hrs).imp fun _ _ h => ⟨h.1, List.mem_cons_of_mem _ h.2⟩)

end Related

theorem forall₂_lookupIn {P : Field → String × Value → Prop}
    (extra : List (String × Value)) :
    ∀ {fs : List Field} {given : List (String × Value)}, (fs.map (·.name)).Nodup →
      List.Forall₂ (fun f e => e.1 = f.name ∧ P f e) fs given →
      List.Forall₂ (fun f e => e.1 = f.name ∧
        Value.lookupIn (given ++ extra) f.name = some e.2 ∧ P f e) fs given
  | [], [], _, .nil => .nil
  | f :: fs, e :: given, hnd, .cons ⟨hname, hp⟩ hrest => by
    rw [List.map_cons, List.nodup_cons] at hnd
    have hne : ∀ g ∈ fs, g.name ≠ f.name := fun g hg h => hnd.1 (h ▸ List.mem_map_of_mem hg)
    refine .cons ⟨hname, by simp [Value.lookupIn, hname], hp⟩ ?_
    have hrest' := forall₂_lookupIn extra hnd.2 hrest
    refine ((List.forall₂_and_left _ _).mpr ⟨hne, hrest'⟩).imp ?_
    rintro g e' ⟨hgf, hname', hl, hp'⟩
    refine ⟨hname', ?_, hp'⟩
    rw [← hl]
    simp [Value.lookupIn, hname, Ne.symm hgf]

theorem envelope_head (action ns : String) (args : List (String × String)) :
    (Soap.envelope action ns args).toList.head? = some '<' := by
  unfold Soap.envelope
  simp only [String.append_assoc]
  rw [String.toList_append, List.head?_append_of_ne_nil _ (by decide)]
  rfl

theorem envelope_last (action ns : String) (args : List (String × String)) :
    (Soap.envelope action ns args).toList.getLast? = some '>' := by
  unfold Soap.envelope
  dsimp only
  rw [String.toList_append, List.getLast?_append_of_ne_nil _ (by decide)]
  rfl

theorem trimWhile_envelope (action ns : String) (args : List (String × String)) :
    Text.trimWhile Soap.isMessagePadding (Soap.envelope action ns args) =
      Soap.envelope action ns args :=
  Text.trimWhile_eq_self (by rw [envelope_head]; rintro c ⟨⟩; rfl)
    (by rw [envelope_last]; rintro c ⟨⟩; rfl)

theorem findInEnvelope_envelope_eq {action ns : String} {args : List (String × String)}
    (hact : Xml.IsNCName action.toList) (hns : ∀ c ∈ ns.toList, Xml.isDocumentChar c = true)
    (hf : Xml.bindingFault (some "u") ns = none) (hargs : ∀ x ∈ args, Soap.Writable x)
    (name : String) :
    Soap.findInEnvelope (.text (Soap.envelope action ns args)) name =
      .ok (if action = name then some (Soap.callElement action ns args) else none) := by
  unfold Soap.findInEnvelope
  simp only [Xml.Document.lenientText, trimWhile_envelope, Soap.read_envelope hact hns hf hargs]
  simp [Soap.bodyElement?, Soap.envelopeElement, Xml.Element.childrenNamed, Soap.firstNamed,
    Soap.callElement, List.find?_cons]
  by_cases h : action = name
  · simp [h]
  · rw [if_neg h, show (action == name) = false from beq_false_of_ne h]

theorem findInEnvelope_envelope {action ns : String} {args : List (String × String)}
    (hact : Xml.IsNCName action.toList) (hns : ∀ c ∈ ns.toList, Xml.isDocumentChar c = true)
    (hf : Xml.bindingFault (some "u") ns = none) (hargs : ∀ x ∈ args, Soap.Writable x) :
    Soap.findInEnvelope (.text (Soap.envelope action ns args)) action =
      .ok (some (Soap.callElement action ns args)) := by
  rw [findInEnvelope_envelope_eq hact hns hf hargs, if_pos rfl]

theorem lastChildText?_callElement {action ns : String} {args : List (String × String)}
    (hnd : (args.map (·.1)).Nodup) {w : String × String} (hw : w ∈ args) :
    (Soap.callElement action ns args).lastChildText? w.1 = some (Xml.textOf w.2) := by
  have hkeys : ((args.map Soap.argumentElement).reverse.map (·.tag.localName)) =
      (args.map (·.1)).reverse := by
    simp [Soap.argumentElement, Function.comp_def]
  have hfind : (args.map Soap.argumentElement).reverse.find?
      (fun e => e.tag.localName == (Soap.argumentElement w).tag.localName) =
        some (Soap.argumentElement w) :=
    find?_key_of_nodup (by rw [hkeys]; exact List.nodup_reverse.mpr hnd)
      (List.mem_reverse.mpr (List.mem_map_of_mem hw))
  simp only [Xml.Element.lastChildText?, Soap.callElement]
  rw [show w.1 = (Soap.argumentElement w).tag.localName from rfl, hfind]
  rfl

theorem bind_snd_elementValues {el : Xml.Element} {n : String} {t : Option String}
    (h : el.lastChildText? n = some t) :
    ((Soap.elementValues el).find? (·.1 == n)).bind Prod.snd = t := by
  have hlook := Soap.elementValues_lookup el n
  rw [h] at hlook
  obtain ⟨p, hp, rfl⟩ := Option.map_eq_some_iff.mp hlook
  rw [hp]
  rfl

/-- A namespace the call element can be declared in: not empty, free of the brace that ends a
qualified name, not one of the reserved namespaces, and of XML characters only. -/
def Soap.Declarable (ns : String) : Prop :=
  ns ≠ "" ∧ '\x7d' ∉ ns.toList ∧ ns ≠ Xml.xmlNamespace ∧ ns ≠ Xml.xmlnsNamespace ∧
    ∀ c ∈ ns.toList, Xml.isDocumentChar c = true

theorem Soap.bindingFault_of_declarable {ns : String} (h : Soap.Declarable ns) :
    Xml.bindingFault (some "u") ns = none :=
  Xml.bindingFault_prefixed (by decide) (by decide) h.1 h.2.1 h.2.2.1 h.2.2.2.1

section Reading

variable {a : ActionDefinition} {st : String}

theorem parameters_of_shape (shape : RequestShape a st)
    (normal : ∀ f ∈ a.inFields, Text.Normalization.nfkc f.name = f.name) :
    a.request.parameters = a.inFields.map (·.name) ++ ["xmlns"] := by
  have hx : Text.Normalization.nfkc "xmlns" = "xmlns" := by decide
  rw [RecordType.parameters, shape.request, List.map_append, List.map_map, List.map_singleton, hx]
  congr 1
  exact List.map_congr_left fun f hf => normal f hf

theorem instantiate_request (shape : RequestShape a st)
    (normal : ∀ f ∈ a.inFields, Text.Normalization.nfkc f.name = f.name)
    {given extra : List (String × Value)} (hkeys : given.map (·.1) = a.inFields.map (·.name))
    (hextra : ∀ kv ∈ extra, kv.1 = "xmlns") :
    a.request.instantiate (given ++ extra) =
      .ok (given ++ [("xmlns", (Value.lookupIn extra "xmlns").getD (.text st))]) := by
  have hparams := parameters_of_shape shape normal
  have hnodup : (given.map (·.1)).Nodup := hkeys ▸ shape.names_nodup
  have hxmlns : "xmlns" ∉ given.map (·.1) := hkeys ▸ shape.xmlns_not_mem
  refine RecordType.instantiate_eq_ok.mpr ⟨?_, ?_⟩
  · intro kv hkv
    rw [hparams, ← hkeys]
    rcases List.mem_append.mp hkv with h | h
    · exact List.mem_append_left _ (List.mem_map_of_mem h)
    · exact List.mem_append_right _ (by simp [hextra kv h])
  · rw [shape.request]
    dsimp only
    rw [← hkeys, List.map_append]
    congr 1
    · -- each in-field takes its own entry
      conv => lhs; rw [← Value.map_lookupIn_of_nodup hnodup]
      refine List.map_congr_left fun k hk => ?_
      have hnorm : Text.Normalization.nfkc k = k := by
        rw [hkeys] at hk
        obtain ⟨f, hf, rfl⟩ := List.mem_map.mp hk
        exact normal f hf
      have hsome : (Value.lookupIn given k).isSome := by
        obtain ⟨e, he, rfl⟩ := List.mem_map.mp hk
        simp only [Value.lookupIn, Option.isSome_map]
        exact List.find?_isSome.mpr ⟨e, he, by simp⟩
      obtain ⟨v, hv⟩ := Option.isSome_iff_exists.mp hsome
      rw [hnorm, Value.lookupIn_append_of_mem hk, hv]
      rfl
    · -- `xmlns` takes the extra entry, or its default
      have hx : Text.Normalization.nfkc "xmlns" = "xmlns" := by decide
      rw [List.map_singleton, hx, Value.lookupIn_append_of_not_mem hxmlns]
      cases Value.lookupIn extra "xmlns" <;> rfl

theorem requestFromValues_of_reads {values : List (String × Option String)} {ns : Option String}
    {given : List (String × Value)}
    (hread : List.Forall₂ (fun f e => e.1 = f.name ∧
      f.fromWire ((values.find? (·.1 == f.name)).bind Prod.snd) = .ok e.2) a.inFields given) :
    a.requestFromValues values ns =
      ((a.request.instantiate (given ++ (ns.filter (!·.isEmpty)).toList.map
        fun n => ("xmlns", .text n))).mapError (.unexpectedField a.request.name)).map .record := by
  unfold ActionDefinition.requestFromValues
  rw [mapM_eq_ok_iff.mpr (hread.imp fun f e ⟨hname, hv⟩ => ?_)]
  · simp only [bind, Except.bind]
    cases ns with
    | none =>
      simp only [Option.filter, Option.toList, List.map_nil, List.append_nil]
      cases a.request.instantiate given <;> rfl
    | some n =>
      by_cases hn : n.isEmpty = true
      · simp only [hn, if_true, Option.filter, Bool.not_true, Bool.false_eq_true, if_false,
          Option.toList, List.map_nil, List.append_nil]
        cases a.request.instantiate given <;> rfl
      · simp only [hn, Bool.false_eq_true, if_false, Option.filter, Bool.not_false, if_true,
          Option.toList, List.map_cons, List.map_nil]
        cases a.request.instantiate (given ++ [("xmlns", .text n)]) <;> rfl
  · dsimp only
    rw [hv]
    simp only [pure, Except.pure, ← hname]

theorem exists_reads_of_requestFromValues {values : List (String × Option String)}
    {ns : Option String} {r : RequestValue} (h : a.requestFromValues values ns = .ok r) :
    ∃ given : List (String × Value), List.Forall₂ (fun f e => e.1 = f.name ∧
      f.fromWire ((values.find? (·.1 == f.name)).bind Prod.snd) = .ok e.2) a.inFields given := by
  unfold ActionDefinition.requestFromValues at h
  simp only [bind, Except.bind] at h
  split at h
  · cases h
  · rename_i given heq
    refine ⟨given, (mapM_eq_ok_iff.mp heq).imp fun f e h => ?_⟩
    split at h
    · rename_i v hv
      cases h
      exact ⟨rfl, hv⟩
    · cases h

theorem lookupIn_namespaceEntry (o : Option String) :
    (Value.lookupIn (o.toList.map fun n => ("xmlns", Value.text n)) "xmlns").getD (.text st) =
      .text (o.getD st) := by
  cases o <;> simp [Value.lookupIn]

theorem requestFromValues_eq_ok (shape : RequestShape a st)
    (normal : ∀ f ∈ a.inFields, Text.Normalization.nfkc f.name = f.name)
    {values : List (String × Option String)} {ns : Option String} {r : RequestValue} :
    a.requestFromValues values ns = .ok r ↔
      ∃ given, List.Forall₂ (fun f e => e.1 = f.name ∧
          f.fromWire ((values.find? (·.1 == f.name)).bind Prod.snd) = .ok e.2) a.inFields given ∧
        r = .record (given ++ [("xmlns", .text ((ns.filter (!·.isEmpty)).getD st))]) := by
  -- the namespace, when there is one, is the only extra entry, under `xmlns`
  have hextra : ∀ kv ∈ (ns.filter (!·.isEmpty)).toList.map (fun n => ("xmlns", Value.text n)),
      kv.1 = "xmlns" := by
    intro kv hkv
    obtain ⟨n, -, rfl⟩ := List.mem_map.mp hkv
    rfl
  constructor
  · intro h
    obtain ⟨given, hread⟩ := exists_reads_of_requestFromValues h
    have hkeys := map_eq_map_of_forall₂ hread fun _ _ h => h.1.symm
    rw [requestFromValues_of_reads hread, instantiate_request shape normal hkeys hextra,
      lookupIn_namespaceEntry] at h
    exact ⟨given, hread, (Except.ok.inj h).symm⟩
  · rintro ⟨given, hread, rfl⟩
    have hkeys := map_eq_map_of_forall₂ hread fun _ _ h => h.1.symm
    rw [requestFromValues_of_reads hread, instantiate_request shape normal hkeys hextra,
      lookupIn_namespaceEntry]
    rfl

theorem namespace_getD_ne (hst : st ≠ "") (o : Option String) :
    (o.filter (!·.isEmpty)).getD st ≠ "" := by
  cases o with
  | none => exact hst
  | some n =>
    by_cases hn : n.isEmpty = true
    · simpa [Option.filter, hn] using hst
    · simp only [Option.filter, hn, Bool.not_false, if_true, Option.getD_some]
      simpa using hn

theorem parseRequest_of_found {body : Xml.Document} {el : Xml.Element}
    (h : Soap.findInEnvelope body a.name = .ok (some el)) :
    Binding.parseRequest a body =
      a.requestFromValues (Soap.elementValues el) (Soap.elementNamespace el) := by
  unfold Binding.parseRequest
  rw [h]

theorem parseRequest_eq_ok {body : Xml.Document} {r : RequestValue} :
    Binding.parseRequest a body = .ok r ↔
      ∃ el, Soap.findInEnvelope body a.name = .ok (some el) ∧
      a.requestFromValues (Soap.elementValues el) (Soap.elementNamespace el) = .ok r := by
  unfold Binding.parseRequest
  cases h : Soap.findInEnvelope body a.name with
  | error e => simp [throw, throwThe, MonadExceptOf.throw]
  | ok o =>
    cases o with
    | none => simp [throw, throwThe, MonadExceptOf.throw]
    | some el => simp

end Reading

section Writing

variable {a : ActionDefinition}

theorem arguments_eq_ok {req : RequestValue} {args : List (String × String)} :
    a.arguments req = .ok args ↔
      List.Forall₂ (fun f w => ∃ v c, req.attribute? f.name = some v ∧
        f.dataType.validate v = .ok c ∧ w = (f.name, c.wireText)) a.inFields args := by
  unfold ActionDefinition.arguments
  rw [mapM_eq_ok_iff]
  constructor
  · refine fun h => h.imp fun f w h => ?_
    split at h
    · cases h
    · rename_i v hv
      split at h
      · rename_i c hc
        cases h
        exact ⟨v, c, hv, hc, rfl⟩
      · cases h
      · cases h
  · refine fun h => h.imp fun f w ⟨v, c, hv, hc, hw⟩ => ?_
    rw [hv]
    dsimp only
    rw [hc, hw]

theorem exists_arguments_iff {req : RequestValue} :
    (∃ args, a.arguments req = .ok args) ↔
      ∀ f ∈ a.inFields, ∃ v c, req.attribute? f.name = some v ∧
        f.dataType.validate v = .ok c := by
  unfold ActionDefinition.arguments
  rw [exists_mapM_eq_ok_iff]
  refine forall₂_congr fun f _ =>
    ⟨fun ⟨w, h⟩ => ?_, fun ⟨v, c, hv, hc⟩ => ⟨(f.name, c.wireText), ?_⟩⟩
  · split at h
    · cases h
    · rename_i v hv
      split at h
      · rename_i c hc
        exact ⟨v, c, hv, hc⟩
      · cases h
      · cases h
  · rw [hv]
    dsimp only
    rw [hc]

theorem createRequest_eq_ok {b : Binding} {entries : List (String × Value)} {ns : String}
    (hns : Value.lookupIn entries "xmlns" = some (.text ns)) (hne : ns ≠ "")
    {out : String × List (String × String) × String} :
    b.createRequest a (some entries) [] = .ok out ↔ ∃ args,
      a.arguments (.object entries) = .ok args ∧
        out = (b.controlUrl, Soap.headers b.serviceType a.name, Soap.envelope a.name ns args) := by
  have htruthy : (Value.text ns).truthy = true := by simpa [Value.truthy] using hne
  have hspace : (RequestValue.object entries).namespaceOr b.serviceType = .ok ns := by
    simp [RequestValue.namespaceOr, RequestValue.attribute?, hns, htruthy]
  unfold Binding.createRequest
  simp only [ActionDefinition.requestValue, List.isEmpty_nil, if_true, bind, Except.bind]
  cases a.arguments (.object entries) with
  | error e => simp
  | ok args => simp [hspace, pure, Except.pure, eq_comm]

theorem createRequest_written {b : Binding} {request : Option (List (String × Value))}
    {kwargs : List (String × Value)} {out : String × List (String × String) × String}
    (h : b.createRequest a request kwargs = .ok out) :
    ∃ req ns args, a.requestValue request kwargs = .ok req ∧ a.arguments req = .ok args ∧
      req.namespaceOr b.serviceType = .ok ns ∧
        out = (b.controlUrl, Soap.headers b.serviceType a.name, Soap.envelope a.name ns args) := by
  unfold Binding.createRequest at h
  cases hreq : a.requestValue request kwargs with
  | error e => simp [hreq, bind, Except.bind] at h
  | ok req =>
    cases hargs : a.arguments req with
    | error e => simp [hreq, hargs, bind, Except.bind] at h
    | ok args =>
      cases hns : req.namespaceOr b.serviceType with
      | error e => simp [hreq, hargs, hns, bind, Except.bind] at h
      | ok ns =>
        simp only [hreq, hargs, hns, bind, Except.bind, pure, Except.pure, Except.ok.injEq] at h
        exact ⟨req, ns, args, rfl, hargs, hns, h.symm⟩

theorem arguments_checked {req : RequestValue} {args : List (String × String)}
    (h : a.arguments req = .ok args) :
    ∃ checked : List (String × Value), List.Forall₂ (fun f e => e.1 = f.name ∧
        ∃ v, req.attribute? f.name = some v ∧ f.dataType.validate v = .ok e.2)
          a.inFields checked ∧
      args = checked.map fun e => (e.1, e.2.wireText) := by
  obtain ⟨checked, hchecked, hwritten⟩ : ∃ checked : List (String × Value), List.Forall₂
      (fun f e => e.1 = f.name ∧ ∃ v, req.attribute? f.name = some v ∧
        f.dataType.validate v = .ok e.2) a.inFields checked ∧
      List.Forall₂ (fun (e : String × Value) w => w = (e.1, e.2.wireText)) checked args :=
    exists_forall₂_of_forall₂
      (fun f w ⟨v, c, hv, hc, hw⟩ => ⟨(f.name, c), ⟨rfl, v, hv, hc⟩, hw⟩)
      (arguments_eq_ok.mp h)
  refine ⟨checked, hchecked, ?_⟩
  simpa using map_eq_map_of_forall₂ (f := id) hwritten fun _ _ h => h.symm

end Writing

/-- A request value that can be written and read back: its namespace can be declared and the
value of each in-field can be written. -/
def RequestValue.Resendable (r : RequestValue) (a : ActionDefinition) : Prop :=
  (∀ ns, r.attribute? "xmlns" = some (.text ns) → Soap.Declarable ns) ∧
    ∀ f ∈ a.inFields, ∀ v, r.attribute? f.name = some v → v.WireSafe

/-- Two request records with the same fields in the same order and the same values, a NaN
matching any NaN. -/
def RequestValue.SameAs (r r' : RequestValue) : Prop :=
  ∃ vs vs', r = .record vs ∧ r' = .record vs' ∧
    List.Forall₂ (fun e e' => e.1 = e'.1 ∧ e.2.SameOrNaN e'.2) vs vs'

section Resending

variable {a : ActionDefinition} {st : String}

theorem parseRequest_envelope (shape : RequestShape a st)
    (names : ∀ f ∈ a.inFields,
      Xml.IsNCName f.name.toList ∧ Text.Normalization.nfkc f.name = f.name)
    (hact : Xml.IsNCName a.name.toList) {ns : String} (hns : Soap.Declarable ns)
    {given : List (String × Value)}
    (hgiven : List.Forall₂ (fun f e => e.1 = f.name ∧ f.dataType.validate e.2 = .ok e.2 ∧
      e.2.WireSafe) a.inFields given) :
    ∃ given', Binding.parseRequest a
        (.text (Soap.envelope a.name ns (given.map fun e => (e.1, e.2.wireText)))) =
          .ok (.record (given' ++ [("xmlns", .text ns)])) ∧
      List.Forall₂ (fun e' e => e'.1 = e.1 ∧ e'.2.SameOrNaN e.2) given' given := by
  have normal : ∀ f ∈ a.inFields, Text.Normalization.nfkc f.name = f.name :=
    fun f hf => (names f hf).2
  have hkeys : given.map (·.1) = a.inFields.map (·.name) :=
    map_eq_map_of_forall₂ hgiven fun _ _ h => h.1.symm
  have hnd : ((given.map fun e => (e.1, e.2.wireText)).map (·.1)).Nodup := by
    rw [List.map_map]
    exact hkeys ▸ shape.names_nodup
  have hwritable : ∀ x ∈ given.map (fun e => (e.1, e.2.wireText)), Soap.Writable x := by
    intro x hx
    obtain ⟨e, he, rfl⟩ := List.mem_map.mp hx
    obtain ⟨f, hf, hname, hval, hsafe⟩ := exists_of_forall₂_of_mem_right hgiven he
    exact ⟨hname ▸ (names f hf).1, DataType.wireText_documentChars hval hsafe⟩
  have hfind := findInEnvelope_envelope hact hns.2.2.2.2 (Soap.bindingFault_of_declarable hns)
    hwritable
  -- each in-field reads back, from the text written for its entry, a value the same as it
  have hback : ∀ (f : Field) (e : String × Value),
      (e.1 = f.name ∧ f.dataType.validate e.2 = .ok e.2 ∧ e.2.WireSafe) ∧ e ∈ given →
        ∃ e' : String × Value, (e'.1 = f.name ∧
          f.fromWire (((Soap.elementValues (Soap.callElement a.name ns
            (given.map fun e => (e.1, e.2.wireText)))).find? (·.1 == f.name)).bind Prod.snd) =
              .ok e'.2) ∧ e'.1 = e.1 ∧ e'.2.SameOrNaN e.2 := by
    rintro f e ⟨⟨hname, hval, hsafe⟩, he⟩
    obtain ⟨v', hv', hsame⟩ := DataType.fromWireOptional_wireText hval hsafe
    have hlast : (Soap.callElement a.name ns _).lastChildText? e.1 =
        some (Xml.textOf e.2.wireText) :=
      lastChildText?_callElement hnd (List.mem_map_of_mem he)
    have htext := bind_snd_elementValues hlast
    rw [hname] at htext
    refine ⟨(f.name, v'), ⟨rfl, ?_⟩, hname.symm, hsame⟩
    rw [Field.fromWire, htext]
    exact hv'
  obtain ⟨given', hread, hsame⟩ :=
    exists_forall₂_of_forall₂ hback (forall₂_and_mem hgiven)
  refine ⟨given', parseRequest_eq_ok.mpr ⟨_, hfind,
    (requestFromValues_eq_ok shape normal).mpr ⟨given', hread, ?_⟩⟩, hsame⟩
  simp [Soap.elementNamespace, Soap.callElement, Option.filter, hns.1]

/-- A request written is read back from the envelope as the record of the checked in-field
values, a NaN as a NaN, and the namespace written, when that namespace can be declared and every
checked text and URL can be written. -/
theorem parseRequest_of_createRequest (shape : RequestShape a st)
    (names : ∀ f ∈ a.inFields,
      Xml.IsNCName f.name.toList ∧ Text.Normalization.nfkc f.name = f.name)
    (hact : Xml.IsNCName a.name.toList) {b : Binding} {request : Option (List (String × Value))}
    {kwargs : List (String × Value)} {out : String × List (String × String) × String}
    (h : b.createRequest a request kwargs = .ok out) :
    ∃ (req : RequestValue) (ns : String) (checked : List (String × Value)),
      a.requestValue request kwargs = .ok req ∧
      req.namespaceOr b.serviceType = .ok ns ∧
      List.Forall₂ (fun f e => e.1 = f.name ∧ ∃ v, req.attribute? f.name = some v ∧
        f.dataType.validate v = .ok e.2) a.inFields checked ∧
      (Soap.Declarable ns → (∀ e ∈ checked, e.2.WireSafe) →
        ∃ r, Binding.parseRequest a (.text out.2.2) = .ok r ∧
          r.SameAs (.record (checked ++ [("xmlns", .text ns)]))) := by
  obtain ⟨req, ns, args, hreq, hargs, hns, rfl⟩ := createRequest_written h
  obtain ⟨checked, hchecked, rfl⟩ := arguments_checked hargs
  refine ⟨req, ns, checked, hreq, hns, hchecked, fun hdecl hsafe => ?_⟩
  -- a checked value passes its check again as it is
  have hgiven : List.Forall₂ (fun f e => e.1 = f.name ∧ f.dataType.validate e.2 = .ok e.2 ∧
      e.2.WireSafe) a.inFields checked :=
    (forall₂_and_mem hchecked).imp fun _ e ⟨⟨hname, _, _, hv⟩, he⟩ =>
      ⟨hname, DataType.validate_checked hv, hsafe e he⟩
  obtain ⟨given', hback, hsame⟩ := parseRequest_envelope shape names hact hdecl hgiven
  exact ⟨_, hback, _, _, rfl, rfl, List.rel_append hsame (.cons ⟨rfl, .inl rfl⟩ .nil)⟩

theorem createRequest_record (shape : RequestShape a st)
    (names : ∀ f ∈ a.inFields,
      Xml.IsNCName f.name.toList ∧ Text.Normalization.nfkc f.name = f.name)
    (hact : Xml.IsNCName a.name.toList) {given : List (String × Value)}
    (hread : List.Forall₂ (fun f e => e.1 = f.name ∧
      ∃ t, f.dataType.fromWireOptional t = .ok e.2) a.inFields given)
    {ns : String} (hne : ns ≠ "") (b : Binding) :
    let r := RequestValue.record (given ++ [("xmlns", .text ns)])
    ((∃ out, b.createRequest a (some r.entries) [] = .ok out) ↔
        ∀ f ∈ a.inFields, ∃ v c, r.attribute? f.name = some v ∧
          f.dataType.validate v = .ok c) ∧
      ∀ out, b.createRequest a (some r.entries) [] = .ok out → r.Resendable a →
        ∃ r', Binding.parseRequest a (.text out.2.2) = .ok r' ∧ r'.SameAs r := by
  intro r
  have hkeys : given.map (·.1) = a.inFields.map (·.name) :=
    map_eq_map_of_forall₂ hread fun _ _ h => h.1.symm
  have hxmlns : Value.lookupIn r.entries "xmlns" = some (.text ns) := by
    rw [show r.entries = given ++ [("xmlns", .text ns)] from rfl,
      Value.lookupIn_append_of_not_mem (hkeys ▸ shape.xmlns_not_mem), Value.lookupIn_cons_self]
  refine ⟨⟨fun ⟨out, h⟩ => ?_, fun h => ?_⟩, fun out h hres => ?_⟩
  · obtain ⟨args, hargs, -⟩ := (createRequest_eq_ok hxmlns hne).mp h
    exact exists_arguments_iff.mp ⟨args, hargs⟩
  · obtain ⟨args, hargs⟩ := exists_arguments_iff.mpr h
    exact ⟨_, (createRequest_eq_ok hxmlns hne).mpr ⟨args, hargs, rfl⟩⟩
  obtain ⟨args, hargs, rfl⟩ := (createRequest_eq_ok hxmlns hne).mp h
  have hentry := forall₂_lookupIn [("xmlns", .text ns)] shape.names_nodup hread
  -- the value checked for each in-field is its entry, which its data type takes as it is
  have hgiven : List.Forall₂ (fun f e => e.1 = f.name ∧ f.dataType.validate e.2 = .ok e.2 ∧
      e.2.WireSafe) a.inFields given := by
    have htaken := exists_arguments_iff.mp ⟨args, hargs⟩
    have hall : ∀ f ∈ a.inFields, (∃ v c, r.attribute? f.name = some v ∧
        f.dataType.validate v = .ok c) ∧ ∀ v, r.attribute? f.name = some v → v.WireSafe :=
      fun f hf => ⟨htaken f hf, hres.2 f hf⟩
    refine ((List.forall₂_and_left _ _).mpr ⟨hall, hentry⟩).imp ?_
    rintro f e ⟨⟨⟨v, c, hv, hc⟩, hsafe⟩, hname, hl, t, ht⟩
    obtain rfl : e.2 = v := Option.some.inj (hl.symm.trans hv)
    rw [DataType.validate_of_fromWireOptional ht hc] at hc
    exact ⟨hname, hc, hsafe e.2 hl⟩
  -- and the argument written for it is its name and the wire text of its entry
  have hargs' : List.Forall₂ (fun w e => w = (e.1, e.2.wireText)) args given := by
    refine forall₂_of_common (fun f w e ⟨v, c, hv, hc, hw⟩ ⟨hname, hl, t, ht⟩ => ?_)
      (arguments_eq_ok.mp hargs) hentry
    obtain rfl : e.2 = v := Option.some.inj (hl.symm.trans hv)
    rw [hw, DataType.validate_of_fromWireOptional ht hc, hname]
  have hmap : args = given.map fun e => (e.1, e.2.wireText) := by
    simpa using (map_eq_map_of_forall₂ (g := id) hargs' fun _ _ h => h).symm
  subst hmap
  obtain ⟨given', hback, hsame⟩ :=
    parseRequest_envelope shape names hact (hres.1 ns hxmlns) hgiven
  exact ⟨_, hback, _, _, rfl, rfl, List.rel_append hsame (.cons ⟨rfl, .inl rfl⟩ .nil)⟩

/-- A request read from any call envelope is written again exactly when every in-field value is
taken by its data type; what it writes, when the request can be resent, reads back as the same
request. -/
theorem createRequest_of_parseRequest (shape : RequestShape a st)
    (names : ∀ f ∈ a.inFields,
      Xml.IsNCName f.name.toList ∧ Text.Normalization.nfkc f.name = f.name)
    (hact : Xml.IsNCName a.name.toList) {body : Xml.Document} {r : RequestValue}
    (hr : Binding.parseRequest a body = .ok r) (b : Binding) :
    ((∃ out, b.createRequest a (some r.entries) [] = .ok out) ↔
        ∀ f ∈ a.inFields, ∃ v c, r.attribute? f.name = some v ∧
          f.dataType.validate v = .ok c) ∧
      ∀ out, b.createRequest a (some r.entries) [] = .ok out → r.Resendable a →
        ∃ r', Binding.parseRequest a (.text out.2.2) = .ok r' ∧ r'.SameAs r := by
  obtain ⟨el, -, hvals⟩ := parseRequest_eq_ok.mp hr
  obtain ⟨given, hread, rfl⟩ :=
    (requestFromValues_eq_ok shape fun f hf => (names f hf).2).mp hvals
  exact createRequest_record shape names hact (hread.imp fun _ _ h => ⟨h.1, _, h.2⟩)
    (namespace_getD_ne shape.serviceType_ne _) b

end Resending

def echoType : String := "urn:schemas-upnp-org:service:Echo:1"

def echoOf (t : DataType) : ActionDefinition :=
  ⟨"Echo", [⟨"A", ⟨"V0", "string", false, false, none, none, []⟩, t⟩], [],
    ⟨"EchoArgs", ["A", "xmlns"], [("xmlns", .text echoType)]⟩, ⟨"EchoResponse", [], []⟩⟩

theorem isNCName_echo : Xml.IsNCName "Echo".toList := Xml.IsNCName.of_all rfl rfl

theorem isNCName_A : Xml.IsNCName "A".toList := Xml.IsNCName.of_all rfl rfl

theorem echo_shape (t : DataType) : RequestShape (echoOf t) echoType :=
  ⟨rfl, by decide, show (["A"] ++ ["xmlns"]).Nodup by decide⟩

theorem echo_names (t : DataType) : ∀ f ∈ (echoOf t).inFields,
    Xml.IsNCName f.name.toList ∧ Text.Normalization.nfkc f.name = f.name := by
  intro f hf
  simp only [echoOf, List.mem_singleton] at hf
  subst hf
  exact ⟨isNCName_A, show Text.Normalization.nfkc "A" = "A" by decide⟩

theorem echoType_declarable : Soap.Declarable echoType :=
  ⟨by decide, by decide, by decide, by decide, List.all_eq_true.mp rfl⟩

theorem findInEnvelope_echo {args : List (String × String)}
    (hargs : ∀ x ∈ args, Soap.Writable x) :
    Soap.findInEnvelope (.text (Soap.envelope "Echo" echoType args)) "Echo" =
      .ok (some (Soap.callElement "Echo" echoType args)) :=
  findInEnvelope_envelope isNCName_echo echoType_declarable.2.2.2.2
    (Soap.bindingFault_of_declarable echoType_declarable) hargs

theorem parseRequest_echo (t : DataType) {w : String}
    (hw : ∀ c ∈ w.toList, Xml.isDocumentChar c = true) {v : Value}
    (hv : t.fromWireOptional (Xml.textOf w) = .ok v) :
    Binding.parseRequest (echoOf t) (.text (Soap.envelope "Echo" echoType [("A", w)])) =
      .ok (.record [("A", v), ("xmlns", .text echoType)]) := by
  have hwritable : ∀ x ∈ [("A", w)], Soap.Writable x := by
    intro x hx
    rw [List.mem_singleton] at hx
    subst hx
    exact ⟨isNCName_A, hw⟩
  have hfind := findInEnvelope_echo hwritable
  have hlast : (Soap.callElement "Echo" echoType [("A", w)]).lastChildText? "A" =
      some (Xml.textOf w) :=
    lastChildText?_callElement (by simp) List.mem_cons_self
  refine parseRequest_eq_ok.mpr ⟨_, hfind,
    (requestFromValues_eq_ok (echo_shape t) fun f hf => (echo_names t f hf).2).mpr
      ⟨[("A", v)], .cons ⟨rfl, ?_⟩ .nil, ?_⟩⟩
  · rw [Field.fromWire, bind_snd_elementValues hlast]
    exact hv
  · simp [Soap.elementNamespace, Soap.callElement, Option.filter, echoType_declarable.1]

theorem text_x_wireSafe : (Value.text "x").WireSafe :=
  ⟨fun s hs => by cases hs; exact List.all_eq_true.mp rfl, fun u hu => by cases hu⟩

theorem echo_request_resends :
    Binding.parseRequest (echoOf .string) (.text (Soap.envelope "Echo" echoType [("A", "x")])) =
        .ok (.record [("A", .text "x"), ("xmlns", .text echoType)]) ∧
      ∃ out, (default : Binding).createRequest (echoOf .string)
          (some [("A", .text "x"), ("xmlns", .text echoType)]) [] = .ok out ∧
        ∃ r', Binding.parseRequest (echoOf .string) (.text out.2.2) = .ok r' ∧
          r'.SameAs (.record [("A", .text "x"), ("xmlns", .text echoType)]) := by
  have hr := parseRequest_echo .string (w := "x") (List.all_eq_true.mp rfl) rfl
  obtain ⟨hiff, hback⟩ := createRequest_of_parseRequest (echo_shape .string)
    (echo_names .string) isNCName_echo hr default
  have htaken : ∀ f ∈ (echoOf .string).inFields, ∃ v c,
      (RequestValue.record [("A", .text "x"), ("xmlns", .text echoType)]).attribute? f.name =
        some v ∧ f.dataType.validate v = .ok c := by
    intro f hf
    simp only [echoOf, List.mem_singleton] at hf
    subst hf
    exact ⟨.text "x", .text "x", rfl, rfl⟩
  have hres : (RequestValue.record [("A", .text "x"), ("xmlns", .text echoType)]).Resendable
      (echoOf .string) := by
    refine ⟨fun ns hns => ?_, fun f hf v hv => ?_⟩
    · cases hns
      exact echoType_declarable
    · simp only [echoOf, List.mem_singleton] at hf
      subst hf
      cases hv
      exact text_x_wireSafe
  obtain ⟨out, hout⟩ := hiff.mpr htaken
  exact ⟨hr, out, hout, hback out hout hres⟩

/-- An empty `char` argument is read as the empty text, which writing the request refuses: the
type takes exactly one character. -/
theorem createRequest_refuses_empty_char :
    Binding.parseRequest (echoOf .char) (.text (Soap.envelope "Echo" echoType [("A", "")])) =
        .ok (.record [("A", .text ""), ("xmlns", .text echoType)]) ∧
      (default : Binding).createRequest (echoOf .char)
          (some [("A", .text ""), ("xmlns", .text echoType)]) [] =
        .error (.invalidValue "A" (.text "")) :=
  ⟨parseRequest_echo .char (by simp) rfl, rfl⟩

theorem echo_request_round_trip :
    (default : Binding).createRequest (echoOf .string)
        (some [("A", .text "x"), ("xmlns", .text echoType)]) [] =
      .ok ((default : Binding).controlUrl, Soap.headers (default : Binding).serviceType "Echo",
        Soap.envelope "Echo" echoType [("A", "x")]) ∧
    ∃ r, Binding.parseRequest (echoOf .string)
        (.text (Soap.envelope "Echo" echoType [("A", "x")])) = .ok r ∧
      r.SameAs (.record [("A", .text "x"), ("xmlns", .text echoType)]) := by
  have h : (default : Binding).createRequest (echoOf .string)
      (some [("A", .text "x"), ("xmlns", .text echoType)]) [] =
        .ok ((default : Binding).controlUrl, Soap.headers (default : Binding).serviceType "Echo",
          Soap.envelope "Echo" echoType [("A", "x")]) := rfl
  obtain ⟨req, ns, checked, hreq, hns, hchecked, hback⟩ :=
    parseRequest_of_createRequest (echo_shape .string) (echo_names .string) isNCName_echo h
  obtain rfl : req = .object [("A", .text "x"), ("xmlns", .text echoType)] :=
    (Except.ok.inj hreq).symm
  obtain rfl : ns = echoType := (Except.ok.inj hns).symm
  -- the one in-field is checked as the text itself
  obtain rfl : checked = [("A", .text "x")] := by
    cases hchecked with
    | cons hhead hrest =>
      cases hrest
      obtain ⟨hname, v, hv, hc⟩ := hhead
      cases hv
      exact congrArg (· :: []) (Prod.ext hname (Except.ok.inj hc).symm)
  refine ⟨h, hback echoType_declarable ?_⟩
  intro e he
  rw [List.mem_singleton] at he
  subst he
  exact text_x_wireSafe

theorem isNCName_curled_beta : Xml.IsNCName "ϐ".toList := by
  rw [show "ϐ".toList = ['ϐ'] by decide]
  exact Xml.IsNCName.of_all (by decide +kernel) rfl

/-- The action `Echo` with one text in-argument `ϐ`, whose parameter in the request
constructor is `β`. -/
def compatibleRequestEcho : ActionDefinition :=
  ⟨"Echo", [compatibleField], [],
    ⟨"EchoArgs", ["ϐ", "xmlns"], [("xmlns", .text echoType)]⟩, ⟨"EchoResponse", [], []⟩⟩

/-- A request whose field name is not in normal form is written, but its envelope is not read
back: the value comes under `ϐ`, and the request constructor's parameter is named `β`. -/
theorem parseRequest_refuses_written_compatible_name :
    (default : Binding).createRequest compatibleRequestEcho
        (some [("ϐ", .text "v"), ("xmlns", .text echoType)]) [] =
      .ok ((default : Binding).controlUrl, Soap.headers (default : Binding).serviceType "Echo",
        Soap.envelope "Echo" echoType [("ϐ", "v")]) ∧
    Binding.parseRequest compatibleRequestEcho
        (.text (Soap.envelope "Echo" echoType [("ϐ", "v")])) =
      .error (.unexpectedField "EchoArgs" "ϐ") := by
  refine ⟨rfl, ?_⟩
  have hwritable : ∀ x ∈ [("ϐ", "v")], Soap.Writable x := by
    intro x hx
    rw [List.mem_singleton] at hx
    subst hx
    exact ⟨isNCName_curled_beta, List.all_eq_true.mp rfl⟩
  have hfind := findInEnvelope_echo hwritable
  have hlast : (Soap.callElement "Echo" echoType [("ϐ", "v")]).lastChildText? "ϐ" =
      some (Xml.textOf "v") :=
    lastChildText?_callElement (by simp) List.mem_cons_self
  -- the value of `ϐ` reads, and the record then refuses its name
  have hreads : List.Forall₂ (fun f e => e.1 = f.name ∧ f.fromWire (((Soap.elementValues
      (Soap.callElement "Echo" echoType [("ϐ", "v")])).find? (·.1 == f.name)).bind Prod.snd) =
        .ok e.2) compatibleRequestEcho.inFields [("ϐ", .text "v")] := by
    refine .cons ⟨rfl, ?_⟩ .nil
    rw [show compatibleField.name = "ϐ" from rfl, bind_snd_elementValues hlast]
    rfl
  have hparams : compatibleRequestEcho.request.parameters = ["β", "xmlns"] := by
    show [Text.Normalization.nfkc "ϐ", Text.Normalization.nfkc "xmlns"] = _
    rw [nfkc_curled_beta, show Text.Normalization.nfkc "xmlns" = "xmlns" by decide]
  have hinst : compatibleRequestEcho.request.instantiate
      [("ϐ", .text "v"), ("xmlns", .text echoType)] = .error "ϐ" := by
    rw [RecordType.instantiate_eq_error, hparams]
    exact ⟨.text "v", rfl⟩
  have hspace : Soap.elementNamespace (Soap.callElement "Echo" echoType [("ϐ", "v")]) =
      some echoType := rfl
  have hfull : echoType.isEmpty = false := by decide
  rw [parseRequest_of_found (a := compatibleRequestEcho) hfind, requestFromValues_of_reads hreads]
  simp only [hspace, Option.filter, hfull, Bool.not_false, if_true, Option.toList, List.map_cons,
    List.map_nil, List.cons_append, List.nil_append, hinst]
  rfl

end UpnpBinding
