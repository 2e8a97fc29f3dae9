import UpnpBinding.Client.EventRouter
import UpnpBinding.Proofs.Keyed
import UpnpBinding.Proofs.EventRoutes
/-!
Taking in a NOTIFY request. Header names are matched regardless of case, and of the spellings of
one name the one given last gives its value. A notification without an `NT` or an `NTS` header
is a bad request, and one whose values are not `upnp:event` and `upnp:propchange` fails its
precondition. Past those checks its target is split into a path, which fails only on a target
that is no URL, and the notification goes to the binding registered for that path: not found
when there is none, accepted when there is one, whatever the body holds. The binding it goes to
takes in the body as `Binding.handleEvent` does, and no other binding changes.
-/
namespace UpnpBinding

def HasHeader (headers : List (String × Value)) (name : String) : Prop :=
  ∃ h ∈ headers, Text.lower h.1 = Text.lower name

/-- The headers as a plain dictionary holds them: each name once, where it was first given, with
the value given last under it. -/
def headerEntries (headers : List (String × Value)) : List (String × Value) :=
  headers.foldl (putBy Prod.fst) []

def lastHeader? (headers : List (String × Value)) (name : String) : Option Value :=
  ((headerEntries headers).reverse.find? (Text.lower ·.1 == Text.lower name)).map Prod.snd

namespace CaselessDict

theorem putSpelling_eq_putBy (sp : List (String × String)) (low k : String) :
    putSpelling sp low k = putBy Prod.fst sp (low, k) := rfl

theorem foldl_putSpelling (l : List (String × Value)) :
    l.foldl (fun acc x => putSpelling acc (Text.lower x.1) x.1) [] =
      (l.map fun x => (Text.lower x.1, x.1)).foldl (putBy Prod.fst) [] := by
  rw [List.foldl_map]
  rfl

theorem entries_ofList (es : List (String × Value)) : (ofList es).entries = headerEntries es := rfl

theorem spelling?_ofList (es : List (String × Value)) (k : String) :
    (ofList es).spelling? k =
      ((headerEntries es).reverse.find? (Text.lower ·.1 == Text.lower k)).map Prod.fst := by
  rw [spelling?, ofList, foldl_putSpelling, find?_foldl_putBy, ← List.map_reverse, List.find?_map,
    Option.map_map]
  rfl

theorem lookupIn_ofList (es : List (String × Value)) (k : String) :
    Value.lookupIn (ofList es).entries k = (es.reverse.find? (·.1 == k)).map Prod.snd := by
  rw [Value.lookupIn, entries_ofList, headerEntries, find?_foldl_putBy]

theorem get_ofList (es : List (String × Value)) (k : String) :
    (ofList es).get k = match lastHeader? es k with
      | some v => .ok v
      | none => .error (Text.lower k) := by
  unfold get lastHeader?
  rw [spelling?_ofList]
  cases hlast : (headerEntries es).reverse.find? (Text.lower ·.1 == Text.lower k) with
  | none => rfl
  | some e =>
    -- the entry kept under the spelling that stands for `k` holds the last value given under it
    have hkept : e ∈ headerEntries es := List.mem_reverse.mp (List.mem_of_find?_eq_some hlast)
    simp [lookupIn_ofList, find?_of_mem_foldl_putBy hkept]

theorem contains_ofList (es : List (String × Value)) (k : String) :
    (ofList es).contains k = true ↔ HasHeader es k := by
  unfold contains HasHeader
  rw [get_ofList, lastHeader?]
  cases hlast : (headerEntries es).reverse.find? (Text.lower ·.1 == Text.lower k) with
  | none =>
    simp only [Option.map_none, reduceCtorEq, false_iff, not_exists, not_and]
    intro e he hk
    -- the name of `e` is kept, under some value
    obtain ⟨e', he', hname⟩ := List.mem_map.mp
      (mem_keys_foldl_putBy.mpr ⟨e.2, he⟩ : e.1 ∈ (headerEntries es).map Prod.fst)
    exact List.find?_eq_none.mp hlast e' (List.mem_reverse.mpr he') (by simp [hname, hk])
  | some e =>
    simp only [Option.map_some, true_iff]
    have hkept : e ∈ headerEntries es := List.mem_reverse.mp (List.mem_of_find?_eq_some hlast)
    exact ⟨e, mem_of_mem_foldl_putBy hkept, by simpa using List.find?_some hlast⟩

end CaselessDict

theorem Value.equal_text_iff (v : Value) (s : String) : v.equal (.text s) = true ↔ v = .text s := by
  cases v <;> simp [Value.equal, Value.magnitude?]

namespace EventRouter

def HeadersPresent (headers : List (String × Value)) : Prop :=
  HasHeader headers "NT" ∧ HasHeader headers "NTS"

def HeadersValid (headers : List (String × Value)) : Prop :=
  lastHeader? headers "NT" = some (.text "upnp:event") ∧
    lastHeader? headers "NTS" = some (.text "upnp:propchange")

def Routes (r : EventRouter) (bindings : Array Binding) : Prop :=
  ∀ e ∈ r.routes, e.2 < bindings.size

instance (r : EventRouter) (bindings : Array Binding) : Decidable (r.Routes bindings) :=
  inferInstanceAs (Decidable (∀ e ∈ r.routes, e.2 < bindings.size))

def headerIs (headers : List (String × Value)) (name value : String) : Bool :=
  (lastHeader? headers name).any (·.equal (.text value))

theorem headerIs_iff {headers : List (String × Value)} {name value : String} :
    headerIs headers name value = true ↔ lastHeader? headers name = some (.text value) := by
  unfold headerIs
  cases lastHeader? headers name <;> simp [Value.equal_text_iff]

theorem headerFault_ofList (headers : List (String × Value)) :
    headerFault (CaselessDict.ofList headers) =
      if !(CaselessDict.ofList headers).contains "NT" ||
          !(CaselessDict.ofList headers).contains "NTS" then some .badRequest
      else if !headerIs headers "NT" "upnp:event" || !headerIs headers "NTS" "upnp:propchange" then
        some .preconditionFailed
      else none := by
  unfold headerFault headerIs
  simp only [CaselessDict.get_ofList]
  cases lastHeader? headers "NT" <;> cases lastHeader? headers "NTS" <;> rfl

theorem contains_both_iff (headers : List (String × Value)) :
    ((CaselessDict.ofList headers).contains "NT" && (CaselessDict.ofList headers).contains "NTS") =
      true ↔ HeadersPresent headers := by
  rw [Bool.and_eq_true, CaselessDict.contains_ofList, CaselessDict.contains_ofList]
  rfl

theorem headerIs_both_iff (headers : List (String × Value)) :
    (headerIs headers "NT" "upnp:event" && headerIs headers "NTS" "upnp:propchange") = true ↔
      HeadersValid headers := by
  rw [Bool.and_eq_true, headerIs_iff, headerIs_iff]
  rfl

theorem headerFault_missing {headers : List (String × Value)} (missing : ¬ HeadersPresent headers) :
    headerFault (CaselessDict.ofList headers) = some .badRequest := by
  have hcheck : (!(CaselessDict.ofList headers).contains "NT" ||
      !(CaselessDict.ofList headers).contains "NTS") = true := by
    rw [← Bool.not_and, Bool.not_eq_true', ← Bool.not_eq_true, contains_both_iff]
    exact missing
  rw [headerFault_ofList, if_pos hcheck]

theorem headerFault_wrong {headers : List (String × Value)} (present : HeadersPresent headers)
    (wrong : ¬ HeadersValid headers) :
    headerFault (CaselessDict.ofList headers) = some .preconditionFailed := by
  have hnames : (!(CaselessDict.ofList headers).contains "NT" ||
      !(CaselessDict.ofList headers).contains "NTS") = false := by
    rw [← Bool.not_and, Bool.not_eq_false', contains_both_iff]
    exact present
  have hvalues : (!headerIs headers "NT" "upnp:event" ||
      !headerIs headers "NTS" "upnp:propchange") = true := by
    rw [← Bool.not_and, Bool.not_eq_true', ← Bool.not_eq_true, headerIs_both_iff]
    exact wrong
  rw [headerFault_ofList, hnames, hvalues]
  rfl

theorem headerFault_pass {headers : List (String × Value)} (present : HeadersPresent headers)
    (valid : HeadersValid headers) : headerFault (CaselessDict.ofList headers) = none := by
  have hnames : (!(CaselessDict.ofList headers).contains "NT" ||
      !(CaselessDict.ofList headers).contains "NTS") = false := by
    rw [← Bool.not_and, Bool.not_eq_false', contains_both_iff]
    exact present
  have hvalues : (!headerIs headers "NT" "upnp:event" ||
      !headerIs headers "NTS" "upnp:propchange") = false := by
    rw [← Bool.not_and, Bool.not_eq_false', headerIs_both_iff]
    exact valid
  rw [headerFault_ofList, hnames, hvalues]
  rfl

theorem lt_size_of_bindingFor {r : EventRouter} {bindings : Array Binding} {target : String}
    {id : Nat} (routes : r.Routes bindings) (h : r.bindingFor target = .ok (some id)) :
    id < bindings.size := by
  unfold bindingFor at h
  cases hp : Url.pathOf target with
  | error e => simp [hp, bind, Except.bind] at h
  | ok path =>
    simp only [hp, bind, Except.bind, pure, Except.pure, Except.ok.injEq, Option.map_eq_some_iff] at h
    obtain ⟨e, he, rfl⟩ := h
    exact routes e (List.mem_of_find?_eq_some he)

theorem bindingFor_error {r : EventRouter} {target : String} {e : UrlError} :
    r.bindingFor target = .error e ↔ Url.pathOf target = .error e := by
  unfold bindingFor
  cases Url.pathOf target <;> simp [bind, Except.bind, pure, Except.pure]

theorem empty_routes (bindings : Array Binding) : empty.Routes bindings := by
  intro e he
  cases he

theorem register_routes {r r' : EventRouter} {bindings : Array Binding} {url : String} {id : Nat}
    (routes : r.Routes bindings) (hid : id < bindings.size) (h : r.register url id = .ok r') :
    r'.Routes bindings := by
  unfold register at h
  cases hp : Url.pathOf url with
  | error e => simp [hp, bind, Except.bind] at h
  | ok path =>
    simp only [hp, bind, Except.bind, pure, Except.pure, Except.ok.injEq] at h
    subst h
    intro e he
    split at he
    · obtain ⟨e', he', rfl⟩ := List.mem_map.mp he
      split
      · exact hid
      · exact routes e' he'
    · rcases List.mem_append.mp he with he | he
      · exact routes e he
      · rw [List.mem_singleton.mp he]
        exact hid

theorem unregister_routes {r r' : EventRouter} {bindings : Array Binding} {url : String} {id : Nat}
    (routes : r.Routes bindings) (h : r.unregister url id = .ok r') : r'.Routes bindings := by
  unfold unregister at h
  cases hp : Url.pathOf url with
  | error e => simp [hp, bind, Except.bind] at h
  | ok path =>
    simp only [hp, bind, Except.bind, pure, Except.pure, Except.ok.injEq] at h
    subst h
    exact fun e he => routes e (List.mem_filter.mp he).1

theorem Routes.apply {r : EventRouter} {bindings : Array Binding} {eventUrl : Nat → String}
    (routes : r.Routes bindings) {c : Call} (hc : c.id < bindings.size) :
    (EventRouter.apply eventUrl r c).Routes bindings := by
  cases c with
  | register id =>
    dsimp only [EventRouter.apply]
    split
    · next r' h => exact register_routes routes hc h
    · exact routes
  | unregister id =>
    dsimp only [EventRouter.apply]
    split
    · next r' h => exact unregister_routes routes h
    · exact routes

theorem run_routes {bindings : Array Binding} (eventUrl : Nat → String) {calls : List Call}
    (hcalls : ∀ c ∈ calls, c.id < bindings.size) : (run eventUrl calls).Routes bindings := by
  induction calls using List.reverseRecOn with
  | nil => exact empty_routes bindings
  | append_singleton calls c ih =>
    rw [run_append_singleton]
    have before : (run eventUrl calls).Routes bindings :=
      ih fun c' h => hcalls c' (List.mem_append_left _ h)
    exact before.apply (hcalls c (List.mem_append_right _ (List.mem_singleton_self c)))

/-- How a notification for `target` with `headers` and `body` is taken in by the bindings that
`r` routes to. -/
inductive NotifyOutcome (r : EventRouter) (bindings : Array Binding) (target : String)
    (headers : List (String × Value)) (body : Xml.Document) :
    Except UrlError (NotifyStatus × Array Binding) → Prop where
  | badRequest (missing : ¬ HeadersPresent headers) :
      NotifyOutcome r bindings target headers body (.ok (.badRequest, bindings))
  | preconditionFailed (present : HeadersPresent headers) (wrong : ¬ HeadersValid headers) :
      NotifyOutcome r bindings target headers body (.ok (.preconditionFailed, bindings))
  | unsplittable {e : UrlError} (present : HeadersPresent headers) (valid : HeadersValid headers)
      (split : Url.pathOf target = .error e) :
      NotifyOutcome r bindings target headers body (.error e)
  | notFound (present : HeadersPresent headers) (valid : HeadersValid headers)
      (unrouted : r.bindingFor target = .ok none) :
      NotifyOutcome r bindings target headers body (.ok (.notFound, bindings))
  | accepted {id : Nat} {b : Binding} {bindings' : Array Binding}
      (present : HeadersPresent headers) (valid : HeadersValid headers)
      (routed : r.bindingFor target = .ok (some id)) (found : bindings[id]? = some b)
      (updated : bindings'[id]? = some (b.handleEvent body).1)
      (others : ∀ j, j ≠ id → bindings'[j]? = bindings[j]?) :
      NotifyOutcome r bindings target headers body (.ok (.ok, bindings'))

/-- Every notification has one outcome: it is a bad request when `NT` or `NTS` is missing, its
precondition fails when either has another value, splitting its target fails when that is no
URL, it is not found when no binding is registered for the path, and it is accepted otherwise,
however malformed its body. Only the binding it is routed to changes, as taking in the body
changes it. -/
theorem notify_outcome (r : EventRouter) (bindings : Array Binding) (target : String)
    (headers : List (String × Value)) (body : Xml.Document) (routes : r.Routes bindings) :
    NotifyOutcome r bindings target headers body
      (r.notify bindings target (CaselessDict.ofList headers) body) := by
  unfold notify
  by_cases hp : HeadersPresent headers
  · by_cases hv : HeadersValid headers
    · simp only [headerFault_pass hp hv]
      cases hb : r.bindingFor target with
      | error e => exact .unsplittable hp hv (bindingFor_error.mp hb)
      | ok found =>
        cases found with
        | none => exact .notFound hp hv hb
        | some id =>
          have hid := lt_size_of_bindingFor routes hb
          have hget : bindings[id]? = some bindings[id] := Array.getElem?_eq_getElem hid
          simp only [bind, Except.bind, pure, Except.pure, hget]
          refine .accepted hp hv hb hget ?_ fun j hj => ?_
          · simp [Array.getElem?_setIfInBounds_self_of_lt hid]
          · simp [Array.getElem?_setIfInBounds_ne (Ne.symm hj)]
    · simp only [headerFault_wrong hp hv, pure, Except.pure]
      exact .preconditionFailed hp hv
  · simp only [headerFault_missing hp, pure, Except.pure]
    exact .badRequest hp

def oneRoute : EventRouter := ⟨[("/Event", 0)]⟩

def lowerCaseHeaders : List (String × Value) :=
  [("nt", .text "upnp:event"), ("nts", .text "upnp:propchange")]

theorem notify_outcome_lower_case :
    oneRoute.Routes #[default] ∧
      NotifyOutcome oneRoute #[default] "/Event" lowerCaseHeaders (.text "<e:propertyset")
        (oneRoute.notify #[default] "/Event" (CaselessDict.ofList lowerCaseHeaders)
          (.text "<e:propertyset")) :=
  ⟨by decide, notify_outcome _ _ _ _ _ (by decide)⟩

/-- A notification whose headers pass is not taken in when its target has an unpaired `[` after
`//`: splitting the target fails. -/
theorem notify_unpaired_bracket :
    ∃ e, empty.notify #[] "//[" (CaselessDict.ofList
      [("NT", .text "upnp:event"), ("NTS", .text "upnp:propchange")]) (.text "") = .error e :=
  ⟨.invalidIPv6, by rfl⟩

end EventRouter

end UpnpBinding
