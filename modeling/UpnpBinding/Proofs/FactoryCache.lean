import UpnpBinding.Proofs.KnownEndpoints
import UpnpBinding.Proofs.Synthesis
/-!
The definitions a factory keeps. A binding of a known service is made from the description at
its key: the service's own name and the description URL resolved against the device URL. The
first call with a key that succeeds fetches the description with one GET and keeps the
definition made from it; every later call with that key sends nothing and binds the kept
definition, which is the one made from the description as fetched. A call that fails keeps
nothing. A kept definition always binds: its endpoints are a known service's paths, which
resolve against every device URL that the description URL resolved against.

Main statement: `bindKnown_after_calls`, for every call made after any calls on a new factory.
-/
namespace UpnpBinding

namespace Factory

theorem resolve_eq_ok {n : String} {s : KnownService} : resolve n = .ok s ↔ KnownService.find? n = some s := by
  unfold resolve
  split <;> simp_all

theorem resolve_eq_error {n : String} {e : FactoryError} (h : resolve n = .error e) :
    KnownService.find? n = none ∧ e = .unknownService n := by
  unfold resolve at h
  split at h
  · cases h
  · cases h
    exact ⟨‹_›, rfl⟩

end Factory

theorem ServiceDefinition.read_paths {doc : Xml.Document} {name cp ep : String} {st : Option String}
    {d : ServiceDefinition} (h : ServiceDefinition.read doc name cp ep st = .ok d) :
    d.controlPath = cp ∧ d.eventPath = ep := by
  unfold ServiceDefinition.read at h
  split at h
  · cases h
  · split at h
    · rename_i hd
      cases h
      exact ⟨(ServiceDefinition.ofScpd_reflects hd).controlPath,
        (ServiceDefinition.ofScpd_reflects hd).eventPath⟩
    · cases h

namespace Factory

variable {doc : Xml.Document} {name : String} {st : Option String} {d : ServiceDefinition}

theorem createDefinition_unnamed (doc : Xml.Document) (name : String) (st : Option String) :
    createDefinition doc name none none st = (resolve name).bind fun s =>
      match ServiceDefinition.read doc name s.controlPath s.eventPath
          (some (orElse (st.getD "") s.serviceType)) with
      | .ok d => .ok d
      | .error e => .error (.schema e) := by
  unfold createDefinition
  cases resolve name with
  | error e => rfl
  | ok s =>
    show (match ServiceDefinition.read doc name s.controlPath s.eventPath _ with
      | .ok d => pure d | .error e => throw (FactoryError.schema e)) =
      (match ServiceDefinition.read doc name s.controlPath s.eventPath _ with
      | .ok d => Except.ok d | .error e => Except.error (FactoryError.schema e))
    split <;> rfl

theorem createDefinition_paths (h : createDefinition doc name none none st = .ok d) :
    ∃ s ∈ KnownService.all, d.controlPath = s.controlPath ∧ d.eventPath = s.eventPath := by
  rw [createDefinition_unnamed] at h
  cases hr : resolve name with
  | error e =>
    rw [hr] at h
    cases h
  | ok s =>
    rw [hr] at h
    change (match ServiceDefinition.read doc name s.controlPath s.eventPath _ with
      | .ok d => Except.ok d | .error e => Except.error (FactoryError.schema e)) = _ at h
    split at h
    · rename_i hd
      cases h
      obtain ⟨hcp, hep⟩ := ServiceDefinition.read_paths hd
      exact ⟨s, KnownService.mem_of_find? (resolve_eq_ok.mp hr), hcp, hep⟩
    · cases h

theorem createDefinition_error {s : KnownService} (hs : s ∈ KnownService.all) {e : FactoryError}
    (h : createDefinition doc s.name none none st = .error e) : ∃ se, e = .schema se := by
  obtain ⟨s', hfound⟩ := Option.isSome_iff_exists.mp (KnownService.find?_name_isSome hs)
  rw [createDefinition_unnamed, resolve_eq_ok.mpr hfound] at h
  change (match ServiceDefinition.read doc s.name s'.controlPath s'.eventPath _ with
    | .ok d => Except.ok d | .error e => Except.error (FactoryError.schema e)) = _ at h
  split at h
  · cases h
  · cases h
    exact ⟨_, rfl⟩

end Factory

namespace Factory

/-- The definition `d` is the one made from the description of service `k.1` at `k.2`: a GET of
it is answered 200, and its body gives `d`. -/
def Fetches (send : Requester) (k : String × String) (d : ServiceDefinition) : Prop :=
  ∃ resp, send ⟨"GET", k.2, [], none⟩ = .ok resp ∧ resp.status = 200 ∧
    createDefinition (.text resp.body) k.1 none none none = .ok d

def Consistent (send : Requester) (f : Factory) : Prop :=
  ∀ k d, (k, d) ∈ f.cache → Fetches send k d

def Keeps (f : Factory) (k : String × String) : Prop :=
  ∃ d, (k, d) ∈ f.cache

/-- The key of a binding of the known service `n` to the device at `u`, its description at `p`:
the service's own name and the description URL. -/
def descriptionKey (u n : String) (p : Option String) : Option (String × String) :=
  (KnownService.find? n).bind fun s =>
    match Url.join u (orElse (p.getD "") s.scpdPath) with
    | .ok url => some (s.name, url)
    | .error _ => none

theorem descriptionKey_eq {u n url : String} {p : Option String} {s : KnownService}
    (hs : KnownService.find? n = some s) (hurl : Url.join u (orElse (p.getD "") s.scpdPath) = .ok url) :
    descriptionKey u n p = some (s.name, url) := by
  simp [descriptionKey, hs, hurl]

/-- What binding the known service `n` to the device at `u`, its description at `p`, does with the
factory `f`, whose kept keys are those `kept` holds: the factory after, the requests sent, and the
binding or the error. -/
inductive KnownStep (send : Requester) (kept : String × String → Prop) (u n : String)
    (p : Option String) (f : Factory) :
    Factory × List HttpRequest × Except FactoryError Binding → Prop
  | unknown (hn : ∀ s ∈ KnownService.all, Text.lower s.name ≠ Text.lower n) :
      KnownStep send kept u n p f (f, [], .error (.unknownService n))
  | badUrl {s : KnownService} {e : UrlError} (hs : KnownService.find? n = some s)
      (hurl : Url.join u (orElse (p.getD "") s.scpdPath) = .error e) :
      KnownStep send kept u n p f (f, [], .error (.url e))
  | reused {s : KnownService} {url : String} {d : ServiceDefinition} {b : Binding}
      (hs : KnownService.find? n = some s) (hurl : Url.join u (orElse (p.getD "") s.scpdPath) = .ok url)
      (hkept : kept (s.name, url)) (hd : Fetches send (s.name, url) d) (hb : Binding.make d u = .ok b) :
      KnownStep send kept u n p f (f, [], .ok b)
  | fetched {s : KnownService} {url : String} {d : ServiceDefinition} {b : Binding}
      (hs : KnownService.find? n = some s) (hurl : Url.join u (orElse (p.getD "") s.scpdPath) = .ok url)
      (hnew : ¬kept (s.name, url)) (hd : Fetches send (s.name, url) d) (hb : Binding.make d u = .ok b) :
      KnownStep send kept u n p f
        (⟨f.cache ++ [((s.name, url), d)]⟩, [⟨"GET", url, [], none⟩], .ok b)
  | unreachable {s : KnownService} {url : String} {e : TransportError}
      (hs : KnownService.find? n = some s) (hurl : Url.join u (orElse (p.getD "") s.scpdPath) = .ok url)
      (hnew : ¬kept (s.name, url)) (hsend : send ⟨"GET", url, [], none⟩ = .error e) :
      KnownStep send kept u n p f (f, [⟨"GET", url, [], none⟩], .error (.transport e))
  | refused {s : KnownService} {url : String} {resp : HttpResponse}
      (hs : KnownService.find? n = some s) (hurl : Url.join u (orElse (p.getD "") s.scpdPath) = .ok url)
      (hnew : ¬kept (s.name, url)) (hsend : send ⟨"GET", url, [], none⟩ = .ok resp)
      (hstatus : resp.status ≠ 200) :
      KnownStep send kept u n p f (f, [⟨"GET", url, [], none⟩], .error (.status resp.status))
  | unusable {s : KnownService} {url : String} {resp : HttpResponse} {se : SchemaError}
      (hs : KnownService.find? n = some s) (hurl : Url.join u (orElse (p.getD "") s.scpdPath) = .ok url)
      (hnew : ¬kept (s.name, url)) (hsend : send ⟨"GET", url, [], none⟩ = .ok resp)
      (hstatus : resp.status = 200)
      (hd : createDefinition (.text resp.body) s.name none none none = .error (.schema se)) :
      KnownStep send kept u n p f (f, [⟨"GET", url, [], none⟩], .error (.schema se))

variable {send : Requester} {f : Factory} {u n : String} {p : Option String}

theorem keeps_of_find? {k k' : String × String} {d : ServiceDefinition}
    (h : f.cache.find? (·.1 == k) = some (k', d)) : k' = k ∧ (k, d) ∈ f.cache := by
  have hk : k' = k := by simpa using List.find?_some h
  subst hk
  exact ⟨rfl, List.mem_of_find?_eq_some h⟩

theorem cache_find?_eq_none_iff {k : String × String} : f.cache.find? (·.1 == k) = none ↔ ¬f.Keeps k := by
  constructor
  · rintro h ⟨d, hd⟩
    simpa using List.find?_eq_none.mp h _ hd
  · intro h
    exact List.find?_eq_none.mpr fun ⟨k', d⟩ hx hk => h ⟨d, by rw [← eq_of_beq hk]; exact hx⟩

theorem fetch_of_error {url : String} {e : TransportError} (h : send ⟨"GET", url, [], none⟩ = .error e) :
    fetch send url = ([⟨"GET", url, [], none⟩], .error (.transport e)) := by
  simp [fetch, h]

theorem fetch_of_ok {url : String} {resp : HttpResponse} (h : send ⟨"GET", url, [], none⟩ = .ok resp) :
    fetch send url = ([⟨"GET", url, [], none⟩],
      if resp.status = 200 then .ok resp.body else .error (.status resp.status)) := by
  simp [fetch, h]

theorem fetch_sent (send : Requester) (url : String) : (fetch send url).1 = [⟨"GET", url, [], none⟩] := by
  unfold fetch
  dsimp only
  split <;> rfl

theorem fetched_eq_ok {name url : String} {d : ServiceDefinition} :
    ((fetch send url).2.bind fun text => createDefinition (.text text) name none none none) = .ok d ↔
      Fetches send (name, url) d := by
  constructor
  · intro h
    cases hsend : send ⟨"GET", url, [], none⟩ with
    | error e =>
      rw [fetch_of_error hsend] at h
      cases h
    | ok resp =>
      rw [fetch_of_ok hsend] at h
      by_cases hstatus : resp.status = 200
      · rw [if_pos hstatus] at h
        exact ⟨resp, hsend, hstatus, h⟩
      · rw [if_neg hstatus] at h
        cases h
  · rintro ⟨resp, hsend, hstatus, hd⟩
    rw [fetch_of_ok hsend, if_pos hstatus]
    exact hd

theorem fetched_eq_error {name url : String} {e : FactoryError}
    (h : ((fetch send url).2.bind fun text => createDefinition (.text text) name none none none) = .error e) :
    (∃ te, send ⟨"GET", url, [], none⟩ = .error te ∧ e = .transport te) ∨
      (∃ resp, send ⟨"GET", url, [], none⟩ = .ok resp ∧ resp.status ≠ 200 ∧ e = .status resp.status) ∨
      ∃ resp, send ⟨"GET", url, [], none⟩ = .ok resp ∧ resp.status = 200 ∧
        createDefinition (.text resp.body) name none none none = .error e := by
  cases hsend : send ⟨"GET", url, [], none⟩ with
  | error te =>
    rw [fetch_of_error hsend] at h
    cases h
    exact .inl ⟨te, rfl, rfl⟩
  | ok resp =>
    rw [fetch_of_ok hsend] at h
    by_cases hstatus : resp.status = 200
    · rw [if_pos hstatus] at h
      exact .inr (.inr ⟨resp, rfl, hstatus, h⟩)
    · rw [if_neg hstatus] at h
      cases h
      exact .inr (.inl ⟨resp, rfl, hstatus, rfl⟩)

/-! Binding a known service, by the way it goes: an unknown name, a description URL that cannot
be resolved, a definition kept at the key, or none kept. -/

theorem bind_of_resolve_error {e : FactoryError} (hr : resolve n = .error e) :
    f.bind send u n p = (f, [], .error e) := by
  simp [bind, hr]

theorem bind_of_join_error {s : KnownService} {e : UrlError} (hr : resolve n = .ok s)
    (hurl : Url.join u (orElse (p.getD "") s.scpdPath) = .error e) :
    f.bind send u n p = (f, [], .error (.url e)) := by
  simp [bind, hr, hurl]

theorem bind_of_find? {s : KnownService} {url : String} {k : String × String} {d : ServiceDefinition}
    (hr : resolve n = .ok s) (hurl : Url.join u (orElse (p.getD "") s.scpdPath) = .ok url)
    (hfind : f.cache.find? (·.1 == (s.name, url)) = some (k, d)) :
    f.bind send u n p = (f, [], bound d u) := by
  simp only [bind, hr, hurl, hfind]
  rfl

theorem bind_of_fetches {s : KnownService} {url : String} {d : ServiceDefinition} (hr : resolve n = .ok s)
    (hurl : Url.join u (orElse (p.getD "") s.scpdPath) = .ok url)
    (hfind : f.cache.find? (·.1 == (s.name, url)) = none) (hd : Fetches send (s.name, url) d) :
    f.bind send u n p = (⟨f.cache ++ [((s.name, url), d)]⟩, [⟨"GET", url, [], none⟩], bound d u) := by
  simp only [bind, hr, hurl, hfind, fetched_eq_ok.mpr hd, fetch_sent]
  rfl

theorem bind_of_fetch_error {s : KnownService} {url : String} {e : FactoryError} (hr : resolve n = .ok s)
    (hurl : Url.join u (orElse (p.getD "") s.scpdPath) = .ok url)
    (hfind : f.cache.find? (·.1 == (s.name, url)) = none)
    (he : ((fetch send url).2.bind fun text => createDefinition (.text text) s.name none none none) =
      .error e) :
    f.bind send u n p = (f, [⟨"GET", url, [], none⟩], .error e) := by
  simp only [bind, hr, hurl, hfind, he, fetch_sent]
  rfl

theorem bound_of_fetches {s : KnownService} {url : String} {d : ServiceDefinition}
    (hs : KnownService.find? n = some s) (hurl : Url.join u (orElse (p.getD "") s.scpdPath) = .ok url)
    (hd : createDefinition (.text body) s.name none none none = .ok d) :
    ∃ b, Binding.make d u = .ok b ∧ bound d u = .ok b :=
  bound_ok (createDefinition_paths hd) hurl
    (KnownService.orElse_scpdPath_ne_empty (KnownService.mem_of_find? hs) p)

theorem bind_knownStep (hc : f.Consistent send) : KnownStep send f.Keeps u n p f (f.bind send u n p) := by
  cases hr : resolve n with
  | error e =>
    rw [bind_of_resolve_error hr]
    obtain ⟨hnone, rfl⟩ := resolve_eq_error hr
    exact .unknown (KnownService.find?_eq_none_iff.mp hnone)
  | ok s =>
    have hs := resolve_eq_ok.mp hr
    cases hurl : Url.join u (orElse (p.getD "") s.scpdPath) with
    | error e =>
      rw [bind_of_join_error hr hurl]
      exact .badUrl hs hurl
    | ok url =>
      cases hfind : f.cache.find? (·.1 == (s.name, url)) with
      | some entry =>
        obtain ⟨k', d⟩ := entry
        obtain ⟨-, hmem⟩ := keeps_of_find? hfind
        obtain ⟨resp, hsend, hstatus, hd⟩ := hc _ _ hmem
        obtain ⟨b, hb, hbound⟩ := bound_of_fetches hs hurl hd
        rw [bind_of_find? hr hurl hfind, hbound]
        exact .reused hs hurl ⟨d, hmem⟩ ⟨resp, hsend, hstatus, hd⟩ hb
      | none =>
        have hnew := cache_find?_eq_none_iff.mp hfind
        cases hmade : (fetch send url).2.bind fun text =>
            createDefinition (.text text) s.name none none none with
        | ok d =>
          obtain ⟨resp, hsend, hstatus, hd⟩ := fetched_eq_ok.mp hmade
          obtain ⟨b, hb, hbound⟩ := bound_of_fetches hs hurl hd
          rw [bind_of_fetches hr hurl hfind ⟨resp, hsend, hstatus, hd⟩, hbound]
          exact .fetched hs hurl hnew ⟨resp, hsend, hstatus, hd⟩ hb
        | error e =>
          rw [bind_of_fetch_error hr hurl hfind hmade]
          rcases fetched_eq_error hmade with ⟨te, hsend, rfl⟩ | ⟨resp, hsend, hstatus, rfl⟩ |
            ⟨resp, hsend, hstatus, hd⟩
          · exact .unreachable hs hurl hnew hsend
          · exact .refused hs hurl hnew hsend hstatus
          · obtain ⟨se, rfl⟩ := createDefinition_error (KnownService.mem_of_find? hs) hd
            exact .unusable hs hurl hnew hsend hstatus hd

theorem bind_succeeds_iff (hc : f.Consistent send) {k : String × String}
    (hk : descriptionKey u n p = some k) :
    (∃ b, (f.bind send u n p).2.2 = .ok b) ↔ f.Keeps k ∨ ∃ d, Fetches send k d := by
  -- the key of each way the binding goes is `k`; a failed fetch contradicts a definition at `k`
  have hkey : ∀ {s : KnownService} {url : String}, KnownService.find? n = some s →
      Url.join u (orElse (p.getD "") s.scpdPath) = .ok url → k = (s.name, url) := fun hs hurl => by
    rw [descriptionKey_eq hs hurl] at hk
    exact (Option.some.inj hk).symm
  have hstep := bind_knownStep (u := u) (n := n) (p := p) hc
  generalize f.bind send u n p = r at hstep ⊢
  cases hstep with
  | unknown hn =>
    obtain ⟨s, hs⟩ : ∃ s, KnownService.find? n = some s := by
      cases h : KnownService.find? n with
      | none => simp [descriptionKey, h] at hk
      | some s => exact ⟨s, rfl⟩
    exact absurd (KnownService.find?_eq_none_iff.mpr hn) (by simp [hs])
  | badUrl hs hurl => simp [descriptionKey, hs, hurl] at hk
  | reused hs hurl hkept hd hb => exact ⟨fun _ => .inl (hkey hs hurl ▸ hkept), fun _ => ⟨_, rfl⟩⟩
  | fetched hs hurl hnew hd hb => exact ⟨fun _ => .inr ⟨_, hkey hs hurl ▸ hd⟩, fun _ => ⟨_, rfl⟩⟩
  | unreachable hs hurl hnew hsend =>
    obtain rfl := hkey hs hurl
    refine ⟨(fun ⟨_, hb⟩ => by cases hb), ?_⟩
    rintro (hkept | ⟨d, resp, hresp, -, -⟩)
    · exact absurd hkept hnew
    · rw [hsend] at hresp
      cases hresp
  | refused hs hurl hnew hsend hstatus =>
    obtain rfl := hkey hs hurl
    refine ⟨(fun ⟨_, hb⟩ => by cases hb), ?_⟩
    rintro (hkept | ⟨d, resp, hresp, h200, -⟩)
    · exact absurd hkept hnew
    · rw [hsend, Except.ok.injEq] at hresp
      exact absurd (hresp ▸ h200) hstatus
  | unusable hs hurl hnew hsend hstatus hd =>
    obtain rfl := hkey hs hurl
    refine ⟨(fun ⟨_, hb⟩ => by cases hb), ?_⟩
    rintro (hkept | ⟨d, resp, hresp, -, hmade⟩)
    · exact absurd hkept hnew
    · rw [hsend, Except.ok.injEq] at hresp
      subst hresp
      rw [hd] at hmade
      cases hmade

theorem KnownStep.consistent {kept : String × String → Prop} {r} (h : KnownStep send kept u n p f r)
    (hc : f.Consistent send) : r.1.Consistent send := by
  cases h with
  | fetched hs hurl hnew hd hb =>
    intro k d hmem
    rcases List.mem_append.mp hmem with hold | hadded
    · exact hc k d hold
    · obtain ⟨rfl, rfl⟩ := Prod.mk.inj (List.mem_singleton.mp hadded)
      exact hd
  | unknown | badUrl | reused | unreachable | refused | unusable => exact hc

theorem KnownStep.keeps {r} (h : KnownStep send f.Keeps u n p f r) (k : String × String) :
    r.1.Keeps k ↔ f.Keeps k ∨ ((∃ b, r.2.2 = .ok b) ∧ descriptionKey u n p = some k) := by
  cases h with
  | reused hs hurl hkept hd hb =>
    rw [descriptionKey_eq hs hurl]
    constructor
    · exact .inl
    · rintro (hk | ⟨-, hk⟩)
      · exact hk
      · cases hk
        exact hkept
  | fetched hs hurl hnew hd hb =>
    rw [descriptionKey_eq hs hurl]
    simp only [Keeps, List.mem_append, List.mem_singleton, Prod.mk.injEq, exists_or]
    constructor
    · rintro (hk | ⟨d, rfl, -⟩)
      · exact .inl hk
      · exact .inr ⟨⟨_, rfl⟩, rfl⟩
    · rintro (hk | ⟨-, hk⟩)
      · exact .inl hk
      · cases hk
        exact .inr ⟨_, rfl, rfl⟩
  | unknown | badUrl | unreachable | refused | unusable => simp

def Succeeded (trace : List Served) (k : String × String) : Prop :=
  ∃ u n p sent b, ((.bindKnown u n p, sent, .ok (.binding b)) : Served) ∈ trace ∧
    descriptionKey u n p = some k

theorem run_append_singleton (f : Factory) (send : Requester) (steps : List Step) (s : Step) :
    f.run send (steps ++ [s]) =
      (((f.run send steps).1.exec send s).1, (f.run send steps).2 ++
        [(s, ((f.run send steps).1.exec send s).2.1, ((f.run send steps).1.exec send s).2.2)]) := by
  simp [run, List.foldl_append]

theorem exec_bindKnown (f : Factory) (send : Requester) (u n : String) (p : Option String) :
    f.exec send (.bindKnown u n p) =
      ((f.bind send u n p).1, (f.bind send u n p).2.1, (f.bind send u n p).2.2.map .binding) := by
  simp [exec]

theorem succeeded_bindKnown {u n : String} {p : Option String} {sent : List HttpRequest}
    {r : Except FactoryError Binding} {k : String × String} :
    Succeeded [(.bindKnown u n p, sent, r.map .binding)] k ↔
      (∃ b, r = .ok b) ∧ descriptionKey u n p = some k := by
  constructor
  · rintro ⟨u', n', p', sent', b, hx, hk⟩
    simp only [List.mem_singleton, Prod.mk.injEq, Step.bindKnown.injEq] at hx
    obtain ⟨⟨rfl, rfl, rfl⟩, rfl, hr⟩ := hx
    cases r with
    | ok b' => exact ⟨⟨b', rfl⟩, hk⟩
    | error e => cases hr
  · rintro ⟨⟨b, rfl⟩, hk⟩
    exact ⟨u, n, p, sent, b, List.mem_singleton_self _, hk⟩

theorem succeeded_append_singleton {trace : List Served} {x : Served} {k : String × String} :
    Succeeded (trace ++ [x]) k ↔ Succeeded trace k ∨ Succeeded [x] k := by
  simp only [Succeeded, List.mem_append]
  constructor
  · rintro ⟨u, n, p, sent, b, hx | hx, hk⟩
    · exact .inl ⟨u, n, p, sent, b, hx, hk⟩
    · exact .inr ⟨u, n, p, sent, b, hx, hk⟩
  · rintro (⟨u, n, p, sent, b, hx, hk⟩ | ⟨u, n, p, sent, b, hx, hk⟩)
    · exact ⟨u, n, p, sent, b, .inl hx, hk⟩
    · exact ⟨u, n, p, sent, b, .inr hx, hk⟩

theorem run_tracks (send : Requester) (steps : List Step) :
    (empty.run send steps).1.Consistent send ∧
      ∀ k, (empty.run send steps).1.Keeps k ↔ Succeeded (empty.run send steps).2 k := by
  -- induction on the calls from the last one: a call's step lemma carries both facts over it
  induction steps using List.reverseRecOn with
  | nil =>
    refine ⟨fun k d h => by simp [run, empty] at h, fun k => ?_⟩
    simp [run, empty, Keeps, Succeeded]
  | append_singleton steps s ih =>
    obtain ⟨hc, hk⟩ := ih
    rw [run_append_singleton]
    cases s with
    | define | bindDescribed =>
      -- a call given its description keeps the factory as it is, and binds no known service
      refine ⟨hc, fun k => ?_⟩
      simp [exec, hk, Succeeded]
    | bindKnown u n p =>
      have hstep := bind_knownStep (u := u) (n := n) (p := p) hc
      refine ⟨hstep.consistent hc, fun k => ?_⟩
      rw [exec_bindKnown, succeeded_append_singleton, ← hk, succeeded_bindKnown]
      exact hstep.keeps k

/-- A binding of a known service after any calls on a new factory. A definition is kept at a key
exactly when an earlier binding of a known service with that key succeeded. The binding fails on
an unknown name and sends nothing. With a definition kept at its key, it sends nothing and binds
that definition, the one made from the description at the key, to its own device. With none kept,
it sends one GET of the description; when the answer is 200 and gives a definition, it keeps that
definition and binds it, and otherwise it fails and keeps nothing. -/
theorem bindKnown_after_calls (send : Requester) (calls : List Step) (u n : String)
    (p : Option String) :
    (∀ k, (empty.run send calls).1.Keeps k ↔ Succeeded (empty.run send calls).2 k) ∧
      KnownStep send (Succeeded (empty.run send calls).2) u n p (empty.run send calls).1
        ((empty.run send calls).1.bind send u n p) := by
  obtain ⟨hc, hk⟩ := run_tracks send calls
  have hkept : (empty.run send calls).1.Keeps = Succeeded (empty.run send calls).2 :=
    funext fun k => propext (hk k)
  exact ⟨hk, hkept ▸ bind_knownStep hc⟩

end Factory

end UpnpBinding
