import UpnpBinding.Proofs.FactoryCache
import UpnpBinding.Proofs.Keyed
/-!
Bindings of several known services made at once. Each service has a task that reads the kept
definitions, may stop at the GET of its description, and keeps what it made; resumed in any
order, the tasks share the kept definitions. Whatever the order, a finished task's result is what
binding its service alone on the factory as it was would give: a definition kept before the call
is bound as it would be alone, and one kept during the call is the one made from the description
at its key, which the service alone would have fetched. So the bindings and the binding errors
are keyed by the given names, each name once, with what its own binding gives; the call fails
only with a service's own error that is not a binding error; and afterwards a definition is kept
at a service's key exactly when its binding succeeded.

Main statement: `gather_as_alone`.
-/
namespace UpnpBinding

namespace Factory

def settles : Except FactoryError Binding → Bool
  | .ok _ => true
  | .error e => e.isBindingError

def bindingOf (x : String × Except FactoryError Binding) : Option (String × Binding) :=
  match x.2 with
  | .ok b => some (x.1, b)
  | .error _ => none

def bindingErrorOf (x : String × Except FactoryError Binding) : Option (String × FactoryError) :=
  match x.2 with
  | .ok _ => none
  | .error e => if e.isBindingError then some (x.1, e) else none

/-- The bindings `bs` and binding errors `es` of the services `names`, each service's from
`result`: every name keys one of the two, once. -/
structure Partition (names : List String) (result : String → Except FactoryError Binding)
    (bs : List (String × Binding)) (es : List (String × FactoryError)) : Prop where
  bindings_nodup : (bs.map Prod.fst).Nodup
  errors_nodup : (es.map Prod.fst).Nodup
  covers : ∀ n, n ∈ names ↔ n ∈ bs.map Prod.fst ∨ n ∈ es.map Prod.fst
  disjoint : ∀ n ∈ bs.map Prod.fst, n ∉ es.map Prod.fst
  binding : ∀ n b, (n, b) ∈ bs → result n = .ok b
  error : ∀ n e, (n, e) ∈ es → result n = .error e ∧ e.isBindingError = true

theorem collect_append_singleton (rs : List (String × Except FactoryError Binding))
    (x : String × Except FactoryError Binding) :
    collect (rs ++ [x]) = (collect rs).bind fun acc =>
      match x.2 with
      | .ok b => .ok (putBy Prod.fst acc.1 (x.1, b), acc.2)
      | .error e =>
        if e.isBindingError then .ok (acc.1, putBy Prod.fst acc.2 (x.1, e)) else .error e := by
  unfold collect
  exact List.foldl_append ..

theorem collect_isOk_iff (rs : List (String × Except FactoryError Binding)) :
    (∃ a, collect rs = .ok a) ↔ ∀ x ∈ rs, settles x.2 = true := by
  induction rs using List.reverseRecOn with
  | nil => exact ⟨fun _ x hx => (List.not_mem_nil hx).elim, fun _ => ⟨_, rfl⟩⟩
  | append_singleton rs x ih =>
    have hsplit : (∀ y ∈ rs ++ [x], settles y.2 = true) ↔
        (∀ y ∈ rs, settles y.2 = true) ∧ settles x.2 = true := by
      simp only [List.mem_append, List.mem_singleton, or_imp, forall_and, forall_eq]
    rw [hsplit, collect_append_singleton]
    cases hc : collect rs with
    | error e =>
      have hnot : ¬∀ y ∈ rs, settles y.2 = true := fun hall => by
        obtain ⟨a, ha⟩ := ih.mpr hall
        rw [hc] at ha
        cases ha
      exact ⟨fun ⟨_, ha⟩ => (nomatch ha), fun h => absurd h.1 hnot⟩
    | ok acc =>
      have hall := ih.mp ⟨acc, hc⟩
      obtain ⟨n, r⟩ := x
      cases r with
      | ok b => exact ⟨fun _ => ⟨hall, rfl⟩, fun _ => ⟨_, rfl⟩⟩
      | error e =>
        -- only a binding error lets gathering go on
        cases hb : e.isBindingError
        · refine ⟨fun ⟨_, ha⟩ => ?_, fun h => ?_⟩
          · simp [Except.bind, hb] at ha
          · simpa [settles, hb] using h.2
        · exact ⟨fun _ => ⟨hall, hb⟩, fun _ => by simp [Except.bind, hb]⟩

theorem collect_of_settles {rs : List (String × Except FactoryError Binding)}
    (h : ∀ x ∈ rs, settles x.2 = true) :
    collect rs = .ok ((rs.filterMap bindingOf).foldl (putBy Prod.fst) [],
      (rs.filterMap bindingErrorOf).foldl (putBy Prod.fst) []) := by
  induction rs using List.reverseRecOn with
  | nil => rfl
  | append_singleton rs x ih =>
    have hrs : ∀ y ∈ rs, settles y.2 = true := fun y hy => h y (List.mem_append_left _ hy)
    have hx : settles x.2 = true := h x (List.mem_append_right _ (List.mem_singleton_self x))
    rw [collect_append_singleton, ih hrs, List.filterMap_append, List.filterMap_append,
      List.foldl_append, List.foldl_append]
    obtain ⟨n, r⟩ := x
    cases r with
    | ok b =>
      have hb : bindingOf (n, .ok b) = some (n, b) := rfl
      have he : bindingErrorOf (n, .ok b) = none := rfl
      simp [Except.bind, hb, he]
    | error e =>
      have he : e.isBindingError = true := hx
      have hb : bindingOf (n, .error e) = none := rfl
      have he' : bindingErrorOf (n, .error e) = some (n, e) := by simp [bindingErrorOf, he]
      simp [Except.bind, hb, he', he]

theorem collect_eq_error {rs : List (String × Except FactoryError Binding)} {e : FactoryError}
    (h : collect rs = .error e) :
    ∃ pre x post, rs = pre ++ x :: post ∧ (∀ y ∈ pre, settles y.2 = true) ∧ x.2 = .error e ∧
      e.isBindingError = false := by
  induction rs using List.reverseRecOn with
  | nil => cases h
  | append_singleton rs x ih =>
    rw [collect_append_singleton] at h
    cases hc : collect rs with
    | error e' =>
      rw [hc] at h
      cases h
      obtain ⟨pre, y, post, rfl, hpre, hy, hb⟩ := ih hc
      exact ⟨pre, y, post ++ [x], by simp, hpre, hy, hb⟩
    | ok acc =>
      rw [hc] at h
      have hall := (collect_isOk_iff rs).mp ⟨acc, hc⟩
      obtain ⟨n, r⟩ := x
      cases r with
      | ok b => cases h
      | error e' =>
        simp only [Except.bind] at h
        split at h
        · cases h
        · rename_i hb
          cases h
          exact ⟨rs, (n, .error e), [], rfl, hall, rfl, by simpa using hb⟩

section

variable {names : List String} {result : String → Except FactoryError Binding}

theorem mem_filterMap_bindingOf {n : String} {b : Binding} :
    (n, b) ∈ (names.map fun m => (m, result m)).filterMap bindingOf ↔
      n ∈ names ∧ result n = .ok b := by
  simp only [List.filterMap_map, List.mem_filterMap, Function.comp_apply, bindingOf]
  constructor
  · rintro ⟨m, hm, hb⟩
    split at hb
    · rename_i b' hr
      cases hb
      exact ⟨hm, hr⟩
    · cases hb
  · rintro ⟨hn, hr⟩
    exact ⟨n, hn, by simp [hr]⟩

theorem mem_filterMap_bindingErrorOf {n : String} {e : FactoryError} :
    (n, e) ∈ (names.map fun m => (m, result m)).filterMap bindingErrorOf ↔
      n ∈ names ∧ result n = .error e ∧ e.isBindingError = true := by
  simp only [List.filterMap_map, List.mem_filterMap, Function.comp_apply, bindingErrorOf]
  constructor
  · rintro ⟨m, hm, he⟩
    split at he
    · cases he
    · rename_i e' hr
      split at he
      · rename_i hb
        cases he
        exact ⟨hm, hr, hb⟩
      · cases he
  · rintro ⟨hn, hr, hb⟩
    exact ⟨n, hn, by simp [hr, hb]⟩

theorem collect_partition {bs : List (String × Binding)} {es : List (String × FactoryError)}
    (h : collect (names.map fun n => (n, result n)) = .ok (bs, es)) : Partition names result bs es := by
  have hall := (collect_isOk_iff _).mp ⟨_, h⟩
  rw [collect_of_settles hall, Except.ok.injEq, Prod.mk.injEq] at h
  obtain ⟨rfl, rfl⟩ := h
  -- a name keys the bindings when its result is a binding, the errors when it is a binding error
  have hbkeys : ∀ n, n ∈ (((names.map fun m => (m, result m)).filterMap bindingOf).foldl
      (putBy Prod.fst) []).map Prod.fst ↔ n ∈ names ∧ ∃ b, result n = .ok b := fun n => by
    simp only [mem_keys_foldl_putBy, mem_filterMap_bindingOf]
    exact ⟨fun ⟨b, hn, hb⟩ => ⟨hn, b, hb⟩, fun ⟨hn, b, hb⟩ => ⟨b, hn, hb⟩⟩
  have hekeys : ∀ n, n ∈ (((names.map fun m => (m, result m)).filterMap bindingErrorOf).foldl
      (putBy Prod.fst) []).map Prod.fst ↔
        n ∈ names ∧ ∃ e, result n = .error e ∧ e.isBindingError = true := fun n => by
    simp only [mem_keys_foldl_putBy, mem_filterMap_bindingErrorOf]
    exact ⟨fun ⟨e, hn, he⟩ => ⟨hn, e, he⟩, fun ⟨hn, e, he⟩ => ⟨e, hn, he⟩⟩
  refine ⟨?_, ?_, fun n => ?_, fun n hb he => ?_, fun n b hb => ?_, fun n e he => ?_⟩
  · exact nodup_keys_foldl_putBy _
  · exact nodup_keys_foldl_putBy _
  · rw [hbkeys, hekeys]
    constructor
    · intro hn
      have hsettles := hall (n, result n) (List.mem_map_of_mem hn)
      cases hr : result n with
      | ok b => exact .inl ⟨hn, b, rfl⟩
      | error e =>
        rw [hr] at hsettles
        exact .inr ⟨hn, e, rfl, hsettles⟩
    · rintro (⟨hn, -⟩ | ⟨hn, -⟩) <;> exact hn
  · obtain ⟨-, b, hrb⟩ := (hbkeys n).mp hb
    obtain ⟨-, e, hre, -⟩ := (hekeys n).mp he
    rw [hrb] at hre
    cases hre
  · exact (mem_filterMap_bindingOf.mp (mem_of_mem_foldl_putBy hb)).2
  · exact (mem_filterMap_bindingErrorOf.mp (mem_of_mem_foldl_putBy he)).2

end

/-- The factory `f` is `f₀` with definitions added at keys `f₀` did not keep, each the one made
from the description at its key. -/
def Grown (send : Requester) (f₀ f : Factory) : Prop :=
  ∃ added, f.cache = f₀.cache ++ added ∧ ∀ k d, (k, d) ∈ added → Fetches send k d ∧ ¬f₀.Keeps k

/-- The task of the service `n`, in a call on `f₀` for the device at `u`, with the factory now
`f`: not started; stopped at the GET of the description at a key `f₀` did not keep; or finished
with what binding `n` alone on `f₀` gives, its key kept when that succeeded. -/
inductive TaskOk (send : Requester) (f₀ : Factory) (u : String) (f : Factory) :
    Task → String → Prop
  | start (n : String) : TaskOk send f₀ u f (.start n) n
  | fetching {n url : String} {s : KnownService} (hr : resolve n = .ok s)
      (hurl : Url.join u (orElse "" s.scpdPath) = .ok url) (hnew : ¬f₀.Keeps (s.name, url)) :
      TaskOk send f₀ u f (.fetching n s url (fetch send url).2) n
  | finished {n : String}
      (hkept : ∀ b k, (f₀.bind send u n none).2.2 = .ok b → descriptionKey u n none = some k →
        f.Keeps k) :
      TaskOk send f₀ u f (.finished n (f₀.bind send u n none).2.2) n

section

variable {send : Requester} {f₀ f f' : Factory} {u : String}

theorem Grown.refl : Grown send f₀ f₀ :=
  ⟨[], by simp, fun _ _ h => by cases h⟩

theorem keeps_of_extends {k : String × String} (hext : ∃ more, f'.cache = f.cache ++ more)
    (h : f.Keeps k) : f'.Keeps k := by
  obtain ⟨more, hmore⟩ := hext
  obtain ⟨d, hd⟩ := h
  exact ⟨d, hmore ▸ List.mem_append_left _ hd⟩

theorem Grown.keeps (hg : Grown send f₀ f) {k : String × String} (h : f₀.Keeps k) : f.Keeps k :=
  keeps_of_extends (hg.imp fun _ h => h.1) h

theorem Grown.mem_cases (hg : Grown send f₀ f) {k : String × String} {d : ServiceDefinition}
    (h : (k, d) ∈ f.cache) : (k, d) ∈ f₀.cache ∨ (Fetches send k d ∧ ¬f₀.Keeps k) := by
  obtain ⟨added, hcache, hadded⟩ := hg
  rw [hcache] at h
  rcases List.mem_append.mp h with h₀ | hnew
  · exact .inl h₀
  · exact .inr (hadded k d hnew)

theorem Grown.consistent (hg : Grown send f₀ f) (hc : f₀.Consistent send) : f.Consistent send :=
  fun k d hmem => (hg.mem_cases hmem).elim (hc k d) And.left

theorem Grown.keeps_cases (hg : Grown send f₀ f) {k : String × String} (h : f.Keeps k) :
    f₀.Keeps k ∨ ∃ d, Fetches send k d := by
  obtain ⟨d, hd⟩ := h
  rcases hg.mem_cases hd with h₀ | ⟨hfetches, -⟩
  · exact .inl ⟨d, h₀⟩
  · exact .inr ⟨d, hfetches⟩

theorem Grown.find? (hg : Grown send f₀ f) {k k' : String × String} {d : ServiceDefinition}
    (hfind : f.cache.find? (·.1 == k) = some (k', d)) :
    f₀.cache.find? (·.1 == k) = some (k', d) ∨
      (f₀.cache.find? (·.1 == k) = none ∧ Fetches send k d) := by
  obtain ⟨added, hcache, hadded⟩ := hg
  rw [hcache, List.find?_append] at hfind
  cases h₀ : f₀.cache.find? (·.1 == k) with
  | some x =>
    rw [h₀] at hfind
    exact .inl hfind
  | none =>
    rw [h₀, Option.none_or] at hfind
    have hk : k' = k := by simpa using List.find?_some hfind
    subst hk
    exact .inr ⟨rfl, (hadded _ _ (List.mem_of_find?_eq_some hfind)).1⟩

theorem Grown.add (hg : Grown send f₀ f) {k : String × String} {d : ServiceDefinition}
    (hd : Fetches send k d) (hnew : ¬f₀.Keeps k) : Grown send f₀ ⟨f.cache ++ [(k, d)]⟩ := by
  obtain ⟨added, hcache, hadded⟩ := hg
  refine ⟨added ++ [(k, d)], by simp [hcache], fun k' d' hmem => ?_⟩
  rcases List.mem_append.mp hmem with hold | hadd
  · exact hadded k' d' hold
  · obtain ⟨rfl, rfl⟩ := Prod.mk.inj (List.mem_singleton.mp hadd)
    exact ⟨hd, hnew⟩

theorem alone_of_find? (hg : Grown send f₀ f) {n url : String} {s : KnownService}
    {k : String × String} {d : ServiceDefinition} (hr : resolve n = .ok s)
    (hurl : Url.join u (orElse "" s.scpdPath) = .ok url)
    (hfind : f.cache.find? (·.1 == (s.name, url)) = some (k, d)) :
    (f₀.bind send u n none).2.2 = bound d u := by
  rcases hg.find? hfind with h₀ | ⟨h₀, hd⟩
  · rw [bind_of_find? (p := none) hr hurl h₀]
  · rw [bind_of_fetches (p := none) hr hurl h₀ hd]

theorem TaskOk.finished_of {n : String} {r : Except FactoryError Binding}
    (hr : (f₀.bind send u n none).2.2 = r)
    (hkept : ∀ b k, r = .ok b → descriptionKey u n none = some k → f.Keeps k) :
    TaskOk send f₀ u f (.finished n r) n := by
  subst hr
  exact .finished hkept

theorem TaskOk.mono {t : Task} {n : String} (ht : TaskOk send f₀ u f t n)
    (hext : ∃ more, f'.cache = f.cache ++ more) : TaskOk send f₀ u f' t n := by
  cases ht with
  | start => exact .start n
  | fetching hr hurl hnew => exact .fetching hr hurl hnew
  | finished hkept => exact .finished fun b k hb hk => keeps_of_extends hext (hkept b k hb hk)

theorem advance_start (hg : Grown send f₀ f) (n : String) :
    Grown send f₀ ((Task.start n).advance f send u).1 ∧
      (∃ more, ((Task.start n).advance f send u).1.cache = f.cache ++ more) ∧
      TaskOk send f₀ u ((Task.start n).advance f send u).1 ((Task.start n).advance f send u).2.2 n := by
  unfold Task.advance
  dsimp only
  cases hr : resolve n with
  | error e =>
    exact ⟨hg, ⟨[], by simp⟩,
      .finished_of (by rw [bind_of_resolve_error hr]) fun _ _ hb => by cases hb⟩
  | ok s =>
    dsimp only
    cases hurl : Url.join u (orElse "" s.scpdPath) with
    | error e =>
      exact ⟨hg, ⟨[], by simp⟩,
        .finished_of (by rw [bind_of_join_error (p := none) hr hurl]) fun _ _ hb => by cases hb⟩
    | ok url =>
      dsimp only
      cases hfind : f.cache.find? (·.1 == (s.name, url)) with
      | some entry =>
        obtain ⟨k', d⟩ := entry
        refine ⟨hg, ⟨[], by simp⟩, .finished_of (alone_of_find? hg hr hurl hfind) fun _ k _ hk => ?_⟩
        rw [descriptionKey_eq (p := none) (resolve_eq_ok.mp hr) hurl] at hk
        cases hk
        exact ⟨d, (keeps_of_find? hfind).2⟩
      | none =>
        have hnew : ¬f₀.Keeps (s.name, url) := fun h => cache_find?_eq_none_iff.mp hfind (hg.keeps h)
        exact ⟨hg, ⟨[], by simp⟩, .fetching hr hurl hnew⟩

theorem advance_fetching (hg : Grown send f₀ f) {n url : String} {s : KnownService}
    (hr : resolve n = .ok s) (hurl : Url.join u (orElse "" s.scpdPath) = .ok url)
    (hnew : ¬f₀.Keeps (s.name, url)) :
    Grown send f₀ ((Task.fetching n s url (fetch send url).2).advance f send u).1 ∧
      (∃ more, ((Task.fetching n s url (fetch send url).2).advance f send u).1.cache =
        f.cache ++ more) ∧
      TaskOk send f₀ u ((Task.fetching n s url (fetch send url).2).advance f send u).1
        ((Task.fetching n s url (fetch send url).2).advance f send u).2.2 n := by
  have h₀ := cache_find?_eq_none_iff.mpr hnew
  unfold Task.advance
  dsimp only
  cases hmade : (fetch send url).2.bind fun text =>
      createDefinition (.text text) s.name none none none with
  | ok d =>
    have hd := fetched_eq_ok.mp hmade
    refine ⟨hg.add hd hnew, ⟨_, rfl⟩,
      .finished_of (by rw [bind_of_fetches (p := none) hr hurl h₀ hd]) fun _ k _ hk => ?_⟩
    rw [descriptionKey_eq (p := none) (resolve_eq_ok.mp hr) hurl] at hk
    cases hk
    exact ⟨d, List.mem_append_right _ (List.mem_singleton_self _)⟩
  | error e =>
    exact ⟨hg, ⟨[], by simp⟩,
      .finished_of (by rw [bind_of_fetch_error (p := none) hr hurl h₀ hmade]) fun _ _ hb => by cases hb⟩

theorem TaskOk.advance {t : Task} {n : String} (hg : Grown send f₀ f) (ht : TaskOk send f₀ u f t n) :
    Grown send f₀ (t.advance f send u).1 ∧ (∃ more, (t.advance f send u).1.cache = f.cache ++ more) ∧
      TaskOk send f₀ u (t.advance f send u).1 (t.advance f send u).2.2 n := by
  cases ht with
  | start n => exact advance_start hg n
  | fetching hr hurl hnew => exact advance_fetching hg hr hurl hnew
  | finished hkept => exact ⟨hg, ⟨[], by simp [Task.advance]⟩, .finished hkept⟩

theorem forall₂_getElem? {α β : Type} {R : α → β → Prop} {l : List α} {l' : List β}
    (h : List.Forall₂ R l l') {i : Nat} {a : α} (ha : l[i]? = some a) :
    ∃ b, l'[i]? = some b ∧ R a b := by
  induction h generalizing i with
  | nil => cases ha
  | cons hab _ ih =>
    cases i with
    | zero =>
      simp only [List.getElem?_cons_zero, Option.some.injEq] at ha
      subst ha
      exact ⟨_, rfl, hab⟩
    | succ i => exact ih (by simpa using ha)

theorem forall₂_set {α β : Type} {R S : α → β → Prop} {l : List α} {l' : List β}
    (h : List.Forall₂ R l l') (hRS : ∀ a b, R a b → S a b) {i : Nat} {x : α}
    (hx : ∀ b, l'[i]? = some b → S x b) : List.Forall₂ S (l.set i x) l' := by
  induction h generalizing i with
  | nil => exact .nil
  | cons hab hrest ih =>
    cases i with
    | zero => exact .cons (hx _ rfl) (hrest.imp hRS)
    | succ i => exact .cons (hRS _ _ hab) (ih fun b hb => hx b (by simpa using hb))

theorem interleave_append_singleton (f : Factory) (send : Requester) (u : String) (ts : List Task)
    (sch : List Nat) (i : Nat) :
    interleave f send u ts (sch ++ [i]) =
      let acc := interleave f send u ts sch
      match acc.2.2[i]? with
      | some t =>
        let r := t.advance acc.1 send u
        (r.1, acc.2.1 ++ r.2.1, acc.2.2.set i r.2.2)
      | none => acc := by
  unfold interleave
  exact List.foldl_append ..

theorem gather_eq (f : Factory) (send : Requester) (u : String) (names : List String)
    (sch : List Nat) :
    gather f send u names sch =
      ((interleave f send u (names.map .start) sch).2.2.mapM Task.result?).map fun rs =>
        ((interleave f send u (names.map .start) sch).1,
          (interleave f send u (names.map .start) sch).2.1, collect rs) := rfl

theorem interleave_tasks (hg : Grown send f₀ f) {ts : List Task} {names : List String}
    (hts : List.Forall₂ (TaskOk send f₀ u f) ts names) (sch : List Nat) :
    Grown send f₀ (interleave f send u ts sch).1 ∧
      List.Forall₂ (TaskOk send f₀ u (interleave f send u ts sch).1) (interleave f send u ts sch).2.2
        names := by
  -- induction on the schedule from its last index: the task resumed there takes one step, and
  -- the others, whose factory only grew, stay in order
  induction sch using List.reverseRecOn with
  | nil => exact ⟨hg, hts⟩
  | append_singleton sch i ih =>
    obtain ⟨hg', hts'⟩ := ih
    rw [interleave_append_singleton]
    dsimp only
    cases ht : (interleave f send u ts sch).2.2[i]? with
    | none => exact ⟨hg', hts'⟩
    | some t =>
      obtain ⟨n, hn, htn⟩ := forall₂_getElem? hts' ht
      obtain ⟨hg'', hext, ht'⟩ := htn.advance hg'
      refine ⟨hg'', forall₂_set hts' (fun _ _ h => h.mono hext) fun b hb => ?_⟩
      rw [hn] at hb
      cases hb
      exact ht'

theorem results_of_tasks {ts : List Task} {names : List String}
    {rs : List (String × Except FactoryError Binding)}
    (hts : List.Forall₂ (TaskOk send f₀ u f) ts names) (h : ts.mapM Task.result? = some rs) :
    rs = names.map (fun n => (n, (f₀.bind send u n none).2.2)) ∧
      ∀ n ∈ names, ∀ b k, (f₀.bind send u n none).2.2 = .ok b → descriptionKey u n none = some k →
        f.Keeps k := by
  induction hts generalizing rs with
  | nil =>
    cases h
    exact ⟨rfl, fun n hn => by cases hn⟩
  | cons ht hrest ih =>
    rw [List.mapM_cons] at h
    cases ht with
    | start => simp [Task.result?] at h
    | fetching => simp [Task.result?] at h
    | finished hkept =>
      simp only [Task.result?, Option.pure_def, Option.bind_eq_bind, Option.bind_some,
        Option.bind_eq_some_iff, Option.some.injEq] at h
      obtain ⟨rs', hrs', rfl⟩ := h
      obtain ⟨heq, hkeys⟩ := ih hrs'
      refine ⟨by rw [heq, List.map_cons], fun m hm => ?_⟩
      rcases List.mem_cons.mp hm with rfl | hm
      · exact hkept
      · exact hkeys m hm

end

theorem gather_results {send : Requester} {f : Factory} {u : String} {names : List String}
    {schedule : List Nat} {f' : Factory} {sent : List HttpRequest}
    {out : Except FactoryError (List (String × Binding) × List (String × FactoryError))}
    (h : gather f send u names schedule = some (f', sent, out)) :
    out = collect (names.map fun n => (n, (f.bind send u n none).2.2)) ∧ Grown send f f' ∧
      ∀ n ∈ names, ∀ b k, (f.bind send u n none).2.2 = .ok b → descriptionKey u n none = some k →
        f'.Keeps k := by
  have hstart : List.Forall₂ (TaskOk send f u f) (names.map .start) names :=
    List.forall₂_map_left_iff.mpr (List.forall₂_same.mpr fun n _ => .start n)
  obtain ⟨hg, hts⟩ := interleave_tasks (u := u) Grown.refl hstart schedule
  rw [gather_eq, Option.map_eq_some_iff] at h
  obtain ⟨rs, hrs, heq⟩ := h
  simp only [Prod.mk.injEq] at heq
  obtain ⟨rfl, -, rfl⟩ := heq
  obtain ⟨rfl, hkeys⟩ := results_of_tasks hts hrs
  exact ⟨rfl, hg, hkeys⟩

/-- Bindings of known services made at once, the tasks resumed in any order until all finish.
Whatever the order, the call gives what gathering each service's own binding on the factory as it
was gives: it goes through exactly when each of those is a binding or a binding error, and then
keys each name once, in the bindings or the binding errors, with its own result; it fails only
with a service's own error that is not a binding error. Afterwards a definition is kept at the key
of every service whose binding succeeded; when the kept definitions were those made from the
descriptions at their keys, they still are, and none is kept at the key of a service whose binding
failed. -/
theorem gather_as_alone {send : Requester} {f : Factory} {u : String} {names : List String}
    {schedule : List Nat} {f' : Factory} {sent : List HttpRequest}
    {out : Except FactoryError (List (String × Binding) × List (String × FactoryError))}
    (h : gather f send u names schedule = some (f', sent, out)) :
    out = collect (names.map fun n => (n, (f.bind send u n none).2.2)) ∧
      ((∃ a, out = .ok a) ↔ ∀ n ∈ names, settles (f.bind send u n none).2.2 = true) ∧
      (∀ bs es, out = .ok (bs, es) → Partition names (fun n => (f.bind send u n none).2.2) bs es) ∧
      (∀ e, out = .error e →
        ∃ n ∈ names, (f.bind send u n none).2.2 = .error e ∧ e.isBindingError = false) ∧
      (∀ n ∈ names, ∀ b k, (f.bind send u n none).2.2 = .ok b → descriptionKey u n none = some k →
        f'.Keeps k) ∧
      (f.Consistent send → f'.Consistent send ∧
        ∀ n ∈ names, ∀ k, descriptionKey u n none = some k → f'.Keeps k →
          ∃ b, (f.bind send u n none).2.2 = .ok b) := by
  obtain ⟨rfl, hg, hkeys⟩ := gather_results h
  refine ⟨rfl, ?_, fun bs es hok => collect_partition hok, fun e herr => ?_, hkeys,
    fun hc => ⟨hg.consistent hc, fun n _ k hk hkept => ?_⟩⟩
  · rw [collect_isOk_iff, List.forall_mem_map]
  · obtain ⟨pre, x, post, hsplit, -, hx, hb⟩ := collect_eq_error herr
    have hmem : x ∈ names.map fun n => (n, (f.bind send u n none).2.2) := by
      rw [hsplit]
      exact List.mem_append_right _ List.mem_cons_self
    obtain ⟨n, hn, rfl⟩ := List.mem_map.mp hmem
    exact ⟨n, hn, hx, hb⟩
  · -- a key kept afterwards was kept before or holds what its description gives
    exact (bind_succeeds_iff hc hk).mpr (hg.keeps_cases hkept)

theorem bind_grown {f₀ f : Factory} {send : Requester} {u : String} (hg : Grown send f₀ f)
    (n : String) :
    (f.bind send u n none).2.2 = (f₀.bind send u n none).2.2 ∧
      Grown send f₀ (f.bind send u n none).1 := by
  cases hr : resolve n with
  | error e =>
    rw [bind_of_resolve_error hr, bind_of_resolve_error hr]
    exact ⟨rfl, hg⟩
  | ok s =>
    cases hurl : Url.join u (orElse "" s.scpdPath) with
    | error e =>
      rw [bind_of_join_error (p := none) hr hurl, bind_of_join_error (p := none) hr hurl]
      exact ⟨rfl, hg⟩
    | ok url =>
      cases hfind : f.cache.find? (·.1 == (s.name, url)) with
      | some entry =>
        obtain ⟨k, d⟩ := entry
        rw [bind_of_find? (p := none) hr hurl hfind, alone_of_find? hg hr hurl hfind]
        exact ⟨rfl, hg⟩
      | none =>
        -- neither factory keeps the key: both fetch the same description
        have hnew : ¬f₀.Keeps (s.name, url) := fun h => cache_find?_eq_none_iff.mp hfind (hg.keeps h)
        have h₀ := cache_find?_eq_none_iff.mpr hnew
        cases hmade : (fetch send url).2.bind fun text =>
            createDefinition (.text text) s.name none none none with
        | ok d =>
          have hd := fetched_eq_ok.mp hmade
          rw [bind_of_fetches (p := none) hr hurl hfind hd, bind_of_fetches (p := none) hr hurl h₀ hd]
          exact ⟨rfl, hg.add hd hnew⟩
        | error e =>
          rw [bind_of_fetch_error (p := none) hr hurl hfind hmade,
            bind_of_fetch_error (p := none) hr hurl h₀ hmade]
          exact ⟨rfl, hg⟩

theorem bindAll_eq (f : Factory) (send : Requester) (u : String) (names : List String) :
    bindAll f send u names =
      let acc := names.foldl (fun acc n =>
        ((acc.1.bind send u n none).1, acc.2.1 ++ (acc.1.bind send u n none).2.1,
          acc.2.2 ++ [(n, (acc.1.bind send u n none).2.2)])) (f, [], [])
      (acc.1, acc.2.1, collect acc.2.2) := rfl

theorem bindAll_as_alone (f : Factory) (send : Requester) (u : String) (names : List String) :
    (bindAll f send u names).2.2 = collect (names.map fun n => (n, (f.bind send u n none).2.2)) := by
  rw [bindAll_eq]
  dsimp only
  congr 1
  -- the calls so far leave the factory grown from `f` and each result what its name alone gives
  suffices h : ∀ pre : List String,
      let acc := pre.foldl (fun acc n =>
        ((acc.1.bind send u n none).1, acc.2.1 ++ (acc.1.bind send u n none).2.1,
          acc.2.2 ++ [(n, (acc.1.bind send u n none).2.2)])) (f, [], [])
      Grown send f acc.1 ∧ acc.2.2 = pre.map fun n => (n, (f.bind send u n none).2.2) from
    (h names).2
  intro pre
  induction pre using List.reverseRecOn with
  | nil => exact ⟨Grown.refl, rfl⟩
  | append_singleton pre n ih =>
    obtain ⟨hg, hresults⟩ := ih
    rw [List.foldl_append, List.foldl_cons, List.foldl_nil]
    obtain ⟨hsame, hg'⟩ := bind_grown hg n
    exact ⟨hg', by rw [hresults, hsame, List.map_append, List.map_singleton]⟩

theorem gather_agrees_with_bindAll {send : Requester} {f : Factory} {u : String}
    {names : List String} {schedule : List Nat} {f' : Factory} {sent : List HttpRequest}
    {out : Except FactoryError (List (String × Binding) × List (String × FactoryError))}
    (h : gather f send u names schedule = some (f', sent, out)) :
    out = (bindAll f send u names).2.2 := by
  rw [bindAll_as_alone]
  exact (gather_results h).1

def refusingDevice : Requester := fun _ => .ok ⟨404, [], ""⟩

/-- `AlarmClock` under two spellings, bound at once on a new factory against a device that
answers 404, both tasks stopped at the GET before either is resumed: each name is keyed once among
the binding errors, with what its own binding gives. -/
theorem gather_alarmClock_twice_refused :
    gather empty refusingDevice "" ["AlarmClock", "alarmclock"] [0, 1, 1, 0] =
        some (empty, [⟨"GET", "/xml/AlarmClock1.xml", [], none⟩,
            ⟨"GET", "/xml/AlarmClock1.xml", [], none⟩],
          .ok ([], [("AlarmClock", .status 404), ("alarmclock", .status 404)])) ∧
      Partition ["AlarmClock", "alarmclock"] (fun n => (empty.bind refusingDevice "" n none).2.2) []
        [("AlarmClock", .status 404), ("alarmclock", .status 404)] := by
  have hg : gather empty refusingDevice "" ["AlarmClock", "alarmclock"] [0, 1, 1, 0] =
      some (empty, [⟨"GET", "/xml/AlarmClock1.xml", [], none⟩,
          ⟨"GET", "/xml/AlarmClock1.xml", [], none⟩],
        .ok ([], [("AlarmClock", .status 404), ("alarmclock", .status 404)])) := rfl
  exact ⟨hg, (gather_as_alone hg).2.2.1 _ _ rfl⟩

end Factory

end UpnpBinding
