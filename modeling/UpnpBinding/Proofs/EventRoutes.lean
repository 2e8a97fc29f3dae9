import UpnpBinding.Client.EventRouter
import UpnpBinding.Proofs.Keyed
/-!
What a run of registrations leaves the event router routing. Bindings are known by number, and
each has a fixed event URL; a binding is registered under the path of that URL, and a call
whose URL does not split changes nothing.

Looking a target up finds the binding whose registration under the target's path is the latest,
unless that binding has been unregistered since. Unregistering a binding that another one has
replaced under its path removes nothing, so a replaced binding never evicts its successor. A
binding is found again from its own event URL, and from its path whenever that path, split
again, is itself. A path that starts with `//` is not: splitting reads its first segment as a
network location, so the binding registered under it cannot be found from it.
-/
namespace UpnpBinding.EventRouter

def routeOf (r : EventRouter) (path : String) : Option Nat :=
  (r.routes.find? (·.1 == path)).map Prod.snd

theorem bindingFor_eq (r : EventRouter) (target : String) :
    r.bindingFor target = (Url.pathOf target).map r.routeOf := by
  unfold bindingFor routeOf
  cases Url.pathOf target <;> rfl

def Call.id : Call → Nat
  | .register id => id
  | .unregister id => id

theorem run_append_singleton (eventUrl : Nat → String) (calls : List Call) (c : Call) :
    run eventUrl (calls ++ [c]) = apply eventUrl (run eventUrl calls) c :=
  List.foldl_append ..

section

variable (eventUrl : Nat → String)

structure Keyed (r : EventRouter) : Prop where
  nodup : (r.routes.map Prod.fst).Nodup
  own : ∀ e ∈ r.routes, Url.pathOf (eventUrl e.2) = .ok e.1

/-- Among `calls`, binding `id` has the latest registration under `path`, and it has not been
unregistered since. -/
def Latest (calls : List Call) (path : String) (id : Nat) : Prop :=
  ∃ before after, calls = before ++ .register id :: after ∧
    Url.pathOf (eventUrl id) = .ok path ∧
    (∀ j, .register j ∈ after → Url.pathOf (eventUrl j) ≠ .ok path) ∧ .unregister id ∉ after

variable {eventUrl}

theorem apply_of_error {r : EventRouter} {c : Call} {e : UrlError}
    (h : Url.pathOf (eventUrl c.id) = .error e) : apply eventUrl r c = r := by
  cases c with
  | register id => simp only [Call.id, apply, register, bind, Except.bind, h] at h ⊢
  | unregister id => simp only [Call.id, apply, unregister, bind, Except.bind, h] at h ⊢

theorem apply_register {r : EventRouter} {id : Nat} {path : String}
    (h : Url.pathOf (eventUrl id) = .ok path) :
    (apply eventUrl r (.register id)).routes = putBy Prod.fst r.routes (path, id) := by
  simp only [apply, register, bind, Except.bind, h, pure, Except.pure, List.any_eq_true, beq_iff_eq,
    Prod.exists, exists_and_right, exists_eq_right, putBy]

theorem apply_unregister {r : EventRouter} {id : Nat} {path : String}
    (h : Url.pathOf (eventUrl id) = .ok path) :
    (apply eventUrl r (.unregister id)).routes =
      r.routes.filter (fun e => !(e.1 == path && e.2 == id)) := by
  simp only [apply, unregister, bind, Except.bind, h, pure, Except.pure, Bool.not_and]

theorem routeOf_register {r : EventRouter} {id : Nat} {path : String}
    (h : Url.pathOf (eventUrl id) = .ok path) (p : String) :
    (apply eventUrl r (.register id)).routeOf p = if path = p then some id else r.routeOf p := by
  unfold routeOf
  rw [apply_register h, find?_putBy]
  split <;> rfl

theorem routeOf_unregister {r : EventRouter} (hk : Keyed eventUrl r) {id : Nat} {path : String}
    (h : Url.pathOf (eventUrl id) = .ok path) (p : String) :
    (apply eventUrl r (.unregister id)).routeOf p =
      if path = p ∧ r.routeOf p = some id then none else r.routeOf p := by
  unfold routeOf
  rw [apply_unregister h, List.find?_filter]
  by_cases hp : path = p
  · -- under the binding's own path the search also asks for another binding
    subst hp
    have hsame : r.routes.find? (fun e => decide ((!(e.1 == path && e.2 == id)) = true ∧
        (e.1 == path) = true)) = r.routes.find? (fun e => e.1 == path && e.2 != id) := by
      congr 1
      funext e
      by_cases he : e.1 = path <;> by_cases hid : e.2 = id <;> simp [he, hid]
    rw [hsame, find?_and_of_nodup (fun e => e.2 != id) path hk.nodup]
    cases hf : r.routes.find? (·.1 == path) with
    | none => simp
    | some e => by_cases he : e.2 = id <;> simp [Option.filter, he]
  · have hsame : r.routes.find? (fun e => decide ((!(e.1 == path && e.2 == id)) = true ∧
        (e.1 == p) = true)) = r.routes.find? (·.1 == p) := by
      congr 1
      funext e
      by_cases he : e.1 = p
      · simp [he, Ne.symm hp]
      · simp [he]
    rw [hsame, if_neg fun h => hp h.1]

theorem pathOf_of_routeOf {r : EventRouter} (hk : Keyed eventUrl r) {p : String} {id : Nat}
    (h : r.routeOf p = some id) : Url.pathOf (eventUrl id) = .ok p := by
  obtain ⟨e, he, rfl⟩ := Option.map_eq_some_iff.mp h
  have hp : e.1 = p := by simpa using List.find?_some he
  exact hp ▸ hk.own e (List.mem_of_find?_eq_some he)

theorem Keyed.apply {r : EventRouter} (hk : Keyed eventUrl r) (c : Call) :
    Keyed eventUrl (apply eventUrl r c) := by
  cases hp : Url.pathOf (eventUrl c.id) with
  | error e => rwa [apply_of_error hp]
  | ok path =>
    cases c with
    | register id =>
      rw [Call.id] at hp
      constructor
      · rw [apply_register hp, keys_putBy]
        split
        · exact hk.nodup
        · rename_i hnew
          exact List.nodup_append.mpr ⟨hk.nodup, List.pairwise_singleton _ _,
            fun a ha b hb => by rw [List.mem_singleton.mp hb]; rintro rfl; exact hnew ha⟩
      · intro e he
        rw [apply_register hp] at he
        rcases mem_putBy he with rfl | ⟨he, -⟩
        · exact hp
        · exact hk.own e he
    | unregister id =>
      rw [Call.id] at hp
      constructor
      · rw [apply_unregister hp]
        exact hk.nodup.sublist (List.filter_sublist.map _)
      · intro e he
        rw [apply_unregister hp] at he
        exact hk.own e (List.mem_filter.mp he).1

theorem keyed_run (calls : List Call) : Keyed eventUrl (run eventUrl calls) := by
  induction calls using List.reverseRecOn with
  | nil => exact ⟨List.nodup_nil, fun _ h => nomatch h⟩
  | append_singleton calls c ih =>
    rw [run_append_singleton]
    exact ih.apply c

theorem latest_append_singleton {calls : List Call} {c : Call} {p : String} {id : Nat} :
    Latest eventUrl (calls ++ [c]) p id ↔
      (c = .register id ∧ Url.pathOf (eventUrl id) = .ok p) ∨
      (Latest eventUrl calls p id ∧ c ≠ .unregister id ∧
        ∀ j, c = .register j → Url.pathOf (eventUrl j) ≠ .ok p) := by
  constructor
  · rintro ⟨before, after, heq, hp, hreg, hun⟩
    rcases List.eq_nil_or_concat after with rfl | ⟨after, x, rfl⟩
    · -- the call is the registration itself
      obtain ⟨-, rfl⟩ := List.append_singleton_inj.mp heq
      exact .inl ⟨rfl, hp⟩
    · -- the call comes after the registration
      rw [List.concat_eq_append, ← List.cons_append, ← List.append_assoc] at heq
      obtain ⟨rfl, rfl⟩ := List.append_singleton_inj.mp heq
      refine .inr ⟨⟨before, after, rfl, hp, fun j hj => hreg j (by simp [hj]),
        fun h => hun (by simp [h])⟩, fun h => hun (by simp [h]), ?_⟩
      rintro j rfl
      exact hreg j (by simp)
  · rintro (⟨rfl, hp⟩ | ⟨⟨before, after, rfl, hp, hreg, hun⟩, hc, hcreg⟩)
    · exact ⟨calls, [], rfl, hp, by simp, by simp⟩
    · refine ⟨before, after ++ [c], by simp, hp, fun j hj => ?_, fun h => ?_⟩
      · rcases List.mem_append.mp hj with hj | hj
        · exact hreg j hj
        · exact hcreg j (List.mem_singleton.mp hj).symm
      · rcases List.mem_append.mp h with h | h
        · exact hun h
        · exact hc (List.mem_singleton.mp h).symm

theorem latest_append_register {calls : List Call} {j : Nat} {p : String} {id : Nat} :
    Latest eventUrl (calls ++ [.register j]) p id ↔
      (j = id ∧ Url.pathOf (eventUrl id) = .ok p) ∨
      (Latest eventUrl calls p id ∧ Url.pathOf (eventUrl j) ≠ .ok p) := by
  rw [latest_append_singleton]
  simp only [Call.register.injEq, ne_eq, reduceCtorEq, not_false_eq_true, true_and]
  constructor
  · rintro (h | ⟨h, hj⟩)
    · exact .inl h
    · exact .inr ⟨h, hj j rfl⟩
  · rintro (h | ⟨h, hj⟩)
    · exact .inl h
    · exact .inr ⟨h, by rintro k rfl; exact hj⟩

theorem latest_append_unregister {calls : List Call} {j : Nat} {p : String} {id : Nat} :
    Latest eventUrl (calls ++ [.unregister j]) p id ↔ Latest eventUrl calls p id ∧ j ≠ id := by
  rw [latest_append_singleton]
  simp [Call.unregister.injEq]

theorem routeOf_apply_register {r : EventRouter} (j : Nat) (p : String) (id : Nat) :
    (apply eventUrl r (.register j)).routeOf p = some id ↔
      (j = id ∧ Url.pathOf (eventUrl id) = .ok p) ∨
      (r.routeOf p = some id ∧ Url.pathOf (eventUrl j) ≠ .ok p) := by
  cases hp : Url.pathOf (eventUrl j) with
  | error e =>
    -- the call raised, and `j` has no path to be registered under
    rw [apply_of_error (c := .register j) hp]
    constructor
    · intro h
      exact .inr ⟨h, by simp⟩
    · rintro (⟨rfl, h⟩ | ⟨h, -⟩)
      · simp [hp] at h
      · exact h
  | ok path =>
    rw [routeOf_register hp]
    by_cases hpp : path = p
    · subst hpp
      rw [if_pos rfl, Option.some.injEq]
      constructor
      · rintro rfl
        exact .inl ⟨rfl, hp⟩
      · rintro (⟨rfl, -⟩ | ⟨-, h⟩)
        · rfl
        · exact absurd rfl h
    · rw [if_neg hpp]
      constructor
      · intro h
        exact .inr ⟨h, by simp [hpp]⟩
      · rintro (⟨rfl, h⟩ | ⟨h, -⟩)
        · rw [hp] at h
          exact absurd (Except.ok.inj h) hpp
        · exact h

theorem routeOf_apply_unregister {r : EventRouter} (hk : Keyed eventUrl r) (j : Nat) (p : String)
    (id : Nat) :
    (apply eventUrl r (.unregister j)).routeOf p = some id ↔ r.routeOf p = some id ∧ j ≠ id := by
  cases hp : Url.pathOf (eventUrl j) with
  | error e =>
    -- the call raised; a binding registered under a path has a path, so it is not `j`
    rw [apply_of_error (c := .unregister j) hp]
    refine ⟨fun h => ⟨h, ?_⟩, fun h => h.1⟩
    rintro rfl
    have hown := pathOf_of_routeOf hk h
    rw [hp] at hown
    cases hown
  | ok path =>
    rw [routeOf_unregister hk hp]
    by_cases hgone : path = p ∧ r.routeOf p = some j
    · -- the binding unregistered was the one there: nothing is left under the path
      rw [if_pos hgone, hgone.2]
      simp only [reduceCtorEq, Option.some.injEq, false_iff, not_and, not_not]
      exact fun h => h
    · rw [if_neg hgone]
      refine ⟨fun h => ⟨h, ?_⟩, fun h => h.1⟩
      rintro rfl
      -- the binding found under `p` is registered under the path of its own URL
      have hown := pathOf_of_routeOf hk h
      rw [hp] at hown
      exact hgone ⟨Except.ok.inj hown, h⟩

theorem routeOf_run (calls : List Call) (p : String) (id : Nat) :
    (run eventUrl calls).routeOf p = some id ↔ Latest eventUrl calls p id := by
  induction calls using List.reverseRecOn generalizing id with
  | nil =>
    simp only [run, List.foldl_nil, routeOf, empty, List.find?_nil, Option.map_none,
      reduceCtorEq, false_iff]
    rintro ⟨before, after, h, -⟩
    simp at h
  | append_singleton calls c ih =>
    -- each call changes the router as it changes which registration is the latest
    rw [run_append_singleton]
    cases c with
    | register j => rw [routeOf_apply_register, latest_append_register, ih]
    | unregister j => rw [routeOf_apply_unregister (keyed_run calls), latest_append_unregister, ih]

theorem unregister_of_replaced {r : EventRouter} (hk : Keyed eventUrl r) {id : Nat}
    {path : String} (hp : Url.pathOf (eventUrl id) = .ok path) (hr : r.routeOf path ≠ some id) :
    r.unregister (eventUrl id) id = .ok r := by
  have hkeep : r.routes.filter (fun e => !(e.1 == path && e.2 == id)) = r.routes := by
    refine List.filter_eq_self.mpr fun e he => ?_
    simp only [Bool.not_eq_eq_eq_not, Bool.not_true, Bool.and_eq_false_imp, beq_iff_eq]
    rintro rfl
    -- an entry under the path is the one found there
    have hfound : r.routes.find? (·.1 == e.1) = some e := find?_key_of_nodup hk.nodup he
    rw [beq_eq_false_iff_ne]
    intro hid
    exact hr (by simp [routeOf, hfound, hid])
  simp only [unregister, hp, bind, Except.bind, pure, Except.pure, hkeep]

end

/-- The event router after any registrations and unregistrations: a target is routed to the
binding whose registration under the target's path is the latest, unless that binding has been
unregistered since, and to none when there is no such binding. Unregistering a binding that is
not the one routed to from its own event URL changes nothing. A binding that is routed to under
its path is found from its event URL, and from its path when that path splits back to itself. -/
theorem routes_follow_latest_registration (eventUrl : Nat → String) (calls : List Call) :
    (∀ target id, (run eventUrl calls).bindingFor target = .ok (some id) ↔
      ∃ path, Url.pathOf target = .ok path ∧ Latest eventUrl calls path id) ∧
    (∀ target, (run eventUrl calls).bindingFor target = .ok none ↔
      ∃ path, Url.pathOf target = .ok path ∧ ∀ id, ¬ Latest eventUrl calls path id) ∧
    (∀ id r', (run eventUrl calls).unregister (eventUrl id) id = .ok r' →
      (run eventUrl calls).bindingFor (eventUrl id) ≠ .ok (some id) → r' = run eventUrl calls) ∧
    (∀ id path, Latest eventUrl calls path id →
      (run eventUrl calls).bindingFor (eventUrl id) = .ok (some id) ∧
      (Url.pathOf path = .ok path → (run eventUrl calls).bindingFor path = .ok (some id))) := by
  have hk : Keyed eventUrl (run eventUrl calls) := keyed_run calls
  refine ⟨fun target id => ?_, fun target => ?_, fun id r' hu hnot => ?_, fun id path hl => ?_⟩
  · rw [bindingFor_eq]
    cases Url.pathOf target with
    | error e => simp [Except.map]
    | ok path => simp [Except.map, routeOf_run]
  · rw [bindingFor_eq]
    cases Url.pathOf target with
    | error e => simp [Except.map]
    | ok path =>
      simp only [Except.map, Except.ok.injEq, exists_eq_left']
      constructor
      · intro h id hl
        rw [(routeOf_run calls path id).mpr hl] at h
        cases h
      · intro h
        cases hr : (run eventUrl calls).routeOf path with
        | none => rfl
        | some id => exact absurd ((routeOf_run calls path id).mp hr) (h id)
  · cases hp : Url.pathOf (eventUrl id) with
    | error e => simp [unregister, hp, bind, Except.bind] at hu
    | ok path =>
      have hr : (run eventUrl calls).routeOf path ≠ some id := by
        intro h
        apply hnot
        simp [bindingFor_eq, hp, Except.map, h]
      rw [unregister_of_replaced hk hp hr] at hu
      exact (Except.ok.inj hu).symm
  · have hr := (routeOf_run calls path id).mpr hl
    obtain ⟨-, -, -, hp, -⟩ := hl
    refine ⟨by simp [bindingFor_eq, hp, Except.map, hr], fun hpath => ?_⟩
    simp [bindingFor_eq, hpath, Except.map, hr]

/-- A device at `http://sonos:1400/` with the event path `/.//Event` gets the event URL
`http://sonos:1400//Event`, whose path is `//Event`. The binding registered under it is found
from the URL, but not from the path: split again, `//Event` reads as the network location
`Event` with an empty path. -/
theorem doubled_slash_path_not_routed :
    Latest (fun _ => "http://sonos:1400//Event") [.register 0] "//Event" 0 ∧
    (run (fun _ => "http://sonos:1400//Event") [.register 0]).bindingFor
      "http://sonos:1400//Event" = .ok (some 0) ∧
    (run (fun _ => "http://sonos:1400//Event") [.register 0]).bindingFor "//Event" = .ok none := by
  have hpath : Url.pathOf "http://sonos:1400//Event" = .ok "//Event" := by rfl
  have hlatest : Latest (fun _ => "http://sonos:1400//Event") [.register 0] "//Event" 0 :=
    ⟨[], [], rfl, hpath, by simp, by simp⟩
  have hroutes := routes_follow_latest_registration (fun _ => "http://sonos:1400//Event")
    [.register 0]
  refine ⟨hlatest, (hroutes.2.2.2 0 "//Event" hlatest).1, (hroutes.2.1 "//Event").mpr ?_⟩
  refine ⟨"", by rfl, fun id hid => ?_⟩
  -- every binding has the path `//Event`, never the empty one
  obtain ⟨-, -, -, hp, -⟩ := hid
  rw [hpath] at hp
  exact absurd (Except.ok.inj hp) (by decide)

end UpnpBinding.EventRouter
