import Mathlib.Data.List.Forall2
/-!
Lists walked in the `Except` monad. A walk that succeeds relates each item to what it gave, in
order; a walk that fails failed at one of its items. These are the facts the proofs about
reading, binding and defining services take their monadic loops apart with.
-/
namespace UpnpBinding

theorem Except.bind_eq_ok {x : Except ε α} {f : α → Except ε β} {b : β} :
    x >>= f = .ok b ↔ ∃ a, x = .ok a ∧ f a = .ok b := by
  cases x <;> simp [bind, Except.bind]

theorem exists_of_forall₂_of_mem {R : α → β → Prop} {xs : List α} {ys : List β}
    (h : List.Forall₂ R xs ys) {x : α} (hx : x ∈ xs) : ∃ y ∈ ys, R x y := by
  induction h with
  | nil => cases hx
  | cons hr _ ih =>
    rcases List.mem_cons.mp hx with rfl | hx
    · exact ⟨_, List.mem_cons_self, hr⟩
    · obtain ⟨y, hy, hxy⟩ := ih hx
      exact ⟨y, List.mem_cons_of_mem _ hy, hxy⟩

theorem exists_of_forall₂_of_mem_right {R : α → β → Prop} {xs : List α} {ys : List β}
    (h : List.Forall₂ R xs ys) {y : β} (hy : y ∈ ys) : ∃ x ∈ xs, R x y := by
  induction h with
  | nil => cases hy
  | cons hr _ ih =>
    rcases List.mem_cons.mp hy with rfl | hy
    · exact ⟨_, List.mem_cons_self, hr⟩
    · obtain ⟨x, hx, hr⟩ := ih hy
      exact ⟨x, List.mem_cons_of_mem _ hx, hr⟩

theorem map_eq_map_of_forall₂ {R : α → β → Prop} {g : α → γ} {f : β → γ} {xs : List α}
    {ys : List β} (h : List.Forall₂ R xs ys) (hf : ∀ x y, R x y → g x = f y) :
    ys.map f = xs.map g := by
  induction h with
  | nil => rfl
  | cons hr _ ih => simp [hf _ _ hr, ih]

theorem exists_find?_of_forall₂ {R : α → β → Prop} {p : α → Bool} {q : β → Bool} {xs : List α}
    {ys : List β} (h : List.Forall₂ R xs ys) (hpq : ∀ x y, R x y → p x = q y) {y : β}
    (hy : ys.find? q = some y) : ∃ x, xs.find? p = some x ∧ R x y := by
  induction h with
  | nil => cases hy
  | @cons x y' xs ys hr _ ih =>
    rw [List.find?_cons] at hy
    rw [List.find?_cons, hpq x y' hr]
    cases hq : q y' with
    | true =>
      simp only [hq, Option.some.injEq] at hy
      exact ⟨x, rfl, hy ▸ hr⟩
    | false =>
      simp only [hq] at hy
      exact ih hy

theorem mapM_eq_ok_iff {f : α → Except ε β} {xs : List α} {ys : List β} :
    xs.mapM f = .ok ys ↔ List.Forall₂ (fun x y => f x = .ok y) xs ys := by
  induction xs generalizing ys with
  | nil =>
    cases ys with
    | nil => simp [pure, Except.pure]
    | cons y ys => simp [pure, Except.pure]
  | cons x xs ih =>
    rw [List.mapM_cons]
    cases hx : f x with
    | error e =>
      cases ys with
      | nil => simp [bind, Except.bind]
      | cons y ys => simp [bind, Except.bind, hx]
    | ok y' =>
      cases hr : xs.mapM f with
      | error e =>
        simp only [bind, Except.bind, reduceCtorEq, false_iff]
        intro h
        cases h with
        | cons _ htail => exact absurd (ih.mpr htail) (by simp [hr])
      | ok r =>
        have hrel := ih.mp hr
        simp only [bind, Except.bind, pure, Except.pure, Except.ok.injEq]
        constructor
        · rintro rfl
          exact .cons hx hrel
        · intro h
          cases h with
          | cons hy htail =>
            rw [hx] at hy
            cases hy
            have same := hr.symm.trans (ih.mpr htail)
            cases same
            rfl

theorem exists_mapM_eq_ok_iff {f : α → Except ε β} {xs : List α} :
    (∃ ys, xs.mapM f = .ok ys) ↔ ∀ x ∈ xs, ∃ y, f x = .ok y := by
  induction xs with
  | nil => simp [pure, Except.pure]
  | cons x xs ih =>
    constructor
    · rintro ⟨ys, h⟩
      cases mapM_eq_ok_iff.mp h with
      | cons hx htail =>
        intro z hz
        rcases List.mem_cons.mp hz with rfl | hz
        · exact ⟨_, hx⟩
        · exact ih.mp ⟨_, mapM_eq_ok_iff.mpr htail⟩ z hz
    · intro h
      obtain ⟨y, hy⟩ := h x List.mem_cons_self
      obtain ⟨ys, hys⟩ := ih.mpr fun z hz => h z (List.mem_cons_of_mem x hz)
      exact ⟨y :: ys, mapM_eq_ok_iff.mpr (.cons hy (mapM_eq_ok_iff.mp hys))⟩

theorem mapM_eq_error_iff {f : α → Except ε β} {xs : List α} {e : ε} :
    xs.mapM f = .error e ↔
      ∃ pre x post, xs = pre ++ x :: post ∧ (∀ y ∈ pre, ∃ z, f y = .ok z) ∧ f x = .error e := by
  induction xs with
  | nil => simp [pure, Except.pure]
  | cons x xs ih =>
    rw [List.mapM_cons]
    cases hx : f x with
    | error e' =>
      simp only [bind, Except.bind, Except.error.injEq]
      constructor
      · rintro rfl
        exact ⟨[], x, xs, rfl, by simp, hx⟩
      · rintro ⟨pre, y, post, hsplit, hpre, hy⟩
        cases pre with
        | nil =>
          obtain ⟨rfl, -⟩ := List.cons.inj hsplit
          rw [hx] at hy
          exact Except.error.inj hy
        | cons p pre =>
          obtain ⟨rfl, -⟩ := List.cons.inj hsplit
          obtain ⟨z, hz⟩ := hpre _ List.mem_cons_self
          rw [hx] at hz
          cases hz
    | ok z =>
      -- the head gave a result, so the walk fails exactly where the walk of the tail does
      have htail : (xs.mapM f >>= fun bs => pure (z :: bs)) = .error e ↔ xs.mapM f = .error e := by
        cases xs.mapM f <;> simp [bind, Except.bind, pure, Except.pure]
      simp only [bind, Except.bind] at htail ⊢
      rw [htail, ih]
      constructor
      · rintro ⟨pre, y, post, rfl, hpre, hy⟩
        refine ⟨x :: pre, y, post, rfl, fun w hw => ?_, hy⟩
        rcases List.mem_cons.mp hw with rfl | hw
        · exact ⟨z, hx⟩
        · exact hpre w hw
      · rintro ⟨pre, y, post, hsplit, hpre, hy⟩
        cases pre with
        | nil =>
          obtain ⟨rfl, -⟩ := List.cons.inj hsplit
          rw [hx] at hy
          cases hy
        | cons p pre =>
          obtain ⟨-, rfl⟩ := List.cons.inj hsplit
          exact ⟨pre, y, post, rfl, fun w hw => hpre w (List.mem_cons_of_mem _ hw), hy⟩

theorem exists_forall₂_of_forall {f : α → Except ε β} {xs : List α}
    (h : ∀ x ∈ xs, ∃ y, f x = .ok y) : ∃ ys, List.Forall₂ (fun x y => f x = .ok y) xs ys := by
  obtain ⟨ys, hys⟩ := exists_mapM_eq_ok_iff.mpr h
  exact ⟨ys, mapM_eq_ok_iff.mp hys⟩

theorem exists_of_filterMapM_eq_error {f : α → Except ε (Option β)} {xs : List α} {e : ε}
    (h : xs.filterMapM f = .error e) : ∃ x ∈ xs, f x = .error e := by
  induction xs with
  | nil => cases h
  | cons x xs ih =>
    rw [List.filterMapM_cons] at h
    cases hx : f x with
    | error e' =>
      rw [hx] at h
      cases h
      exact ⟨x, List.mem_cons_self, hx⟩
    | ok o =>
      rw [hx] at h
      cases o with
      | none =>
        obtain ⟨y, hy, hfy⟩ := ih h
        exact ⟨y, List.mem_cons_of_mem x hy, hfy⟩
      | some v =>
        cases hr : xs.filterMapM f with
        | error e' =>
          rw [hr] at h
          cases h
          obtain ⟨y, hy, hfy⟩ := ih hr
          exact ⟨y, List.mem_cons_of_mem x hy, hfy⟩
        | ok r => rw [hr] at h; cases h

theorem filterMapM_eq_ok_of_forall {f : α → Except ε (Option β)} {xs : List α}
    (h : ∀ x ∈ xs, ∃ o, f x = .ok o) :
    xs.filterMapM f = .ok (xs.filterMap fun x => (f x).toOption.join) := by
  induction xs with
  | nil => rfl
  | cons x xs ih =>
    obtain ⟨o, hx⟩ := h x List.mem_cons_self
    have hrest := ih fun y hy => h y (List.mem_cons_of_mem x hy)
    rw [List.filterMapM_cons, List.filterMap_cons, hx]
    cases o with
    | none => exact hrest
    | some y =>
      simp only [bind, Except.bind, hrest, pure, Except.pure]
      rfl

theorem exists_filterMapM_eq_error {f : α → Except ε (Option β)} {xs : List α} {x : α} {e : ε}
    (hx : x ∈ xs) (he : f x = .error e) : ∃ e', xs.filterMapM f = .error e' := by
  induction xs with
  | nil => cases hx
  | cons y xs ih =>
    rw [List.filterMapM_cons]
    rcases List.mem_cons.mp hx with rfl | hx
    · exact ⟨e, by rw [he]; rfl⟩
    · cases hy : f y with
      | error e' => exact ⟨e', rfl⟩
      | ok o =>
        obtain ⟨e', he'⟩ := ih hx
        cases o with
        | none => exact ⟨e', he'⟩
        | some z => exact ⟨e', by simp only [bind, Except.bind, he']⟩

theorem all_toBool_of_filterMapM_eq_error {f : α → Except ε (Option β)} {xs : List α} {e : ε}
    (h : xs.filterMapM f = .error e) : (xs.map f).all Except.toBool = false := by
  obtain ⟨x, hx, he⟩ := exists_of_filterMapM_eq_error h
  rw [Bool.eq_false_iff]
  intro hall
  have hok := List.all_eq_true.mp hall (f x) (List.mem_map_of_mem hx)
  rw [he] at hok
  cases hok

theorem filterMapM_congr {f g : α → Except ε (Option β)} {xs : List α}
    (h : ∀ x ∈ xs, f x = g x) : xs.filterMapM f = xs.filterMapM g := by
  induction xs with
  | nil => rfl
  | cons x xs ih =>
    rw [List.filterMapM_cons, List.filterMapM_cons, h x List.mem_cons_self,
      ih fun y hy => h y (List.mem_cons_of_mem x hy)]

theorem filterMapM_eq_error_iff {f : α → Except ε (Option β)} {xs : List α} {e : ε} :
    xs.filterMapM f = .error e ↔
      ∃ pre x post, xs = pre ++ x :: post ∧ (∀ y ∈ pre, ∃ o, f y = .ok o) ∧ f x = .error e := by
  induction xs with
  | nil => simp [pure, Except.pure]
  | cons x xs ih =>
    cases hx : f x with
    | error e' =>
      have hcons : (x :: xs).filterMapM f = .error e' := by
        rw [List.filterMapM_cons, hx]
        rfl
      rw [hcons, Except.error.injEq]
      constructor
      · rintro rfl
        exact ⟨[], x, xs, rfl, by simp, hx⟩
      · rintro ⟨pre, y, post, hxs, hpre, hy⟩
        cases pre with
        | nil =>
          obtain ⟨rfl, rfl⟩ := List.cons.inj hxs
          rw [hx] at hy
          cases hy
          rfl
        | cons z pre =>
          obtain ⟨o, ho⟩ := hpre z List.mem_cons_self
          obtain ⟨hxz, -⟩ := List.cons.inj hxs
          rw [← hxz, hx] at ho
          cases ho
    | ok o =>
      -- past `x` the walk fails as the rest of it fails
      have hrest : (x :: xs).filterMapM f = .error e ↔ xs.filterMapM f = .error e := by
        rw [List.filterMapM_cons, hx]
        cases o with
        | none => rfl
        | some y =>
          cases xs.filterMapM f with
          | error e' => rfl
          | ok ys => simp [bind, Except.bind, pure, Except.pure]
      rw [hrest, ih]
      constructor
      · rintro ⟨pre, y, post, rfl, hpre, hy⟩
        refine ⟨x :: pre, y, post, rfl, fun z hz => ?_, hy⟩
        rcases List.mem_cons.mp hz with rfl | hz
        · exact ⟨o, hx⟩
        · exact hpre z hz
      · rintro ⟨pre, y, post, hxs, hpre, hy⟩
        cases pre with
        | nil =>
          obtain ⟨rfl, rfl⟩ := List.cons.inj hxs
          rw [hx] at hy
          cases hy
        | cons z pre =>
          obtain ⟨-, rfl⟩ := List.cons.inj hxs
          exact ⟨pre, y, post, rfl, fun w hw => hpre w (List.mem_cons_of_mem z hw), hy⟩

theorem filterMapM_eq_ok {f : α → Except ε (Option β)} {xs : List α} {ys : List β}
    (h : xs.filterMapM f = .ok ys) :
    (xs.map f).all Except.toBool = true ∧ ys = (xs.map f).filterMap (·.toOption.join) := by
  have hok : ∀ x ∈ xs, ∃ o, f x = .ok o := by
    intro x hx
    cases hfx : f x with
    | ok o => exact ⟨o, rfl⟩
    | error e =>
      obtain ⟨e', he'⟩ := exists_filterMapM_eq_error hx hfx
      rw [he'] at h
      cases h
  refine ⟨?_, ?_⟩
  · simp only [List.all_map, List.all_eq_true, Function.comp_apply]
    intro x hx
    obtain ⟨o, ho⟩ := hok x hx
    rw [ho]
    rfl
  · rw [filterMapM_eq_ok_of_forall hok] at h
    cases h
    rw [List.filterMap_map]
    rfl

theorem foldlM_put_eq_ok_iff {g : α → Except ε β} {put : γ → β → γ} {xs : List α} {acc r : γ} :
    xs.foldlM (fun acc x => do return put acc (← g x)) acc = .ok r ↔
      ∃ ys, List.Forall₂ (fun x y => g x = .ok y) xs ys ∧ r = ys.foldl put acc := by
  induction xs generalizing acc with
  | nil =>
    simp only [List.foldlM_nil, pure, Except.pure, Except.ok.injEq, List.forall₂_nil_left_iff,
      exists_eq_left, List.foldl_nil]
    exact eq_comm
  | cons x xs ih =>
    rw [List.foldlM_cons]
    cases hx : g x with
    | error e =>
      simp only [bind, Except.bind, reduceCtorEq, false_iff, not_exists, not_and]
      intro ys hys
      cases hys with
      | cons hy _ => rw [hx] at hy; cases hy
    | ok y =>
      show xs.foldlM (fun acc x => do return put acc (← g x)) (put acc y) = .ok r ↔ _
      rw [ih]
      constructor
      · rintro ⟨ys, hys, rfl⟩
        exact ⟨y :: ys, .cons hx hys, rfl⟩
      · rintro ⟨ys, hys, rfl⟩
        cases hys with
        | cons hy htail =>
          rw [hx] at hy
          cases hy
          exact ⟨_, htail, rfl⟩

end UpnpBinding
