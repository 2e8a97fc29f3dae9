import Mathlib.Data.List.Induction
import Mathlib.Data.List.Nodup
/-!
Lists keyed by name, where putting an entry in replaces the entries of its name in place, or
adds it last when there is none. Putting the entries of a list in one after another keys them
by name in the order names first appear, each name holding the last entry put in under it.
Service definitions key their actions this way, and property sets their variables.
-/
namespace UpnpBinding

section

variable {α : Type} (key : α → String)

def putBy (acc : List α) (x : α) : List α :=
  if acc.any (key · == key x) then acc.map (fun b => if key b == key x then x else b)
  else acc ++ [x]

variable {key}

theorem keys_putBy (acc : List α) (x : α) :
    (putBy key acc x).map key =
      if key x ∈ acc.map key then acc.map key else acc.map key ++ [key x] := by
  unfold putBy
  by_cases h : key x ∈ acc.map key
  · have hany : acc.any (key · == key x) = true := by simpa using h
    rw [if_pos hany, if_pos h, List.map_map]
    apply List.map_congr_left
    intro b _
    by_cases hb : key b = key x <;> simp [hb]
  · have hany : acc.any (key · == key x) = false := by simpa using h
    rw [if_neg (by simp [hany]), if_neg h, List.map_append]
    rfl

theorem mem_putBy {acc : List α} {x b : α} (h : b ∈ putBy key acc x) :
    b = x ∨ b ∈ acc ∧ key b ≠ key x := by
  unfold putBy at h
  split at h
  · obtain ⟨c, hc, rfl⟩ := List.mem_map.mp h
    by_cases hn : key c = key x
    · simp [hn]
    · simp [hn, hc]
  · rename_i hany
    rcases List.mem_append.mp h with hm | hm
    · refine .inr ⟨hm, fun hn => hany ?_⟩
      exact List.any_eq_true.mpr ⟨b, hm, by simp [hn]⟩
    · exact .inl (List.mem_singleton.mp hm)

theorem find?_putBy (acc : List α) (x : α) (k : String) :
    (putBy key acc x).find? (key · == k) =
      if key x = k then some x else acc.find? (key · == k) := by
  unfold putBy
  split
  · rename_i hany
    rw [List.find?_map]
    by_cases hk : key x = k
    · -- the first entry with the key is one of those replaced by `x`
      subst hk
      obtain ⟨b, hb, hbk⟩ := List.any_eq_true.mp hany
      have hsame : acc.find? ((key · == key x) ∘ fun b => if key b == key x then x else b) =
          acc.find? (key · == key x) := by
        congr 1
        funext c
        by_cases hc : key c = key x <;> simp [hc]
      obtain ⟨c, hc⟩ : ∃ c, acc.find? (key · == key x) = some c :=
        Option.isSome_iff_exists.mp (List.find?_isSome.mpr ⟨b, hb, hbk⟩)
      have hck : key c = key x := by simpa using List.find?_some hc
      rw [hsame, hc, if_pos rfl]
      simp [hck]
    · -- entries of other keys are left as they are
      have hsame : acc.find? ((key · == k) ∘ fun b => if key b == key x then x else b) =
          acc.find? (key · == k) := by
        congr 1
        funext c
        by_cases hc : key c = key x <;> simp [hc]
      rw [hsame, if_neg hk]
      cases hc : acc.find? (key · == k) with
      | none => rfl
      | some c =>
        have hck : key c = k := by simpa using List.find?_some hc
        have hcx : key c ≠ key x := fun h => hk (h ▸ hck)
        simp [hcx]
  · rename_i hany
    rw [List.find?_append]
    by_cases hk : key x = k
    · have hnone : acc.find? (key · == k) = none := by
        refine List.find?_eq_none.mpr fun b hb hbk => hany ?_
        exact List.any_eq_true.mpr ⟨b, hb, by simpa [hk] using hbk⟩
      simp [hnone, hk]
    · cases acc.find? (key · == k) <;> simp [hk]

theorem keys_foldl_putBy (xs : List α) :
    (xs.foldl (putBy key) []).map key = (xs.map key).eraseDups := by
  induction xs using List.reverseRecOn with
  | nil => rfl
  | append_singleton xs x ih =>
    rw [List.foldl_append, List.foldl_cons, List.foldl_nil, keys_putBy, ih, List.map_append,
      List.eraseDups_append]
    by_cases h : key x ∈ xs.map key
    · rw [if_pos (List.mem_eraseDups.mpr h)]
      simp only [List.removeAll, List.map_cons, List.map_nil, List.filter_cons, List.filter_nil,
        List.elem_eq_mem, h, decide_true, Bool.not_true, Bool.false_eq_true, ite_false,
        List.eraseDups_nil, List.append_nil]
    · rw [if_neg (fun hm => h (List.mem_eraseDups.mp hm))]
      simp only [List.removeAll, List.map_cons, List.map_nil, List.filter_cons, List.filter_nil,
        List.elem_eq_mem, h, decide_false, Bool.not_false, ite_true]
      rfl

theorem nodup_keys_foldl_putBy (xs : List α) : ((xs.foldl (putBy key) []).map key).Nodup := by
  induction xs using List.reverseRecOn with
  | nil => exact List.nodup_nil
  | append_singleton xs x ih =>
    rw [List.foldl_append, List.foldl_cons, List.foldl_nil, keys_putBy]
    split
    · exact ih
    · rename_i hnew
      exact List.nodup_append.mpr ⟨ih, List.pairwise_singleton _ _, fun a ha b hb => by
        rw [List.mem_singleton.mp hb]
        rintro rfl
        exact hnew ha⟩

theorem find?_foldl_putBy (xs : List α) (k : String) :
    (xs.foldl (putBy key) []).find? (key · == k) = xs.reverse.find? (key · == k) := by
  induction xs using List.reverseRecOn with
  | nil => rfl
  | append_singleton xs x ih =>
    rw [List.foldl_append, List.foldl_cons, List.foldl_nil, find?_putBy, ih, List.reverse_append,
      List.reverse_singleton, List.singleton_append, List.find?_cons]
    by_cases hk : key x = k
    · simp [hk]
    · have hne : (key x == k) = false := by simpa using hk
      simp only [hk, hne, if_false]

theorem find?_of_mem_foldl_putBy {xs : List α} {y : α} (h : y ∈ xs.foldl (putBy key) []) :
    xs.reverse.find? (key · == key y) = some y := by
  induction xs using List.reverseRecOn with
  | nil => cases h
  | append_singleton xs x ih =>
    rw [List.foldl_append, List.foldl_cons, List.foldl_nil] at h
    rw [List.reverse_append, List.reverse_singleton, List.singleton_append, List.find?_cons]
    rcases mem_putBy h with rfl | ⟨hm, hn⟩
    · simp
    · have hne : (key x == key y) = false := by simpa using Ne.symm hn
      simp only [hne]
      exact ih hm

theorem mem_of_mem_foldl_putBy {xs : List (String × α)} {y : String × α}
    (h : y ∈ xs.foldl (putBy Prod.fst) []) : y ∈ xs :=
  List.mem_reverse.mp (List.mem_of_find?_eq_some (find?_of_mem_foldl_putBy h))

theorem mem_keys_foldl_putBy {xs : List (String × α)} {n : String} :
    n ∈ (xs.foldl (putBy Prod.fst) []).map Prod.fst ↔ ∃ a, (n, a) ∈ xs := by
  rw [keys_foldl_putBy, List.mem_eraseDups, List.mem_map]
  constructor
  · rintro ⟨⟨m, a⟩, hm, rfl⟩
    exact ⟨a, hm⟩
  · rintro ⟨a, ha⟩
    exact ⟨(n, a), ha, rfl⟩

theorem putBy_of_mem {acc : List α} {x : α} (hnd : (acc.map key).Nodup) (hx : x ∈ acc) :
    putBy key acc x = acc := by
  have hany : acc.any (key · == key x) = true := List.any_eq_true.mpr ⟨x, hx, by simp⟩
  rw [putBy, if_pos hany]
  conv_rhs => rw [← List.map_id acc]
  refine List.map_congr_left fun b hb => ?_
  by_cases hk : key b = key x
  · -- the one entry under that key is `x` itself
    rw [if_pos (by simpa using hk)]
    exact List.inj_on_of_nodup_map hnd hx hb hk.symm
  · rw [if_neg (by simpa using hk)]
    rfl

theorem find?_key_of_nodup : ∀ {l : List α} {x : α}, (l.map key).Nodup → x ∈ l →
    l.find? (fun y => key y == key x) = some x
  | [], _, _, hx => by cases hx
  | y :: l, x, hnd, hx => by
    rw [List.map_cons, List.nodup_cons] at hnd
    rcases List.mem_cons.mp hx with rfl | hx
    · simp
    · have hne : key y ≠ key x := fun h => hnd.1 (h ▸ List.mem_map_of_mem hx)
      rw [List.find?_cons_of_neg (by simpa using hne)]
      exact find?_key_of_nodup hnd.2 hx

theorem find?_and_of_nodup (q : α → Bool) (k : String) :
    ∀ {l : List α}, (l.map key).Nodup →
      l.find? (fun y => key y == k && q y) = (l.find? (key · == k)).filter q
  | [], _ => rfl
  | y :: l, hnd => by
    rw [List.map_cons, List.nodup_cons] at hnd
    by_cases hy : key y = k
    · -- `y` holds the key, so no later entry does
      have hrest : l.find? (fun z => key z == k && q z) = none :=
        List.find?_eq_none.mpr fun z hz hzk => hnd.1 (hy ▸ by
          simp only [Bool.and_eq_true, beq_iff_eq] at hzk
          exact hzk.1 ▸ List.mem_map_of_mem hz)
      cases hq : q y <;> simp [hy, hq, hrest, Option.filter]
    · have hne : (key y == k) = false := by simpa using hy
      simp only [List.find?_cons, hne, Bool.false_and]
      exact find?_and_of_nodup q k hnd.2

theorem eq_of_find?_eq : ∀ {l l' : List α}, l.map key = l'.map key → (l.map key).Nodup →
    (∀ k, l.find? (key · == k) = l'.find? (key · == k)) → l = l'
  | [], [], _, _, _ => rfl
  | [], _ :: _, hk, _, _ => by cases hk
  | _ :: _, [], hk, _, _ => by cases hk
  | x :: l, y :: l', hk, hnd, hf => by
    rw [List.map_cons, List.map_cons, List.cons.injEq] at hk
    rw [List.map_cons, List.nodup_cons] at hnd
    -- the first key finds the first entry of each list
    have hxy : x = y := by
      have := hf (key x)
      rw [List.find?_cons_of_pos (by simp), List.find?_cons_of_pos (by simp [hk.1])] at this
      exact Option.some.inj this
    subst hxy
    refine congrArg (x :: ·) (eq_of_find?_eq hk.2 hnd.2 fun k => ?_)
    by_cases hkx : key x = k
    · -- that key stands in neither tail
      have hnone : ∀ m : List α, key x ∉ m.map key → m.find? (key · == k) = none :=
        fun m hm => List.find?_eq_none.mpr fun z hz hzk =>
          hm (hkx ▸ (beq_iff_eq.mp hzk) ▸ List.mem_map_of_mem hz)
      rw [hnone l hnd.1, hnone l' (hk.2 ▸ hnd.1)]
    · have := hf k
      rwa [List.find?_cons_of_neg (by simpa using hkx),
        List.find?_cons_of_neg (by simpa using hkx)] at this

end

end UpnpBinding
