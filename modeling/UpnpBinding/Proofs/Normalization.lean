import UpnpBinding.Text.Normalization
import Mathlib.Data.List.Chain
/-!
Lookups in the tables of compatibility normalization. A binary search over a table whose keys
strictly increase finds what a scan from the front finds. The decomposition table is such a
table, laid out in chunks, so a decomposition is the first entry of the chunks, scanned in order,
that has its code point.
-/
namespace UpnpBinding.Text.Normalization

section Search

variable {α : Type} {t : Array α} {key : α → Nat} {k : Nat}

def KeysIncrease (t : Array α) (key : α → Nat) : Prop :=
  ∀ i j (hij : i < j) (hj : j < t.size), key t[i] < key t[j]

theorem KeysIncrease.le (sorted : KeysIncrease t key) {i j : Nat} (hij : i ≤ j)
    (hj : j < t.size) : key t[i] ≤ key t[j] := by
  rcases Nat.lt_or_eq_of_le hij with h | rfl
  · exact Nat.le_of_lt (sorted i j h hj)
  · exact Nat.le_refl _

theorem keysIncrease_of_isChain (h : (t.toList.map key).IsChain (· < ·)) :
    KeysIncrease t key := by
  have hp : t.toList.Pairwise (fun a b => key a < key b) :=
    List.pairwise_map.mp (List.isChain_iff_pairwise.mp h)
  intro i j hij hj
  have hi : i < t.toList.length := by simp; omega
  have hj' : j < t.toList.length := by simpa using hj
  simpa using List.pairwise_iff_getElem.mp hp i j hi hj' hij

/-- What a search of `[lo, hi)` relies on: the range lies in the table and holds every entry
with the key sought. -/
def Brackets (t : Array α) (key : α → Nat) (k lo hi : Nat) : Prop :=
  hi ≤ t.size ∧ ∀ i (h : i < t.size), key t[i] = k → lo ≤ i ∧ i < hi

theorem findBy?_eq_find? (sorted : KeysIncrease t key) {lo hi : Nat}
    (h : Brackets t key k lo hi) : findBy? t key k lo hi = t.find? (key · == k) := by
  fun_induction findBy? t key k lo hi with
  | case1 lo hi hlt mid e he hk ih =>
    obtain ⟨hm, rfl⟩ := Array.getElem?_eq_some_iff.mp he
    -- an entry with the key sought stands before the middle one
    refine ih ⟨by omega, fun i hi hki => ⟨(h.2 i hi hki).1, Nat.lt_of_not_le fun hle => ?_⟩⟩
    have := sorted.le hle hi
    omega
  | case2 lo hi hlt mid e he _ hk ih =>
    obtain ⟨hm, rfl⟩ := Array.getElem?_eq_some_iff.mp he
    -- an entry with the key sought stands after the middle one
    refine ih ⟨h.1, fun i hi hki => ⟨Nat.lt_of_not_le fun hle => ?_, (h.2 i hi hki).2⟩⟩
    have := sorted.le hle hm
    omega
  | case3 lo hi hlt mid e he hk hk' =>
    obtain ⟨hm, rfl⟩ := Array.getElem?_eq_some_iff.mp he
    have hkey : key t[mid] = k := by omega
    refine (Array.find?_eq_some_iff_getElem.mpr ⟨by simp [hkey], mid, hm, rfl, fun j hj => ?_⟩).symm
    have := sorted j mid hj hm
    simp only [Bool.not_eq_true', beq_eq_false_iff_ne]
    omega
  | case4 lo hi hlt mid he =>
    have : mid < t.size := by
      have hmid : mid = (lo + hi) / 2 := rfl
      have := h.1
      omega
    simp [this] at he
  | case5 lo hi hge =>
    refine (Array.find?_eq_none.mpr fun x hx hkx => ?_).symm
    obtain ⟨i, hi, rfl⟩ := Array.mem_iff_getElem.mp hx
    have := h.2 i hi (by simpa using hkx)
    omega

theorem findBy?_eq_find?_of_increase (sorted : KeysIncrease t key) :
    findBy? t key k 0 t.size = t.find? (key · == k) :=
  findBy?_eq_find? sorted ⟨Nat.le_refl _, fun _ hi _ => ⟨Nat.zero_le _, hi⟩⟩

end Search

theorem decompositions_toList :
    decompositions.toList = decompositions0.toList ++ decompositions1.toList ++
      decompositions2.toList ++ decompositions3.toList ++ decompositions4.toList ++
      decompositions5.toList ++ decompositions6.toList ++ decompositions7.toList ++
      decompositions8.toList ++ decompositions9.toList ++ decompositions10.toList ++
      decompositions11.toList := by
  simp only [decompositions, Array.toList_append]

set_option maxRecDepth 20000 in
theorem decompositions_increase : KeysIncrease decompositions Prod.fst := by
  apply keysIncrease_of_isChain
  rw [decompositions_toList]
  decide +kernel

theorem decomposeOne_eq_scan (c : Nat) :
    decomposeOne c = (((decompositions0.toList ++ decompositions1.toList ++
      decompositions2.toList ++ decompositions3.toList ++ decompositions4.toList ++
      decompositions5.toList ++ decompositions6.toList ++ decompositions7.toList ++
      decompositions8.toList ++ decompositions9.toList ++ decompositions10.toList ++
      decompositions11.toList).find? (·.1 == c)).map Prod.snd).getD [c] := by
  rw [decomposeOne, findBy?_eq_find?_of_increase decompositions_increase, ← Array.find?_toList,
    decompositions_toList]

end UpnpBinding.Text.Normalization
