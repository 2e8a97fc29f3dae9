import UpnpBinding.Number.Shortest
import Mathlib.Algebra.Order.Field.Power
import Mathlib.Tactic.FieldSimp
import Mathlib.Tactic.Linarith
import Mathlib.Tactic.Positivity
import Mathlib.Tactic.NormNum
import Mathlib.Tactic.Ring
/-!
Doubles from their fields, and rounding a ratio to the nearest double. A double is its sign,
biased exponent and fraction; a finite one stands for `± m * 2^e` with `m` below `2^53`, and at
least `2^52` unless `e` is the least exponent. `ofRatio` gives such a double back from every
ratio that lies between the midpoints to its neighbours, the midpoints included when `m` is
even.
-/
namespace UpnpBinding.Double

theorem negative_eq (x : Double) : x.negative = decide (x.bits.toNat / 2 ^ 63 = 1) := by
  unfold negative
  rw [Bool.eq_iff_iff, beq_iff_eq, decide_eq_true_iff, ← UInt64.toNat_inj,
    UInt64.toNat_shiftRight, Nat.shiftRight_eq_div_pow]
  rfl

theorem biasedExponent_eq (x : Double) : x.biasedExponent = x.bits.toNat / 2 ^ 52 % 2 ^ 11 := by
  unfold biasedExponent
  rw [UInt64.toNat_and, UInt64.toNat_shiftRight, show (0x7FF : UInt64).toNat = 2 ^ 11 - 1 from rfl,
    Nat.and_two_pow_sub_one_eq_mod, Nat.shiftRight_eq_div_pow]
  rfl

theorem fraction_eq (x : Double) : x.fraction = x.bits.toNat % 2 ^ 52 := by
  unfold fraction
  rw [UInt64.toNat_and, show (0xFFFFFFFFFFFFF : UInt64).toNat = 2 ^ 52 - 1 from rfl,
    Nat.and_two_pow_sub_one_eq_mod]

theorem toNat_bits_ofFields (neg : Bool) {b f : Nat} (hb : b < 2048) (hf : f < 2 ^ 52) :
    (ofFields neg b f).bits.toNat = (if neg then 2 ^ 63 else 0) + b * 2 ^ 52 + f := by
  simp only [ofFields, Nat.pow_eq, UInt64.toNat_ofNat']
  apply Nat.mod_eq_of_lt
  split <;> omega

section Fields

variable {neg : Bool} {b f : Nat}

theorem negative_ofFields (hb : b < 2048) (hf : f < 2 ^ 52) : (ofFields neg b f).negative = neg := by
  rw [negative_eq, toNat_bits_ofFields neg hb hf]
  cases neg <;> simp <;> omega

theorem biasedExponent_ofFields (hb : b < 2048) (hf : f < 2 ^ 52) :
    (ofFields neg b f).biasedExponent = b := by
  rw [biasedExponent_eq, toNat_bits_ofFields neg hb hf]
  cases neg <;> simp <;> omega

theorem fraction_ofFields (hb : b < 2048) (hf : f < 2 ^ 52) : (ofFields neg b f).fraction = f := by
  rw [fraction_eq, toNat_bits_ofFields neg hb hf]
  cases neg <;> simp <;> omega

end Fields

theorem ext_bits {x y : Double} (h : x.bits.toNat = y.bits.toNat) : x = y := by
  cases x
  cases y
  cases UInt64.toNat_inj.mp h
  rfl

theorem eq_ofFields (x : Double) : x = ofFields x.negative x.biasedExponent x.fraction := by
  have hx := x.bits.toNat_lt
  have hb : x.biasedExponent < 2048 := by rw [biasedExponent_eq]; omega
  have hf : x.fraction < 2 ^ 52 := by rw [fraction_eq]; omega
  apply ext_bits
  rw [toNat_bits_ofFields _ hb hf, negative_eq, biasedExponent_eq, fraction_eq]
  by_cases h : x.bits.toNat / 2 ^ 63 = 1 <;>
    simp only [h, decide_true, decide_false, if_true, if_false, Bool.false_eq_true] <;> omega

theorem isNaN_of_kind_nan {x : Double} (h : x.kind = .nan) : x.isNaN = true := by
  unfold kind at h
  dsimp only at h
  unfold isNaN
  split at h
  · split at h
    · cases h
    · rename_i h1 h2
      simp [h1, h2]
  · split at h <;> cases h

theorem eq_infinity_of_kind {x : Double} {neg : Bool} (h : x.kind = .infinite neg) :
    x = infinity neg := by
  unfold kind at h
  dsimp only at h
  split at h
  · split at h
    · rename_i h1 h2
      cases h
      conv_lhs => rw [eq_ofFields x, h1, h2]
      rfl
    · cases h
  · split at h <;> cases h

/-- The significand and exponent of a finite double: below `2^53`, normal unless the exponent is
the least one, and the exponent within range. -/
structure Normal (m : Nat) (e : Int) : Prop where
  lt : m < 2 ^ 53
  norm : 2 ^ 52 ≤ m ∨ e = -1074
  low : -1074 ≤ e
  high : e ≤ 971

theorem eq_of_kind_finite {x : Double} {neg : Bool} {m : Nat} {e : Int}
    (h : x.kind = .finite neg m e) :
    Normal m e ∧ x = ofFields neg (if m < 2 ^ 52 then 0 else (e + 1075).toNat) (m % 2 ^ 52) := by
  have hb : x.biasedExponent < 2048 := by have := x.bits.toNat_lt; rw [biasedExponent_eq]; omega
  have hf : x.fraction < 2 ^ 52 := by have := x.bits.toNat_lt; rw [fraction_eq]; omega
  unfold kind at h
  simp only [Nat.pow_eq] at h
  split at h
  · split at h <;> cases h
  · rename_i h2047
    split at h
    · rename_i h0
      cases h
      refine ⟨⟨by omega, .inr rfl, by omega, by omega⟩, ?_⟩
      rw [if_pos hf, Nat.mod_eq_of_lt hf, ← h0]
      exact eq_ofFields x
    · rename_i h0
      cases h
      refine ⟨⟨by omega, .inl (by omega), by omega, by omega⟩, ?_⟩
      rw [if_neg (by omega), show (x.biasedExponent - 1075 + 1075 : Int).toNat = x.biasedExponent
        by omega, show (x.fraction + 2 ^ 52) % 2 ^ 52 = x.fraction by omega]
      exact eq_ofFields x

theorem zpow_eq_div_pow {a : ℚ} (ha : a ≠ 0) (k : Int) : a ^ k = a ^ k.toNat / a ^ (-k).toNat := by
  conv_lhs => rw [← Int.toNat_sub_toNat_neg k]
  rw [zpow_sub₀ ha, zpow_natCast, zpow_natCast]

theorem compareScaled_eq_lt {c x : Nat} {k s : Int} :
    compareScaled c k x s = .lt ↔ (c : ℚ) * 10 ^ k < x * 2 ^ s := by
  unfold compareScaled
  rw [Nat.compare_eq_lt, zpow_eq_div_pow (by norm_num) k, zpow_eq_div_pow two_ne_zero s, mul_div_assoc', mul_div_assoc',
    div_lt_div_iff₀ (by positivity) (by positivity)]
  simp only [Nat.pow_eq]
  exact_mod_cast Iff.rfl

theorem compareScaled_eq_gt {c x : Nat} {k s : Int} :
    compareScaled c k x s = .gt ↔ (x : ℚ) * 2 ^ s < c * 10 ^ k := by
  unfold compareScaled
  rw [Nat.compare_eq_gt, zpow_eq_div_pow (by norm_num) k, zpow_eq_div_pow two_ne_zero s, mul_div_assoc', mul_div_assoc',
    div_lt_div_iff₀ (by positivity) (by positivity)]
  simp only [Nat.pow_eq]
  exact_mod_cast Iff.rfl

theorem scaledLe_iff {q p : Nat} {k : Int} : scaledLe q k p = true ↔ (q : ℚ) * 2 ^ k ≤ p := by
  unfold scaledLe
  rw [zpow_eq_div_pow two_ne_zero k, mul_div_assoc', div_le_iff₀ (by positivity)]
  simp only [Nat.pow_eq]
  split
  · rename_i hk
    rw [decide_eq_true_iff, show (-k).toNat = 0 by omega, pow_zero, mul_one]
    exact_mod_cast Iff.rfl
  · rename_i hk
    rw [decide_eq_true_iff, show k.toNat = 0 by omega, pow_zero, mul_one]
    exact_mod_cast Iff.rfl

theorem two_zpow_log2_le {n : Nat} (hn : 0 < n) : (2 : ℚ) ^ (n.log2 : Int) ≤ n := by
  rw [zpow_natCast]
  exact_mod_cast Nat.log2_self_le (by omega)

theorem lt_two_zpow_log2 (n : Nat) : (n : ℚ) < 2 ^ ((n.log2 : Int) + 1) := by
  rw [show (n.log2 : Int) + 1 = ((n.log2 + 1 : Nat) : Int) by push_cast; rfl, zpow_natCast]
  exact_mod_cast Nat.lt_log2_self

theorem floorLog2_spec {p q : Nat} (hp : 0 < p) (hq : 0 < q) :
    (2 : ℚ) ^ floorLog2 p q ≤ p / q ∧ (p : ℚ) / q < 2 ^ (floorLog2 p q + 1) := by
  have hq' : (0 : ℚ) < q := by exact_mod_cast hq
  have hpow (a b : Int) : (2 : ℚ) ^ (a - b) * 2 ^ b = 2 ^ a := by
    rw [← zpow_add₀ two_ne_zero, sub_add_cancel]
  -- with `a` and `b` the binary exponents of `p` and `q`, `p / q` lies within one binade of
  -- `2^(a-b)`; the test in `floorLog2` picks the binade
  have above : (p : ℚ) / q < 2 ^ ((p.log2 : Int) - q.log2 + 1) := by
    rw [div_lt_iff₀ hq']
    calc (p : ℚ) < 2 ^ ((p.log2 : Int) + 1) := lt_two_zpow_log2 p
      _ = 2 ^ ((p.log2 : Int) - q.log2 + 1) * 2 ^ (q.log2 : Int) := by
        rw [← hpow ((p.log2 : Int) + 1) q.log2]; ring_nf
      _ ≤ 2 ^ ((p.log2 : Int) - q.log2 + 1) * q := by
        gcongr
        exact two_zpow_log2_le hq
  have below : (2 : ℚ) ^ ((p.log2 : Int) - q.log2 - 1) < p / q := by
    rw [lt_div_iff₀ hq']
    calc (2 : ℚ) ^ ((p.log2 : Int) - q.log2 - 1) * q
        < 2 ^ ((p.log2 : Int) - q.log2 - 1) * 2 ^ ((q.log2 : Int) + 1) := by
          gcongr
          exact lt_two_zpow_log2 q
      _ = 2 ^ (p.log2 : Int) := by rw [← zpow_add₀ two_ne_zero]; ring_nf
      _ ≤ p := two_zpow_log2_le hp
  unfold floorLog2
  dsimp only
  split
  · rename_i h
    refine ⟨?_, above⟩
    rw [le_div_iff₀ hq', mul_comm]
    exact scaledLe_iff.mp h
  · rename_i h
    refine ⟨below.le, ?_⟩
    rw [sub_add_cancel, div_lt_iff₀ hq', mul_comm]
    exact lt_of_not_ge (fun h' => h (scaledLe_iff.mpr h'))

/-- `r` rounds to the natural `n`: it lies within half a unit of `n`, and at exactly half a unit
only when `n` is even. -/
def RoundsTo (r : ℚ) (n : Nat) : Prop :=
  if n % 2 = 0 then |r - n| ≤ 1 / 2 else |r - n| < 1 / 2

theorem roundHalfEven_eq {num den n : Nat} (hden : 0 < den)
    (hlo : 2 * (den * n) ≤ 2 * num + den) (hhi : 2 * num ≤ 2 * (den * n) + den)
    (htie : 2 * num + den = 2 * (den * n) ∨ 2 * num = 2 * (den * n) + den → n % 2 = 0) :
    roundHalfEven num den = n := by
  have hdm := Nat.div_add_mod num den
  have hr := Nat.mod_lt num hden
  -- the quotient is `n` or the natural below it
  have hq : num / den = n ∨ num / den + 1 = n := by
    rcases Nat.lt_or_ge n (num / den) with h | h
    · have := Nat.mul_le_mul_left den h
      rw [Nat.mul_succ] at this
      omega
    · rcases Nat.lt_or_ge (num / den + 1) n with h' | h'
      · have := Nat.mul_le_mul_left den h'
        rw [Nat.mul_succ, Nat.mul_succ] at this
        omega
      · omega
  unfold roundHalfEven
  dsimp only
  rcases hq with hq | hq
  · rw [hq] at hdm ⊢
    split
    · rename_i h
      simp only [Bool.or_eq_true, decide_eq_true_eq, Bool.and_eq_true, beq_iff_eq] at h
      rcases h with h | ⟨h, hodd⟩
      · omega
      · have := htie (.inr (by omega))
        omega
    · rfl
  · subst hq
    rw [Nat.mul_succ] at hlo hhi htie
    split
    · rfl
    · rename_i h
      simp only [Bool.or_eq_true, decide_eq_true_eq, Bool.and_eq_true, beq_iff_eq, not_or,
        not_and] at h
      have := htie (.inl (by omega))
      omega

theorem roundHalfEven_eq_of_roundsTo {num den n : Nat} (hden : 0 < den)
    (h : RoundsTo ((num : ℚ) / den) n) : roundHalfEven num den = n := by
  have hden' : (0 : ℚ) < den := by exact_mod_cast hden
  have hle : |(num : ℚ) / den - n| ≤ 1 / 2 := by
    unfold RoundsTo at h
    split at h
    · exact h
    · exact h.le
  obtain ⟨hlo, hhi⟩ := abs_le.mp hle
  rw [le_sub_iff_add_le, le_div_iff₀ hden'] at hlo
  rw [sub_le_iff_le_add, div_le_iff₀ hden'] at hhi
  apply roundHalfEven_eq hden
  · have : (2 * (den * n) : ℚ) ≤ 2 * num + den := by linarith
    exact_mod_cast this
  · have : (2 * num : ℚ) ≤ 2 * (den * n) + den := by linarith
    exact_mod_cast this
  · -- a tie is half a unit away, which `RoundsTo` allows only for an even `n`
    intro htie
    unfold RoundsTo at h
    split at h
    · assumption
    · exfalso
      obtain ⟨hlo', hhi'⟩ := abs_lt.mp h
      rw [lt_sub_iff_add_lt, lt_div_iff₀ hden'] at hlo'
      rw [sub_lt_iff_lt_add, div_lt_iff₀ hden'] at hhi'
      rcases htie with htie | htie
      · have : (2 * num + den : ℚ) = 2 * (den * n) := by exact_mod_cast htie
        linarith
      · have : (2 * num : ℚ) = 2 * (den * n) + den := by exact_mod_cast htie
        linarith

theorem roundHalfEven_scaled {p q n : Nat} {E : Int} (hq : 0 < q)
    (h : RoundsTo ((p : ℚ) / q / 2 ^ E) n) :
    (if 0 ≤ E then roundHalfEven p (q * Nat.pow 2 E.toNat)
      else roundHalfEven (p * Nat.pow 2 (-E).toNat) q) = n := by
  rw [zpow_eq_div_pow two_ne_zero E] at h
  simp only [Nat.pow_eq]
  split
  · rename_i hE
    rw [show (-E).toNat = 0 by omega, pow_zero, div_one, div_div] at h
    apply roundHalfEven_eq_of_roundsTo (by positivity)
    exact_mod_cast h
  · rename_i hE
    rw [show E.toNat = 0 by omega, pow_zero, one_div, div_inv_eq_mul, div_mul_eq_mul_div] at h
    apply roundHalfEven_eq_of_roundsTo hq
    exact_mod_cast h

/-- The midpoint below `m * 2^e`, in units of `2^(e-2)`: half a unit below, or a quarter unit
below a power of two with a normal exponent, where the lower neighbour is nearer. -/
def lowerMidpoint (m : Nat) (e : Int) : Nat :=
  if m = Nat.pow 2 52 ∧ e > -1074 then 4 * m - 1 else 4 * m - 2

/-- The ratios that round to `m * 2^e`: those between the midpoints to its neighbours, the
midpoints themselves when `m` is even. -/
def RoundsBack (m : Nat) (e : Int) (r : ℚ) : Prop :=
  if m % 2 = 0 then
    (lowerMidpoint m e : ℚ) * 2 ^ (e - 2) ≤ r ∧ r ≤ ((4 * m + 2 : Nat) : ℚ) * 2 ^ (e - 2)
  else (lowerMidpoint m e : ℚ) * 2 ^ (e - 2) < r ∧ r < ((4 * m + 2 : Nat) : ℚ) * 2 ^ (e - 2)

theorem roundsBack_div {m : Nat} {e : Int} {r : ℚ} (h : RoundsBack m e r) :
    if m % 2 = 0 then (lowerMidpoint m e : ℚ) / 4 ≤ r / 2 ^ e ∧ r / 2 ^ e ≤ m + 1 / 2
    else (lowerMidpoint m e : ℚ) / 4 < r / 2 ^ e ∧ r / 2 ^ e < m + 1 / 2 := by
  have ht : (0 : ℚ) < 2 ^ e := by positivity
  have hquarter : (2 : ℚ) ^ (e - 2) = 2 ^ e / 4 := by
    rw [zpow_sub₀ two_ne_zero]
    norm_num
  unfold RoundsBack at h
  rw [hquarter] at h
  push_cast at h
  split at h <;> rename_i hpar <;> simp only [hpar, if_true, if_false] <;>
    obtain ⟨h1, h2⟩ := h <;> constructor
  · rw [le_div_iff₀ ht]; linarith
  · rw [div_le_iff₀ ht]; linarith
  · rw [lt_div_iff₀ ht]; linarith
  · rw [div_lt_iff₀ ht]; linarith

theorem ofRatio_eq_round {neg : Bool} {p q M : Nat} {E : Int} (hp : 0 < p)
    (hE : max (floorLog2 p q - 52) (-1074) = E)
    (hM : (if 0 ≤ E then roundHalfEven p (q * Nat.pow 2 E.toNat)
      else roundHalfEven (p * Nat.pow 2 (-E).toNat) q) = M) :
    ofRatio neg p q =
      let (m, e) := if M = Nat.pow 2 53 then (Nat.pow 2 52, E + 1) else (M, E)
      if e > 971 then infinity neg
      else if m < Nat.pow 2 52 then ofFields neg 0 m
      else ofFields neg (e + 1075).toNat (m - Nat.pow 2 52) := by
  unfold ofRatio
  rw [if_neg (by omega)]
  subst hE
  dsimp only
  rw [hM]

theorem floorLog2_sub_spec {p q : Nat} (hp : 0 < p) (hq : 0 < q) (e : Int) :
    (2 : ℚ) ^ (floorLog2 p q - e) ≤ p / q / 2 ^ e ∧
      (p : ℚ) / q / 2 ^ e < 2 ^ (floorLog2 p q - e + 1) := by
  obtain ⟨h1, h2⟩ := floorLog2_spec hp hq
  have ht : (0 : ℚ) < 2 ^ e := by positivity
  constructor
  · rw [zpow_sub₀ two_ne_zero]
    exact div_le_div_of_nonneg_right h1 ht.le
  · rw [show floorLog2 p q - e + 1 = floorLog2 p q + 1 - e by ring, zpow_sub₀ two_ne_zero]
    exact div_lt_div_of_pos_right h2 ht

theorem exponent_lt_of_zpow {a b : Int} {u : ℚ} (ha : (2 : ℚ) ^ a ≤ u) (hb : u < 2 ^ b) : a < b :=
  (zpow_lt_zpow_iff_right₀ one_lt_two).mp (lt_of_le_of_lt ha hb)

theorem near_of_roundsBack {m : Nat} {e : Int} {r : ℚ} (hm : 0 < m) (h : RoundsBack m e r) :
    (m : ℚ) - 1 / 2 ≤ r / 2 ^ e ∧ r / 2 ^ e ≤ m + 1 / 2 := by
  have hb := roundsBack_div h
  -- the lower midpoint is at most half a unit below
  have hmid : ((4 * m - 2 : Nat) : ℚ) ≤ lowerMidpoint m e := by
    have : 4 * m - 2 ≤ lowerMidpoint m e := by unfold lowerMidpoint; split <;> omega
    exact_mod_cast this
  rw [Nat.cast_sub (by omega)] at hmid
  push_cast at hmid
  split at hb
  · exact ⟨by linarith [hb.1], hb.2⟩
  · exact ⟨by linarith [hb.1], hb.2.le⟩

theorem range_of_roundsBack {m : Nat} {e : Int} {r : ℚ} (hm : 0 < m) (hn : Normal m e)
    (h : RoundsBack m e r) : (2 : ℚ) ^ (-1075 : Int) ≤ r ∧ r < 2 ^ (1024 : Int) := by
  obtain ⟨hlower, hupper⟩ := near_of_roundsBack hm h
  have ht : (0 : ℚ) < 2 ^ e := by positivity
  have hm1 : (1 : ℚ) ≤ m := by exact_mod_cast hm
  have hm53 : (m : ℚ) + 1 ≤ 2 ^ 53 := by exact_mod_cast hn.lt
  constructor
  · -- half a unit of the least exponent is the least the ratio can be
    have h1074 : (2 : ℚ) ^ (-1074 : Int) ≤ 2 ^ e := zpow_le_zpow_right₀ (by norm_num) hn.low
    have hhalf : (2 : ℚ) ^ (-1075 : Int) = 2 ^ (-1074 : Int) / 2 := by
      rw [show (-1075 : Int) = -1074 - 1 by norm_num, zpow_sub_one₀ two_ne_zero, div_eq_mul_inv]
    rw [le_div_iff₀ ht] at hlower
    rw [hhalf]
    have ht0 : (0 : ℚ) ≤ 2 ^ (-1074 : Int) := by positivity
    generalize (2 : ℚ) ^ (-1074 : Int) = t at h1074 ht0 ⊢
    generalize (2 : ℚ) ^ e = u at h1074 hlower ht
    nlinarith
  · have h971 : (2 : ℚ) ^ e ≤ 2 ^ (971 : Int) := zpow_le_zpow_right₀ (by norm_num) hn.high
    rw [div_le_iff₀ ht] at hupper
    calc r ≤ (m + 1 / 2) * 2 ^ e := hupper
      _ < 2 ^ 53 * 2 ^ e := by gcongr; linarith
      _ ≤ 2 ^ 53 * 2 ^ (971 : Int) := by gcongr
      _ = 2 ^ (1024 : Int) := by rw [zpow_ofNat, zpow_ofNat, ← pow_add]

theorem roundsTo_of_roundsBack {m : Nat} {e : Int} {r : ℚ} (hm : 0 < m) (h : RoundsBack m e r)
    (hbot : ¬ (m = 2 ^ 52 ∧ -1074 < e ∧ r / 2 ^ e < 2 ^ 52)) : RoundsTo (r / 2 ^ e) m := by
  have hb := roundsBack_div h
  -- at a power of two with a normal exponent the lower midpoint is nearer, but then the ratio
  -- is not below `m`
  have hlow : (if m % 2 = 0 then (m : ℚ) - 1 / 2 ≤ r / 2 ^ e else (m : ℚ) - 1 / 2 < r / 2 ^ e) := by
    by_cases hspecial : m = 2 ^ 52 ∧ -1074 < e
    · have hu52 : (2 : ℚ) ^ 52 ≤ r / 2 ^ e := by
        by_contra hlt
        exact hbot ⟨hspecial.1, hspecial.2, lt_of_not_ge hlt⟩
      have : (m : ℚ) = 2 ^ 52 := by rw [hspecial.1]; norm_num
      split <;> linarith
    · have hlm : lowerMidpoint m e = 4 * m - 2 := by
        unfold lowerMidpoint
        rw [if_neg (by simpa [Nat.pow_eq] using hspecial)]
      rw [hlm, Nat.cast_sub (by omega)] at hb
      push_cast at hb
      split at hb <;> rename_i hpar <;> simp only [hpar, if_true, if_false] <;> linarith [hb.1]
  unfold RoundsTo
  split at hb <;> rename_i hpar <;> simp only [hpar, if_true, if_false] at hlow ⊢
  · rw [abs_le]; constructor <;> linarith [hb.2]
  · rw [abs_lt]; constructor <;> linarith [hb.2]

theorem quarter_le_of_roundsBack {e : Int} {r : ℚ} (h : RoundsBack (2 ^ 52) e r) (he : -1074 < e) :
    (2 : ℚ) ^ 52 - 1 / 4 ≤ r / 2 ^ e := by
  have hb := roundsBack_div h
  have hlm : lowerMidpoint (2 ^ 52) e = 4 * 2 ^ 52 - 1 := by
    unfold lowerMidpoint; rw [if_pos ⟨rfl, he⟩]
  rw [hlm] at hb
  simp only [show 2 ^ 52 % 2 = 0 by norm_num, if_true] at hb
  have := hb.1
  push_cast at this
  linarith

theorem roundsTo_carry {e : Int} {r : ℚ} (h : RoundsBack (2 ^ 52) e r) (he : -1074 < e)
    (hlt : r / 2 ^ e < 2 ^ 52) : RoundsTo (r / 2 ^ (e - 1)) (2 ^ 53) := by
  have hlow4 := quarter_le_of_roundsBack h he
  have h2u : r / 2 ^ (e - 1) = 2 * (r / 2 ^ e) := by
    rw [zpow_sub₀ two_ne_zero, zpow_one]
    field_simp
  rw [h2u]
  unfold RoundsTo
  rw [if_pos (by norm_num), abs_le]
  push_cast
  constructor <;> linarith

theorem exponent_eq_of_carry {e : Int} {p q : Nat} (hp : 0 < p) (hq : 0 < q)
    (h : RoundsBack (2 ^ 52) e (p / q)) (he : -1074 < e) (hlt : (p : ℚ) / q / 2 ^ e < 2 ^ 52) :
    max (floorLog2 p q - 52) (-1074) = e - 1 := by
  obtain ⟨hL1, hL2⟩ := floorLog2_sub_spec hp hq e
  have hlow4 := quarter_le_of_roundsBack h he
  have hu52 : (p : ℚ) / q / 2 ^ e < 2 ^ (52 : Int) := by rw [zpow_ofNat]; exact hlt
  have hu51 : (2 : ℚ) ^ (51 : Int) ≤ p / q / 2 ^ e := by rw [zpow_ofNat]; linarith
  have h1 := exponent_lt_of_zpow hL1 hu52
  have h2 := exponent_lt_of_zpow hu51 hL2
  omega

theorem exponent_eq_of_roundsBack {m : Nat} {e : Int} {p q : Nat} (hp : 0 < p) (hq : 0 < q)
    (hm : 0 < m) (hn : Normal m e) (h : RoundsBack m e (p / q))
    (hbot : ¬ (m = 2 ^ 52 ∧ -1074 < e ∧ (p : ℚ) / q / 2 ^ e < 2 ^ 52)) :
    max (floorLog2 p q - 52) (-1074) = e := by
  obtain ⟨hL1, hL2⟩ := floorLog2_sub_spec hp hq e
  obtain ⟨hlower, hupper⟩ := near_of_roundsBack hm h
  set u := (p : ℚ) / q / 2 ^ e with hu
  have hmax : (m : ℚ) + 1 ≤ 2 ^ 53 := by exact_mod_cast hn.lt
  -- the binade of `u` lies below `2^53`
  have h53 : u < 2 ^ (53 : Int) := by rw [zpow_ofNat]; linarith
  have hd : floorLog2 p q - e < 53 := exponent_lt_of_zpow hL1 h53
  by_cases hu52 : (2 : ℚ) ^ 52 ≤ u
  · have hu52' : (2 : ℚ) ^ (52 : Int) ≤ u := by rw [zpow_ofNat]; exact hu52
    have := exponent_lt_of_zpow hu52' hL2
    have := hn.low
    omega
  · -- below `2^52` only the least exponent is possible
    have hu52' : u < 2 ^ (52 : Int) := by rw [zpow_ofNat]; exact lt_of_not_ge hu52
    have h1 := exponent_lt_of_zpow hL1 hu52'
    have hm52 : m ≤ 2 ^ 52 := by
      by_contra hgt
      have : ((2 ^ 52 + 1 : Nat) : ℚ) ≤ m := by exact_mod_cast (by omega : 2 ^ 52 + 1 ≤ m)
      push_cast at this
      exact hu52 (by linarith)
    have he : e = -1074 := by
      rcases hn.norm with hnorm | hnorm
      · have : m = 2 ^ 52 := by omega
        have := hn.low
        by_contra hne
        exact hbot ⟨‹m = 2 ^ 52›, by omega, lt_of_not_ge hu52⟩
      · exact hnorm
    omega

theorem ofRatio_eq_of_roundsBack {x : Double} {neg : Bool} {m : Nat} {e : Int} {p q : Nat}
    (hx : x.kind = .finite neg m e) (hm : 0 < m) (hp : 0 < p) (hq : 0 < q)
    (h : RoundsBack m e (p / q)) : ofRatio neg p q = x := by
  obtain ⟨hn, rfl⟩ := eq_of_kind_finite hx
  have he' : ¬ (e > 971) := by have := hn.high; omega
  by_cases hbot : m = 2 ^ 52 ∧ -1074 < e ∧ (p : ℚ) / q / 2 ^ e < 2 ^ 52
  · -- rounding one binade down, at exponent `e - 1`, carries up to `2^53`
    obtain ⟨rfl, he, hlt⟩ := hbot
    rw [ofRatio_eq_round hp (exponent_eq_of_carry hp hq h he hlt)
      (roundHalfEven_scaled hq (roundsTo_carry h he hlt))]
    simp only [Nat.pow_eq, if_true, sub_add_cancel, he', if_false, lt_irrefl, Nat.sub_self,
      Nat.mod_self]
  · -- the exponent is `e` and the significand rounds to `m`
    rw [ofRatio_eq_round hp (exponent_eq_of_roundsBack hp hq hm hn h hbot)
      (roundHalfEven_scaled hq (roundsTo_of_roundsBack hm h hbot))]
    have hlt : m ≠ Nat.pow 2 53 := by have := hn.lt; simp only [Nat.pow_eq]; omega
    simp only [hlt, if_false, he', Nat.pow_eq]
    split
    · rename_i hsmall
      rw [Nat.mod_eq_of_lt hsmall]
    · rw [show m % 2 ^ 52 = m - 2 ^ 52 by have := hn.lt; omega]

end UpnpBinding.Double
