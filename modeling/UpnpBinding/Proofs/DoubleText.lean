import UpnpBinding.Number.Reading
import UpnpBinding.Proofs.Rounding
import Mathlib.Data.List.TakeWhile
/-!
The text of a double reads back as the same double. The shortest decimal search finds a decimal
that rounds back to the double: at seventeen significant digits, if not before, the decimal grid
is finer than the gap between the midpoints around the double, so the grid point below the
double or the one above lies between them. The layout then writes that decimal so that reading
it gives the same value, and rounding that value gives the double.
-/
namespace UpnpBinding.Double

theorem readsBack_eq_true_iff {m : Nat} {e : Int} {c : Nat} {k : Int} :
    readsBack m (lowerMidpoint m e) (4 * m + 2) e c k = true ↔ RoundsBack m e (c * 10 ^ k) := by
  unfold readsBack RoundsBack
  by_cases hpar : m % 2 = 0
  · simp only [hpar, beq_self_eq_true, if_true, Bool.and_eq_true, bne_iff_ne, ne_eq,
      compareScaled_eq_lt, compareScaled_eq_gt, not_lt]
  · simp only [hpar, beq_iff_eq, if_false, Bool.and_eq_true, compareScaled_eq_lt,
      compareScaled_eq_gt]

theorem floorScaled_spec (x : Nat) (s k : Int) :
    (floorScaled x s k : ℚ) * 10 ^ k ≤ x * 2 ^ s ∧
      (x : ℚ) * 2 ^ s < (floorScaled x s k + 1) * 10 ^ k := by
  unfold floorScaled
  simp only [Nat.pow_eq]
  set A := x * 2 ^ s.toNat * 10 ^ (-k).toNat
  set B := 10 ^ k.toNat * 2 ^ (-s).toNat
  have hB : 0 < B := by positivity
  have hdm := Nat.div_add_mod A B
  have hr := Nat.mod_lt A hB
  have hB' : (0 : ℚ) < 10 ^ (-k).toNat * 2 ^ (-s).toNat := by positivity
  rw [zpow_eq_div_pow (by norm_num) k, zpow_eq_div_pow two_ne_zero s]
  -- both sides over the common denominator `10^(-k) * 2^(-s)`
  have hl (c : ℚ) : c * (10 ^ k.toNat / 10 ^ (-k).toNat) =
      c * B / (10 ^ (-k).toNat * 2 ^ (-s).toNat) := by
    simp only [B]; push_cast; field_simp
  have hr' : (x : ℚ) * (2 ^ s.toNat / 2 ^ (-s).toNat) = A / (10 ^ (-k).toNat * 2 ^ (-s).toNat) := by
    simp only [A]; push_cast; field_simp
  rw [hl, hl, hr', div_le_div_iff_of_pos_right hB', div_lt_div_iff_of_pos_right hB']
  constructor
  · have : A / B * B ≤ A := Nat.div_mul_le_self A B
    exact_mod_cast this
  · have : A < (A / B + 1) * B := by rw [Nat.add_mul, Nat.one_mul, Nat.mul_comm]; omega
    exact_mod_cast this

theorem estimate_le_succ : ∀ i : Nat, i < 2098 →
    compareScaled 1 (Int.fdiv (((i : Int) - 1074) * 78913) 262144 - 1) 1 ((i : Int) - 1074) ≠ .gt := by
  set_option maxRecDepth 20000 in decide +kernel

theorem floorLog10_le {m : Nat} {e : Int} (hm : 0 < m) (hn : Normal m e) :
    (10 : ℚ) ^ floorLog10 m e ≤ m * 2 ^ e := by
  have hlog : m.log2 < 53 := (Nat.log2_lt (by omega)).mpr hn.lt
  have hlow := hn.low
  have hhigh := hn.high
  -- the binary exponent of `m * 2^e`
  have hL : (2 : ℚ) ^ ((m.log2 : Int) + e) ≤ m * 2 ^ e := by
    rw [zpow_add₀ two_ne_zero]
    gcongr
    exact two_zpow_log2_le hm
  unfold floorLog10
  dsimp only
  generalize hest : Int.fdiv (((m.log2 : Int) + e) * 78913) 262144 = est
  -- one step up when the power above is still below the value; the estimate less one otherwise
  by_cases hup : compareScaled 1 est m e = .gt
  · have hest1 := estimate_le_succ (m.log2 + e + 1074).toNat (by omega)
    rw [show (((m.log2 + e + 1074).toNat : Nat) : Int) - 1074 = (m.log2 : Int) + e by omega,
      hest] at hest1
    rw [Ne, compareScaled_eq_gt, Nat.cast_one, one_mul, one_mul, not_lt] at hest1
    simp only [hup, beq_self_eq_true, if_true]
    split
    · rename_i h
      simpa only [bne_iff_ne, ne_eq, compareScaled_eq_gt, Nat.cast_one, one_mul, not_lt,
        sub_add_cancel] using h
    · exact le_trans hest1 hL
  · have hup' : (compareScaled 1 est m e == .gt) = false := by simpa using hup
    simp only [hup', Bool.false_eq_true, if_false]
    split
    · rename_i h
      simpa only [bne_iff_ne, ne_eq, compareScaled_eq_gt, Nat.cast_one, one_mul, not_lt] using h
    · simpa only [compareScaled_eq_gt, Nat.cast_one, one_mul, not_lt] using hup

theorem roundsBack_of_between {m : Nat} {e : Int} {r : ℚ}
    (hlo : (lowerMidpoint m e : ℚ) * 2 ^ (e - 2) < r) (hhi : r < ((4 * m + 2 : Nat) : ℚ) * 2 ^ (e - 2)) :
    RoundsBack m e r := by
  unfold RoundsBack
  split
  · exact ⟨hlo.le, hhi.le⟩
  · exact ⟨hlo, hhi⟩

theorem tryDigits_readsBack {m lo hi n : Nat} {e top : Int} {c : Nat} {k : Int}
    (h : tryDigits m lo hi e top n = some (c, k)) : readsBack m lo hi e c k = true := by
  unfold tryDigits at h
  dsimp only at h
  split at h
  · rename_i hboth
    rw [Bool.and_eq_true] at hboth
    split at h <;> (try split at h) <;> cases h
    all_goals first | exact hboth.1 | exact hboth.2
  · split at h
    · cases h; assumption
    · split at h
      · cases h; assumption
      · cases h

theorem tryDigits_isSome {m lo hi n : Nat} {e top : Int}
    (h : readsBack m lo hi e (floorScaled (4 * m) (e - 2) (top - n + 1)) (top - n + 1) = true ∨
      readsBack m lo hi e (floorScaled (4 * m) (e - 2) (top - n + 1) + 1) (top - n + 1) = true) :
    (tryDigits m lo hi e top n).isSome := by
  unfold tryDigits
  dsimp only
  split
  · split <;> (try split) <;> rfl
  · rcases h with h | h
    · simp [h]
    · split <;> rfl

theorem tryDigits_seventeen {m : Nat} {e : Int} (hm : 0 < m) (hn : Normal m e) :
    (tryDigits m (lowerMidpoint m e) (4 * m + 2) e (floorLog10 m e) 17).isSome := by
  set k : Int := floorLog10 m e - 17 + 1
  set c := floorScaled (4 * m) (e - 2) k
  obtain ⟨hc1, hc2⟩ := floorScaled_spec (4 * m) (e - 2) k
  have ht : (0 : ℚ) < 2 ^ e := by positivity
  have hquarter : (2 : ℚ) ^ (e - 2) = 2 ^ e / 4 := by
    rw [zpow_sub₀ two_ne_zero]; norm_num
  rw [hquarter] at hc1 hc2
  push_cast at hc1 hc2
  have hstep : (10 : ℚ) ^ k * 10 ^ 16 ≤ m * 2 ^ e := by
    have := floorLog10_le hm hn
    rw [← zpow_natCast, ← zpow_add₀ (by norm_num)]
    simp only [k]
    convert this using 2
    push_cast; ring
  have hm53 : (m : ℚ) < 2 ^ 53 := by exact_mod_cast hn.lt
  -- the midpoints, in units of `2^e`
  have hlo : (lowerMidpoint m e : ℚ) ≤ 4 * m - 1 := by
    have : lowerMidpoint m e + 1 ≤ 4 * m := by unfold lowerMidpoint; split <;> omega
    have : ((lowerMidpoint m e + 1 : Nat) : ℚ) ≤ ((4 * m : Nat) : ℚ) := by exact_mod_cast this
    push_cast at this; linarith
  have hwide : (10 : ℚ) ^ k < ((4 * m + 2 : Nat) - (lowerMidpoint m e : ℚ)) * (2 ^ e / 4) := by
    unfold lowerMidpoint
    split
    · -- below a power of two the gap is three quarters of a unit
      rename_i hpow
      have hmq : (m : ℚ) = 2 ^ 52 := by rw [hpow.1]; norm_num
      rw [Nat.cast_sub (by omega)]
      push_cast
      rw [hmq] at hstep ⊢
      linarith
    · rw [Nat.cast_sub (by omega)]
      push_cast
      nlinarith
  have hmid : (lowerMidpoint m e : ℚ) * (2 ^ e / 4) < m * 2 ^ e := by
    have := mul_le_mul_of_nonneg_right hlo (by positivity : (0 : ℚ) ≤ 2 ^ e / 4)
    linarith
  push_cast at hwide
  have hgood : readsBack m (lowerMidpoint m e) (4 * m + 2) e c k = true ∨
      readsBack m (lowerMidpoint m e) (4 * m + 2) e (c + 1) k = true := by
    simp only [readsBack_eq_true_iff]
    by_cases hbelow : (lowerMidpoint m e : ℚ) * (2 ^ e / 4) < c * 10 ^ k
    · left
      apply roundsBack_of_between <;> rw [hquarter]
      · exact hbelow
      · push_cast; linarith
    · right
      rw [not_lt] at hbelow
      apply roundsBack_of_between <;> rw [hquarter] <;> push_cast <;> linarith
  exact tryDigits_isSome hgood

theorem searchDigits_readsBack {m lo hi : Nat} {e top : Int} (fuel n : Nat)
    (h : (tryDigits m lo hi e top (n + fuel)).isSome) :
    readsBack m lo hi e (searchDigits m lo hi e top (fuel + 1) n).1
      (searchDigits m lo hi e top (fuel + 1) n).2 = true := by
  induction fuel generalizing n with
  | zero =>
    obtain ⟨p, hp⟩ := Option.isSome_iff_exists.mp h
    simp only [searchDigits, Nat.add_zero] at hp ⊢
    rw [hp]
    exact tryDigits_readsBack hp
  | succ fuel ih =>
    unfold searchDigits
    split
    · rename_i p hp
      exact tryDigits_readsBack hp
    · exact ih (n + 1) (by rwa [show n + 1 + fuel = n + (fuel + 1) by omega])

theorem stripZeros_value (fuel c : Nat) (k : Int) :
    ((stripZeros fuel (c, k)).1 : ℚ) * 10 ^ (stripZeros fuel (c, k)).2 = c * 10 ^ k := by
  induction fuel generalizing c k with
  | zero => rfl
  | succ fuel ih =>
    unfold stripZeros
    split
    · rename_i h
      rw [ih, zpow_add_one₀ (by norm_num)]
      have hc : ((c / 10 : Nat) : ℚ) * 10 = c := by
        exact_mod_cast Nat.div_mul_cancel (Nat.dvd_of_mod_eq_zero h.2)
      rw [← hc]
      ring
    · rfl

theorem roundsBack_pos {m : Nat} {e : Int} {r : ℚ} (hm : 0 < m) (h : RoundsBack m e r) : 0 < r := by
  have hlo : (0 : ℚ) < lowerMidpoint m e := by
    have : 0 < lowerMidpoint m e := by unfold lowerMidpoint; split <;> omega
    exact_mod_cast this
  have hpos : (0 : ℚ) < (lowerMidpoint m e : ℚ) * 2 ^ (e - 2) := by positivity
  unfold RoundsBack at h
  split at h
  · exact lt_of_lt_of_le hpos h.1
  · exact lt_trans hpos h.1

theorem shortestDecimal_roundsBack {m : Nat} {e : Int} (hm : 0 < m) (hn : Normal m e) :
    RoundsBack m e ((shortestDecimal m e).1 * 10 ^ (shortestDecimal m e).2) ∧
      0 < (shortestDecimal m e).1 := by
  have hfound := searchDigits_readsBack 16 1 (tryDigits_seventeen hm hn)
  rw [readsBack_eq_true_iff] at hfound
  unfold shortestDecimal
  dsimp only
  rw [show (if m = Nat.pow 2 52 ∧ e > -1074 then 4 * m - 1 else 4 * m - 2) = lowerMidpoint m e
    from rfl]
  generalize searchDigits m (lowerMidpoint m e) (4 * m + 2) e (floorLog10 m e) 17 1 = sd at hfound
  obtain ⟨c, k⟩ := sd
  dsimp only at hfound ⊢
  have hr : RoundsBack m e ((stripZeros 20 (c, k)).1 * 10 ^ (stripZeros 20 (c, k)).2) := by
    rwa [stripZeros_value]
  refine ⟨hr, Nat.pos_of_ne_zero fun h0 => ?_⟩
  have := roundsBack_pos hm hr
  rw [h0, Nat.cast_zero, zero_mul] at this
  exact lt_irrefl 0 this

end UpnpBinding.Double

namespace UpnpBinding.Reading

theorem toLower_of_isDigit {c : Char} (h : c.isDigit = true) : c.toLower = c := by
  unfold Char.toLower
  rw [dif_neg]
  intro h'
  unfold Char.isDigit at h
  simp only [Bool.and_eq_true, decide_eq_true_eq, ge_iff_le, UInt32.le_iff_toNat_le] at h h'
  have : 'A'.val.toNat = 65 := rfl
  have : '9'.val.toNat = 57 := rfl
  omega

theorem toNat_of_isDigit {c : Char} (h : c.isDigit = true) : 48 ≤ c.toNat ∧ c.toNat ≤ 57 := by
  unfold Char.isDigit at h
  simp only [Bool.and_eq_true, decide_eq_true_eq, ge_iff_le, UInt32.le_iff_toNat_le] at h
  have : '9'.val.toNat = 57 := rfl
  have : '0'.val.toNat = 48 := rfl
  simp only [Char.toNat]
  omega

theorem isSpace_of_isDigit {c : Char} (h : c.isDigit = true) : isSpace c = false := by
  have hc := toNat_of_isDigit h
  unfold isSpace
  simp only [Bool.or_eq_false_iff, beq_eq_false_iff_ne, ne_eq]
  refine ⟨⟨⟨⟨⟨?_, ?_⟩, ?_⟩, ?_⟩, ?_⟩, ?_⟩ <;> intro h' <;>
    first | (subst h'; simp at h) | omega

theorem digitsValue_eq_ofDigitChars (ds : List Char) : digitsValue ds = Nat.ofDigitChars 10 ds 0 :=
  rfl

theorem digitsValue_append (l l' : List Char) :
    digitsValue (l ++ l') = digitsValue l * 10 ^ l'.length + digitsValue l' := by
  simp only [digitsValue_eq_ofDigitChars, Nat.ofDigitChars_append]
  rw [Nat.ofDigitChars_eq_ofDigitChars_zero]
  ring

@[simp] theorem digitsValue_replicate_zero (n : Nat) : digitsValue (List.replicate n '0') = 0 := by
  simp [digitsValue_eq_ofDigitChars]

@[simp] theorem digitsValue_toDigits (c : Nat) : digitsValue (Nat.toDigits 10 c) = c := by
  simp [digitsValue_eq_ofDigitChars]

theorem dropWhile_eq_self_of_head {p : Char → Bool} {l : List Char}
    (h : ∀ c, l.head? = some c → p c = false) : l.dropWhile p = l := by
  cases l with
  | nil => rfl
  | cons c t => exact List.dropWhile_cons_of_neg (by simp [h c rfl])

theorem trimSpaces_eq_self {cs : List Char} (hhead : ∀ c, cs.head? = some c → isSpace c = false)
    (hlast : ∀ c, cs.getLast? = some c → isSpace c = false) : trimSpaces cs = cs := by
  unfold trimSpaces
  rw [dropWhile_eq_self_of_head hhead, dropWhile_eq_self_of_head (by rwa [List.head?_reverse]),
    List.reverse_reverse]

theorem splitSign_of_isDigit {d : Char} (hd : d.isDigit = true) (rest : List Char) :
    splitSign (d :: rest) = (false, d :: rest) := by
  unfold splitSign
  split
  · rename_i h; cases h; simp at hd
  · rename_i h; cases h; simp at hd
  · rfl

theorem normalize_of_lt {c : Char} (h : c.toNat < 0x7F) : normalize c = c := by
  unfold normalize
  rw [if_pos h]

theorem readReal_of_signed {s : String} {neg : Bool} {d : Char} {rest : List Char}
    (hs : s.toList = (if neg then ['-'] else []) ++ d :: rest) (hd : d.isDigit = true)
    (hascii : ∀ c ∈ rest, c.toNat < 0x7F) (hnu : '_' ∉ rest)
    (hlast : ∀ c, (d :: rest).getLast? = some c → isSpace c = false) :
    readReal s = (readUnsignedReal neg (d :: rest)).elim (.error (.notReal s)) .ok := by
  have hchar : ∀ c ∈ d :: rest, c.toNat < 0x7F ∧ c ≠ '_' := by
    intro c hc
    rcases List.mem_cons.mp hc with rfl | hc
    · exact ⟨by have := toNat_of_isDigit hd; omega, by rintro rfl; simp at hd⟩
    · exact ⟨hascii c hc, by rintro rfl; exact hnu hc⟩
  have hmem : ∀ c ∈ s.toList, c.toNat < 0x7F ∧ c ≠ '_' := by
    intro c hc
    rw [hs, List.mem_append] at hc
    rcases hc with hc | hc
    · cases neg <;> simp only [if_true, List.mem_singleton, if_false, Bool.false_eq_true,
        List.not_mem_nil] at hc
      subst hc
      exact ⟨by decide, by decide⟩
    · exact hchar c hc
  have hnorm : s.toList.map normalize = s.toList := by
    conv_rhs => rw [← List.map_id s.toList]
    exact List.map_congr_left fun c hc => normalize_of_lt (hmem c hc).1
  have htrim : trimSpaces s.toList = s.toList := by
    apply trimSpaces_eq_self
    · intro c hc
      rw [hs] at hc
      cases neg <;> simp only [if_true, List.cons_append, List.nil_append, List.head?_cons,
        Option.some.injEq, if_false, Bool.false_eq_true] at hc <;> subst hc
      · exact isSpace_of_isDigit hd
      · decide
    · intro c hc
      rw [hs, List.getLast?_append, List.getLast?_cons] at hc
      exact hlast c (by simpa [List.getLast?_cons] using hc)
  have hcont : s.toList.contains '_' = false := by
    rw [Bool.eq_false_iff]
    intro h
    exact (hmem '_' (List.contains_iff_mem.mp h)).2 rfl
  have hfilt : s.toList.filter (· != '_') = s.toList :=
    List.filter_eq_self.mpr fun c hc => by simpa using (hmem c hc).2
  unfold readReal
  simp only [hnorm, htrim, hcont, Bool.false_and, Bool.false_eq_true, if_false, hfilt]
  rw [hs]
  cases neg
  · simp only [Bool.false_eq_true, if_false, List.nil_append, splitSign_of_isDigit hd]
    cases readUnsignedReal false (d :: rest) <;> rfl
  · rw [show splitSign ((if true = true then ['-'] else []) ++ d :: rest) = (true, d :: rest) from rfl]
    cases readUnsignedReal true (d :: rest) <;> rfl

theorem ofList_toLower_beq {l : List Char} {d c : Char} {w : String} (hl : l.head? = some d)
    (hd : d.isDigit = true) (hw : w.toList.head? = some c) (hc : c.isDigit = false) :
    (String.ofList (l.map Char.toLower) == w) = false := by
  rw [beq_eq_false_iff_ne]
  intro h
  have hlist := congrArg (fun t => t.toList.head?) h
  simp only [String.toList_ofList, List.head?_map, hl, Option.map_some, toLower_of_isDigit hd,
    hw, Option.some.injEq] at hlist
  rw [hlist, hc] at hd
  cases hd

theorem head_inf : ("inf" : String).toList.head? = some 'i' := by decide
theorem head_infinity : ("infinity" : String).toList.head? = some 'i' := by decide
theorem head_nan : ("nan" : String).toList.head? = some 'n' := by decide

theorem not_isDigit_point : ¬ ('.'.isDigit = true) := by decide
theorem not_isDigit_e : ¬ ('e'.isDigit = true) := by decide

theorem all_isDigit_cons {d : Char} {is : List Char} (hd : d.isDigit = true)
    (his : ∀ c ∈ is, c.isDigit = true) : ∀ c ∈ d :: is, c.isDigit = true := by
  intro c hc
  rcases List.mem_cons.mp hc with rfl | hc
  exacts [hd, his c hc]

theorem readUnsignedReal_point {neg : Bool} {d : Char} {is fs : List Char} (hd : d.isDigit = true)
    (his : ∀ c ∈ is, c.isDigit = true) (hfs : ∀ c ∈ fs, c.isDigit = true) :
    readUnsignedReal neg ((d :: is) ++ '.' :: fs) =
      some (Double.ofDecimal neg (digitsValue ((d :: is) ++ fs)) (-(fs.length : Int))) := by
  have hall := all_isDigit_cons hd his
  have hhead : ((d :: is) ++ '.' :: fs).head? = some d := rfl
  unfold readUnsignedReal
  simp only [ofList_toLower_beq hhead hd head_inf (by decide),
    ofList_toLower_beq hhead hd head_infinity (by decide),
    ofList_toLower_beq hhead hd head_nan (by decide), Bool.or_false, Bool.false_eq_true, if_false]
  rw [List.takeWhile_append_of_pos hall, List.dropWhile_append_of_pos hall,
    List.takeWhile_cons_of_neg not_isDigit_point, List.dropWhile_cons_of_neg not_isDigit_point]
  simp only [List.takeWhile_eq_self_iff.mpr hfs, List.dropWhile_eq_nil_iff.mpr hfs, List.append_nil,
    List.isEmpty_cons, Bool.false_and, Bool.false_eq_true, if_false, Option.map_some, zero_sub]

theorem readUnsignedReal_exponent {neg : Bool} {d : Char} {is fr fs es : List Char} {sg : Char}
    (hd : d.isDigit = true) (his : ∀ c ∈ is, c.isDigit = true) (hfs : ∀ c ∈ fs, c.isDigit = true)
    (hfr : fr = [] ∧ fs = [] ∨ fr = '.' :: fs) (hsg : sg = '-' ∨ sg = '+') (hne : es ≠ [])
    (hes : ∀ c ∈ es, c.isDigit = true) :
    readUnsignedReal neg ((d :: is) ++ fr ++ 'e' :: sg :: es) =
      some (Double.ofDecimal neg (digitsValue ((d :: is) ++ fs))
        ((if sg = '-' then -(digitsValue es : Int) else digitsValue es) - fs.length)) := by
  have hall := all_isDigit_cons hd his
  have hhead : ((d :: is) ++ fr ++ 'e' :: sg :: es).head? = some d := rfl
  have hesall : es.all Char.isDigit = true := List.all_eq_true.mpr hes
  have hempty : es.isEmpty = false := List.isEmpty_eq_false_iff.mpr hne
  have hfs' : (fs ++ 'e' :: sg :: es).takeWhile Char.isDigit = fs ∧
      (fs ++ 'e' :: sg :: es).dropWhile Char.isDigit = 'e' :: sg :: es := by
    rw [List.takeWhile_append_of_pos hfs, List.dropWhile_append_of_pos hfs,
      List.takeWhile_cons_of_neg not_isDigit_e, List.dropWhile_cons_of_neg not_isDigit_e,
      List.append_nil]
    exact ⟨rfl, rfl⟩
  unfold readUnsignedReal
  simp only [ofList_toLower_beq hhead hd head_inf (by decide),
    ofList_toLower_beq hhead hd head_infinity (by decide),
    ofList_toLower_beq hhead hd head_nan (by decide), Bool.or_false, Bool.false_eq_true, if_false]
  rw [List.append_assoc, List.takeWhile_append_of_pos hall, List.dropWhile_append_of_pos hall]
  rcases hfr with ⟨rfl, rfl⟩ | rfl
  · rw [List.nil_append, List.takeWhile_cons_of_neg not_isDigit_e,
      List.dropWhile_cons_of_neg not_isDigit_e]
    rcases hsg with rfl | rfl <;>
      simp [splitSign, hesall, hempty]
  · rw [show ('.' :: fs) ++ 'e' :: sg :: es = '.' :: (fs ++ 'e' :: sg :: es) from rfl,
      List.takeWhile_cons_of_neg not_isDigit_point, List.dropWhile_cons_of_neg not_isDigit_point]
    simp only [hfs'.1, hfs'.2]
    rcases hsg with rfl | rfl <;>
      simp [splitSign, hesall, hempty]

def NumberChar (c : Char) : Prop := c.isDigit = true ∨ c = '.' ∨ c = 'e' ∨ c = '+' ∨ c = '-'

theorem NumberChar.props {c : Char} (h : NumberChar c) :
    c.toNat < 0x7F ∧ c ≠ '_' ∧ isSpace c = false := by
  rcases h with h | rfl | rfl | rfl | rfl
  · exact ⟨by have := toNat_of_isDigit h; omega, by rintro rfl; simp at h, isSpace_of_isDigit h⟩
  all_goals decide

theorem readReal_of_numberChars {s : String} {neg : Bool} {d : Char} {r : List Char}
    (hs : s.toList = (if neg then ['-'] else []) ++ d :: r) (hd : d.isDigit = true)
    (hrest : ∀ c ∈ r, NumberChar c) :
    readReal s = (readUnsignedReal neg (d :: r)).elim (.error (.notReal s)) .ok := by
  apply readReal_of_signed hs hd (fun c hc => (hrest c hc).props.1)
    (fun h => (hrest _ h).props.2.1 rfl)
  intro c hc
  rcases List.mem_cons.mp (List.mem_of_getLast? hc) with rfl | hmem
  · exact isSpace_of_isDigit hd
  · exact (hrest c hmem).props.2.2

theorem readReal_point {s : String} {neg : Bool} {d : Char} {i f : List Char}
    (hs : s.toList = (if neg then ['-'] else []) ++ ((d :: i) ++ '.' :: f)) (hd : d.isDigit = true)
    (his : ∀ c ∈ i, c.isDigit = true) (hfs : ∀ c ∈ f, c.isDigit = true) :
    readReal s = .ok (Double.ofDecimal neg (digitsValue ((d :: i) ++ f)) (-(f.length : Int))) := by
  rw [List.cons_append] at hs
  rw [readReal_of_numberChars (r := i ++ '.' :: f) hs hd,
    show d :: (i ++ '.' :: f) = (d :: i) ++ '.' :: f from rfl, readUnsignedReal_point hd his hfs,
    Option.elim_some]
  intro c hc
  rcases List.mem_append.mp hc with hc | hc
  · exact .inl (his c hc)
  · rcases List.mem_cons.mp hc with rfl | hc
    · exact .inr (.inl rfl)
    · exact .inl (hfs c hc)

theorem readReal_exponent {s : String} {neg : Bool} {d : Char} {i r f es : List Char} {sg : Char}
    (hs : s.toList = (if neg then ['-'] else []) ++ ((d :: i) ++ r ++ 'e' :: sg :: es))
    (hd : d.isDigit = true) (his : ∀ c ∈ i, c.isDigit = true) (hfs : ∀ c ∈ f, c.isDigit = true)
    (hfr : r = [] ∧ f = [] ∨ r = '.' :: f) (hsg : sg = '-' ∨ sg = '+') (hne : es ≠ [])
    (hes : ∀ c ∈ es, c.isDigit = true) :
    readReal s = .ok (Double.ofDecimal neg (digitsValue ((d :: i) ++ f))
      ((if sg = '-' then -(digitsValue es : Int) else digitsValue es) - f.length)) := by
  rw [List.append_assoc, List.cons_append] at hs
  rw [readReal_of_numberChars (r := i ++ (r ++ 'e' :: sg :: es)) hs hd,
    show d :: (i ++ (r ++ 'e' :: sg :: es)) = (d :: i) ++ r ++ 'e' :: sg :: es by
      simp only [List.cons_append, List.append_assoc],
    readUnsignedReal_exponent hd his hfs hfr hsg hne hes, Option.elim_some]
  intro c hc
  simp only [List.mem_append, List.mem_cons] at hc
  rcases hc with hc | hc | rfl | rfl | hc
  · exact .inl (his c hc)
  · rcases hfr with ⟨rfl, -⟩ | rfl
    · cases hc
    · rcases List.mem_cons.mp hc with rfl | hc
      · exact .inr (.inl rfl)
      · exact .inl (hfs c hc)
  · exact .inr (.inr (.inl rfl))
  · rcases hsg with rfl | rfl
    · exact .inr (.inr (.inr (.inr rfl)))
    · exact .inr (.inr (.inr (.inl rfl)))
  · exact .inl (hes c hc)

theorem toList_signed (neg : Bool) (t : String) :
    ((if neg then "-" else "") ++ t).toList = (if neg then ['-'] else []) ++ t.toList := by
  cases neg <;> simp

theorem digit_of_mem_replicate_zero {x : Char} {n : Nat} (h : x ∈ List.replicate n '0') :
    x.isDigit = true := by
  rw [List.eq_of_mem_replicate h]; rfl

theorem paddedExponent_reads {w : Nat} {p : Int} {es : List Char}
    (hes : es = List.replicate (w - (Nat.toDigits 10 p.natAbs).length) '0' ++
      Nat.toDigits 10 p.natAbs) :
    (∀ x ∈ es, x.isDigit = true) ∧ es ≠ [] ∧
      (if (if p < 0 then '-' else '+') = '-' then -(digitsValue es : Int) else digitsValue es) = p := by
  have hval : digitsValue es = p.natAbs := by simp [hes, digitsValue_append]
  refine ⟨fun x hx => ?_, by simp [hes], ?_⟩
  · rw [hes] at hx
    rcases List.mem_append.mp hx with hx | hx
    · exact digit_of_mem_replicate_zero hx
    · exact Nat.isDigit_of_mem_toDigits (by norm_num) (by norm_num) hx
  · rw [hval]
    by_cases h : p < 0
    · rw [if_pos h, if_pos rfl]; omega
    · rw [if_neg h, if_neg (by decide)]; omega

theorem readReal_layout (neg : Bool) (c : Nat) (k : Int) :
    ∃ N E, readReal ((if neg then "-" else "") ++
        DoubleFormat.standard.layout (Nat.toDigits 10 c) (k + (Nat.toDigits 10 c).length - 1)) =
        .ok (Double.ofDecimal neg N E) ∧ (N : ℚ) * 10 ^ E = c * 10 ^ k := by
  have hdig : ∀ x ∈ Nat.toDigits 10 c, x.isDigit = true :=
    fun x hx => Nat.isDigit_of_mem_toDigits (by norm_num) (by norm_num) hx
  have hval := digitsValue_toDigits c
  obtain ⟨d, rest, hdr⟩ := List.exists_cons_of_ne_nil (Nat.toDigits_ne_nil (b := 10) (n := c))
  rw [hdr] at hdig hval ⊢
  have hd := hdig d List.mem_cons_self
  have hrest : ∀ x ∈ rest, x.isDigit = true := fun x hx => hdig x (List.mem_cons_of_mem d hx)
  have hsign : ((if neg then "-" else "") : String).toList = if neg then ['-'] else [] := by
    cases neg <;> rfl
  generalize ((if neg then "-" else "") : String) = sgn at hsign ⊢
  generalize hp : k + ((d :: rest).length : Int) - 1 = p
  have hk : k = p + 1 - (rest.length + 1 : Nat) := by
    simp only [List.length_cons] at hp; push_cast at hp ⊢; omega
  have hmin : DoubleFormat.standard.minPositional = -4 := rfl
  have hmax : DoubleFormat.standard.maxPositional = 15 := rfl
  unfold DoubleFormat.layout
  by_cases hout : (p < DoubleFormat.standard.minPositional ||
      p > DoubleFormat.standard.maxPositional) = true
  · -- the exponent form `d.ddde±xx`
    rw [if_pos hout]
    dsimp only
    set es := List.replicate (DoubleFormat.standard.exponentWidth -
      (Nat.toDigits 10 p.natAbs).length) '0' ++ Nat.toDigits 10 p.natAbs with hes_def
    obtain ⟨hes, hne, hexp⟩ := paddedExponent_reads hes_def
    have hsg : (if p < 0 then '-' else '+') = '-' ∨ (if p < 0 then '-' else '+') = '+' := by
      split <;> simp
    have hsgl : (if p < 0 then "-" else "+").toList = [if p < 0 then '-' else '+'] := by
      split <;> rfl
    cases rest with
    | nil =>
      refine ⟨digitsValue ([d] ++ []), _, readReal_exponent (i := []) (r := []) (f := []) ?_ hd
        (by simp) (by simp) (.inl ⟨rfl, rfl⟩) hsg hne hes, ?_⟩
      · simp [hsign, String.toList_append, hsgl]
      · have hE : (if (if p < 0 then '-' else '+') = '-' then -(digitsValue es : Int)
            else digitsValue es) - (([] : List Char).length : Int) = k := by
          rw [hexp, hk]; simp
        rw [hE, List.append_nil, hval]
    | cons r rs =>
      refine ⟨digitsValue ([d] ++ r :: rs), _, readReal_exponent (i := []) (r := '.' :: r :: rs)
        ?_ hd (by simp) hrest (.inr rfl) hsg hne hes, ?_⟩
      · simp [hsign, String.toList_append, hsgl]
      · have hE : (if (if p < 0 then '-' else '+') = '-' then -(digitsValue es : Int)
            else digitsValue es) - ((r :: rs).length : Int) = k := by
          rw [hexp, hk]; simp only [List.length_cons]; push_cast; ring
        rw [hE, show [d] ++ r :: rs = d :: r :: rs from rfl, hval]
  · rw [if_neg hout]
    have hin : -4 ≤ p ∧ p ≤ 15 := by simp [hmin, hmax] at hout; omega
    by_cases hneg : p < 0
    · -- a small value `0.000ddd`
      rw [if_pos hneg]
      refine ⟨digitsValue (['0'] ++ (List.replicate (p.natAbs - 1) '0' ++ d :: rest)), _,
        readReal_point (i := []) ?_ (by decide) (by simp) ?_, ?_⟩
      · simp [hsign, String.toList_append]
      · intro x hx
        rcases List.mem_append.mp hx with hx | hx
        · exact digit_of_mem_replicate_zero hx
        · exact hdig x hx
      · have hE : -(((List.replicate (p.natAbs - 1) '0' ++ d :: rest).length : Nat) : Int) = k := by
          simp only [List.length_append, List.length_replicate, List.length_cons]
          rw [hk]; push_cast; omega
        rw [hE, digitsValue_append, digitsValue_append, hval]
        simp [show digitsValue ['0'] = 0 from rfl]
    · rw [if_neg hneg]
      by_cases hshort : (d :: rest).length ≤ p.toNat + 1
      · -- an integral value `ddd000.0`
        rw [if_pos hshort]
        set j := p.toNat + 1 - (d :: rest).length
        refine ⟨digitsValue ((d :: (rest ++ List.replicate j '0')) ++ ['0']), -1,
          readReal_point ?_ hd ?_ (by simp), ?_⟩
        · simp [hsign, String.toList_append]
        · intro x hx
          rcases List.mem_append.mp hx with hx | hx
          · exact hrest x hx
          · exact digit_of_mem_replicate_zero hx
        · have hj : k = (j : Int) := by
            simp only [j, List.length_cons] at hshort ⊢
            rw [hk]; omega
          rw [show d :: (rest ++ List.replicate j '0') = (d :: rest) ++ List.replicate j '0' from rfl,
            digitsValue_append, digitsValue_append, hval, hj, zpow_natCast]
          simp only [digitsValue_replicate_zero, List.length_replicate, List.length_singleton,
            add_zero, pow_one]
          push_cast
          rw [zpow_neg_one]
          field_simp
          simp [digitsValue]
      · -- digits on both sides of the point
        rw [if_neg hshort]
        refine ⟨digitsValue ((d :: rest.take p.toNat) ++ rest.drop p.toNat), _,
          readReal_point ?_ hd (fun x hx => hrest x (List.mem_of_mem_take hx))
            (fun x hx => hrest x (List.mem_of_mem_drop hx)), ?_⟩
        · simp [hsign, String.toList_append, List.take_succ_cons, List.drop_succ_cons]
        · have hE : -(((rest.drop p.toNat).length : Nat) : Int) = k := by
            simp only [List.length_drop, List.length_cons] at hshort ⊢
            rw [hk]; omega
          rw [hE, show (d :: rest.take p.toNat) ++ rest.drop p.toNat = d :: rest by simp, hval]

end UpnpBinding.Reading

namespace UpnpBinding.Double

theorem decimalLength_spec {N : Nat} (hN : 0 < N) :
    10 ^ (decimalLength N - 1) ≤ N ∧ N < 10 ^ decimalLength N := by
  unfold decimalLength
  have hpos : 0 < (Nat.toDigits 10 N).length := Nat.length_toDigits_pos
  refine ⟨?_, (Nat.length_toDigits_le_iff (by norm_num) hpos).mp le_rfl⟩
  by_contra hlt
  rw [not_le] at hlt
  rcases Nat.eq_zero_or_pos ((Nat.toDigits 10 N).length - 1) with h0 | h0
  · rw [h0] at hlt; omega
  · have := (Nat.length_toDigits_le_iff (by norm_num) h0).mpr hlt
    omega

theorem two_pow_1024_le : (2 : Nat) ^ 1024 ≤ 10 ^ 310 := by decide +kernel
theorem two_pow_1075_le : (2 : Nat) ^ 1075 ≤ 10 ^ 325 := by decide +kernel

theorem ofDecimal_eq_of_roundsBack {x : Double} {neg : Bool} {m N : Nat} {e E : Int}
    (hx : x.kind = .finite neg m e) (hm : 0 < m) (hN : 0 < N) (h : RoundsBack m e (N * 10 ^ E)) :
    ofDecimal neg N E = x := by
  have hn := (eq_of_kind_finite hx).1
  obtain ⟨hD1, hD2⟩ := decimalLength_spec hN
  -- the value lies between `2^-1075` and `2^1024`
  obtain ⟨hsmall, hbig⟩ := range_of_roundsBack hm hn h
  have h10 : (1 : ℚ) < 10 := by norm_num
  have hD1' : (10 : ℚ) ^ ((decimalLength N - 1 : Nat) + E) ≤ N * 10 ^ E := by
    rw [zpow_add₀ (by norm_num), zpow_natCast]
    gcongr
    exact_mod_cast hD1
  have hD2' : (N : ℚ) * 10 ^ E < 10 ^ ((decimalLength N : Int) + E) := by
    rw [zpow_add₀ (by norm_num), zpow_natCast]
    gcongr
    exact_mod_cast hD2
  have hcap : (2 : ℚ) ^ (1024 : Int) ≤ 10 ^ (310 : Int) := by
    rw [zpow_ofNat, zpow_ofNat]; exact_mod_cast two_pow_1024_le
  have hfloor : (10 : ℚ) ^ (-325 : Int) ≤ 2 ^ (-1075 : Int) := by
    rw [zpow_neg, zpow_neg, zpow_ofNat, zpow_ofNat]
    apply inv_anti₀ (by positivity)
    exact_mod_cast two_pow_1075_le
  have htop : ((decimalLength N - 1 : Nat) : Int) + E < 310 :=
    (zpow_lt_zpow_iff_right₀ h10).mp (lt_of_le_of_lt hD1' (lt_of_lt_of_le hbig hcap))
  have hbottom : (-325 : Int) < decimalLength N + E :=
    (zpow_lt_zpow_iff_right₀ h10).mp (lt_of_le_of_lt (le_trans hfloor hsmall) hD2')
  have hpos : 0 < decimalLength N := Nat.length_toDigits_pos
  unfold ofDecimal
  rw [if_neg (by omega)]
  dsimp only
  rw [if_neg (by omega), if_neg (by omega)]
  split
  · rename_i hE
    apply ofRatio_eq_of_roundsBack hx hm (by simp only [Nat.pow_eq]; positivity) one_pos
    convert h using 1
    simp only [Nat.pow_eq, Nat.cast_mul, Nat.cast_pow, Nat.cast_ofNat, Nat.cast_one, div_one]
    rw [← zpow_natCast, Int.toNat_of_nonneg hE]
  · rename_i hE
    apply ofRatio_eq_of_roundsBack hx hm hN (by simp only [Nat.pow_eq]; positivity)
    convert h using 1
    simp only [Nat.pow_eq, Nat.cast_pow, Nat.cast_ofNat]
    rw [← zpow_natCast, show (((-E).toNat : Nat) : Int) = -E by omega, zpow_neg, div_eq_mul_inv,
      inv_inv]

theorem readReal_text (x : Double) :
    ∃ y, readReal x.text = .ok y ∧ (y = x ∨ x.isNaN = true ∧ y.isNaN = true) := by
  have hb : x.biasedExponent < 2048 := by have := x.bits.toNat_lt; rw [biasedExponent_eq]; omega
  have hf : x.fraction < 2 ^ 52 := by have := x.bits.toNat_lt; rw [fraction_eq]; omega
  unfold text DoubleFormat.render
  cases hk : x.kind with
  | nan => exact ⟨nan false, rfl, .inr ⟨isNaN_of_kind_nan hk, by decide⟩⟩
  | infinite neg => exact ⟨infinity neg, by cases neg <;> rfl, .inl (eq_infinity_of_kind hk).symm⟩
  | finite neg m e =>
    obtain ⟨hn, hx⟩ := eq_of_kind_finite hk
    dsimp only
    by_cases hm : m = 0
    · -- signed zero
      subst hm
      rw [if_pos rfl]
      refine ⟨zero neg, ?_, .inl ?_⟩
      · rw [Reading.readReal_point (d := '0') (i := []) (f := ['0']) ?_ (by decide) (by simp)
          (by simp)]
        · rfl
        · rw [Reading.toList_signed]
          rfl
      · rw [hx]
        simp [zero]
    · rw [if_neg hm]
      obtain ⟨hround, hc⟩ := shortestDecimal_roundsBack (Nat.pos_of_ne_zero hm) hn
      generalize shortestDecimal m e = sd at hround hc
      obtain ⟨c, k⟩ := sd
      dsimp only at hround hc ⊢
      obtain ⟨N, E, hread, hval⟩ := Reading.readReal_layout neg c k
      refine ⟨ofDecimal neg N E, hread, .inl ?_⟩
      rw [← hval] at hround
      have hN : 0 < N := by
        rcases Nat.eq_zero_or_pos N with h0 | h0
        · have := roundsBack_pos (Nat.pos_of_ne_zero hm) hround
          rw [h0, Nat.cast_zero, zero_mul] at this
          exact absurd this (lt_irrefl 0)
        · exact h0
      exact ofDecimal_eq_of_roundsBack hk (Nat.pos_of_ne_zero hm) hN hround

end UpnpBinding.Double
