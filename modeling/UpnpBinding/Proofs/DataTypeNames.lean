import UpnpBinding.Proofs.Synthesis
/-!
Which names are data types. A name is a data type exactly when it is one of the table's names,
spelled exactly so. Of the other names, the fixed-point names are recognised and refused as
unsupported: `fixed.`, a run of decimal digits, a point and another run, as the pattern
`^fixed\.\d+\.\d+$` matches them. Its `\d` takes the decimal digits of every script, and its `$`
also matches before a line feed that ends the text, so one such line feed may follow. Every other
name, no name at all, the empty name and the names that differ from a data type's only in case,
is unknown.
-/
namespace UpnpBinding.DataType

def DigitsDotDigits (w : List Char) : Prop :=
  ∃ p q : List Char, p ≠ [] ∧ q ≠ [] ∧ (∀ c ∈ p, Text.isDecimalDigit c = true) ∧
    (∀ c ∈ q, Text.isDecimalDigit c = true) ∧ w = p ++ '.' :: q

def FixedPattern (n : String) : Prop :=
  ∃ w, DigitsDotDigits w ∧
    (n.toList = "fixed.".toList ++ w ∨ n.toList = "fixed.".toList ++ w ++ ['\n'])

def withoutFinalLineFeed (cs : List Char) : List Char :=
  match cs.reverse with
  | '\n' :: rest => rest.reverse
  | cs => cs.reverse

/-- Whether the text is digits, a point and digits: the digits are read as far as they go, and a
point and a non-empty run of digits must end the text. -/
def digitsDotDigits (rest : List Char) : Bool :=
  let p := rest.takeWhile Text.isDecimalDigit
  match rest.drop p.length with
  | '.' :: q => !p.isEmpty && !q.isEmpty && q.all Text.isDecimalDigit
  | _ => false

def fixedBody : List Char → Bool
  | 'f' :: 'i' :: 'x' :: 'e' :: 'd' :: '.' :: rest => digitsDotDigits rest
  | _ => false

theorem isFixedName_eq (n : String) :
    isFixedName n = fixedBody (withoutFinalLineFeed n.toList) :=
  rfl

theorem withoutFinalLineFeed_cases (cs : List Char) :
    cs = withoutFinalLineFeed cs ++ ['\n'] ∨
      (cs = withoutFinalLineFeed cs ∧ cs.getLast? ≠ some '\n') := by
  unfold withoutFinalLineFeed
  split
  · rename_i rest hr
    left
    rw [← List.reverse_reverse cs, hr, List.reverse_cons]
  · rename_i hr
    right
    refine ⟨by rw [List.reverse_reverse], fun hlast => ?_⟩
    obtain ⟨init, hinit⟩ := List.getLast?_eq_some_iff.mp hlast
    exact hr init.reverse (by rw [hinit, List.reverse_append]; rfl)

theorem digitsDotDigits_iff (rest : List Char) : digitsDotDigits rest = true ↔ DigitsDotDigits rest := by
  have hpoint : Text.isDecimalDigit '.' = false := by decide
  unfold digitsDotDigits
  constructor
  · intro h
    obtain ⟨p, hp⟩ : ∃ p, rest.takeWhile Text.isDecimalDigit = p := ⟨_, rfl⟩
    have hrest : p ++ rest.dropWhile Text.isDecimalDigit = rest :=
      hp ▸ List.takeWhile_append_dropWhile
    have hdrop : rest.drop p.length = rest.dropWhile Text.isDecimalDigit := by
      conv_lhs => rw [← hrest]
      exact List.drop_left
    simp only [hp, hdrop] at h
    split at h
    · rename_i q hq
      simp only [Bool.and_eq_true, Bool.not_eq_true', List.isEmpty_eq_false_iff,
        List.all_eq_true] at h
      refine ⟨p, q, h.1.1, h.1.2, fun c hc => ?_, h.2, ?_⟩
      · exact List.all_eq_true.mp (hp ▸ List.all_takeWhile) c hc
      · rw [← hrest, hq]
    · cases h
  · rintro ⟨p, q, hp, hq, hpd, hqd, rfl⟩
    -- the digits stop at the point
    have htake : (p ++ '.' :: q).takeWhile Text.isDecimalDigit = p := by
      rw [List.takeWhile_append_of_pos hpd, List.takeWhile_cons_of_neg (by simp [hpoint]),
        List.append_nil]
    simp only [htake, List.drop_left]
    simpa [hp, hq] using hqd

theorem fixedBody_iff (body : List Char) :
    fixedBody body = true ↔ ∃ w, DigitsDotDigits w ∧ body = "fixed.".toList ++ w := by
  unfold fixedBody
  split
  · rename_i rest
    rw [digitsDotDigits_iff]
    constructor
    · exact fun h => ⟨rest, h, rfl⟩
    · rintro ⟨w, hw, heq⟩
      cases heq
      exact hw
  · rename_i hnot
    simp only [Bool.false_eq_true, false_iff, not_exists, not_and]
    exact fun w _ heq => hnot w heq

theorem DigitsDotDigits.getLast?_ne {w : List Char} (h : DigitsDotDigits w) (pre : List Char) :
    (pre ++ w).getLast? ≠ some '\n' := by
  obtain ⟨p, q, -, hq, -, hqd, rfl⟩ := h
  obtain ⟨c, hc⟩ := Option.isSome_iff_exists.mp (List.getLast?_isSome.mpr hq)
  have hlast : (pre ++ (p ++ '.' :: q)).getLast? = some c := by
    simp [List.getLast?_append, List.getLast?_cons, hc]
  rw [hlast]
  rintro ⟨⟩
  exact absurd (hqd '\n' (List.mem_of_getLast? hc)) (by decide)

theorem fixedPattern_iff_body {n : String} {body : List Char}
    (h : n.toList = body ++ ['\n'] ∨ (n.toList = body ∧ n.toList.getLast? ≠ some '\n')) :
    FixedPattern n ↔ ∃ w, DigitsDotDigits w ∧ body = "fixed.".toList ++ w := by
  unfold FixedPattern
  refine exists_congr fun w => and_congr_right fun hw => ?_
  rcases h with h | ⟨h, hlast⟩
  · rw [h]
    constructor
    · rintro (heq | heq)
      · exact absurd (by rw [← heq, List.getLast?_append]; rfl) (hw.getLast?_ne _)
      · exact List.append_cancel_right heq
    · rintro rfl
      exact .inr rfl
  · rw [← h]
    constructor
    · rintro (heq | heq)
      · exact heq
      · exact absurd (by rw [heq, List.getLast?_append]; rfl) hlast
    · exact .inl

theorem isFixedName_iff (n : String) : isFixedName n = true ↔ FixedPattern n := by
  rw [isFixedName_eq, fixedBody_iff, fixedPattern_iff_body (withoutFinalLineFeed_cases n.toList)]

theorem find?_name_eq_none {n : String} :
    DataType.all.find? (·.name == n) = none ↔ ∀ t : DataType, t.name ≠ n := by
  rw [List.find?_eq_none]
  constructor
  · intro h t ht
    exact h t (by cases t <;> decide) (by simpa using ht)
  · intro h t _
    simpa using h t

theorem FixedPattern.name_ne {n : String} (h : FixedPattern n) (t : DataType) : t.name ≠ n := by
  obtain ⟨w, -, hw⟩ := h
  have hpre : "fixed.".toList <+: n.toList := by
    rcases hw with hw | hw <;> rw [hw]
    · exact List.prefix_append _ _
    · rw [List.append_assoc]
      exact List.prefix_append _ _
  rintro rfl
  revert hpre
  cases t <;> decide

/-- The outcome of looking a data type up by name. The name of a data type gives that type; a
fixed-point name is unsupported; any other name, or none, is unknown. -/
theorem ofName_classifies (x : Option String) :
    (∀ t, DataType.ofName x = .ok t ↔ x = some t.name) ∧
    (∀ e, DataType.ofName x = .error e ↔ (∀ t : DataType, x ≠ some t.name) ∧
        ((∃ n, x = some n ∧ FixedPattern n ∧ e = .unsupported n) ∨
         ((∀ n, x = some n → ¬ FixedPattern n) ∧ e = .unknown x))) := by
  cases x with
  | none => simp [DataType.ofName, eq_comm]
  | some n =>
    cases hfind : DataType.all.find? (·.name == n) with
    | some t =>
      -- `n` names the data type `t`, and no other
      have ht : t.name = n := by simpa using List.find?_some hfind
      have hok : DataType.ofName (some n) = .ok t := by rw [← ht, ofName_name]
      refine ⟨fun t' => ?_, fun e => ?_⟩
      · rw [hok, Except.ok.injEq, Option.some.injEq]
        constructor
        · rintro rfl
          exact ht.symm
        · intro h
          rw [h, ofName_name] at hok
          exact (Except.ok.inj hok).symm
      · simp only [hok, reduceCtorEq, false_iff, not_and]
        exact fun hnone => absurd (congrArg some ht.symm) (hnone t)
    | none =>
      have hnames := find?_name_eq_none.mp hfind
      have hnone : ∀ t : DataType, some n ≠ some t.name :=
        fun t h => hnames t (Option.some.inj h).symm
      refine ⟨fun t => ?_, fun e => ?_⟩
      · simp only [DataType.ofName, hfind]
        split <;> simp only [reduceCtorEq, false_iff] <;> exact hnone t
      · simp only [DataType.ofName, hfind, Option.some.injEq, forall_eq', exists_eq_left']
        by_cases hfix : FixedPattern n
        · simp [(isFixedName_iff n).mpr hfix, hfix, hnone, eq_comm]
        · simp [mt (isFixedName_iff n).mp hfix, hfix, hnone, eq_comm]

example : DataType.ofName (some "fixed.١٢.3\n") = .error (.unsupported "fixed.١٢.3\n") := by
  decide

example : DataType.ofName (some "UI1") = .error (.unknown (some "UI1")) := by decide

end UpnpBinding.DataType
