import UpnpBinding.Proofs.ScanShift
/-!
Where tokens end. Every token a scanner gives ends within the characters, and, but for the `<`
that content reads again, past the place where it starts. Reading takes one token at a step with
a bound on its steps; these two facts are what make that bound never the one that stops it.
-/
namespace UpnpBinding

theorem Except.bind_eq_error {x : Except ε α} {f : α → Except ε β} {e : ε} :
    x >>= f = .error e ↔ x = .error e ∨ ∃ a, x = .ok a ∧ f a = .error e := by
  cases x <;> simp [bind, Except.bind]

namespace Xml

def Scanned.EndsAt {α : Type} (P : Nat → Prop) : Scanned α → Prop
  | .token _ next => P next
  | _ => True

namespace Scanned

variable {α β : Type} {P : Nat → Prop}

@[simp] theorem endsAt_token {k : α} {next : Nat} : (Scanned.token k next).EndsAt P ↔ P next :=
  Iff.rfl

@[simp] theorem endsAt_invalid {p : Nat} : (Scanned.invalid p : Scanned α).EndsAt P := trivial

@[simp] theorem endsAt_unclosed : (Scanned.unclosed : Scanned α).EndsAt P := trivial

@[simp] theorem endsAt_cutChar : (Scanned.cutChar : Scanned α).EndsAt P := trivial

@[simp] theorem endsAt_finished : (Scanned.finished : Scanned α).EndsAt P := trivial

theorem EndsAt.map {x : Scanned α} (h : x.EndsAt P) (f : α → β) : (x.map f).EndsAt P := by
  cases x <;> simp_all [Scanned.map]

theorem EndsAt.ite {c : Prop} [Decidable c] {x y : Scanned α} (hx : c → x.EndsAt P)
    (hy : ¬c → y.EndsAt P) : (if c then x else y).EndsAt P := by
  by_cases hc : c
  · rw [if_pos hc]
    exact hx hc
  · rw [if_neg hc]
    exact hy hc

theorem EndsAt.mono {Q : Nat → Prop} {x : Scanned α} (h : x.EndsAt P) (hPQ : ∀ n, P n → Q n) :
    x.EndsAt Q := by
  cases x <;> simp_all

theorem EndsAt.withKind {x : Scanned α} (h : x.EndsAt P) (k : β) : (x.withKind k).EndsAt P :=
  h.map _

def EveryToken (P : α → Nat → Prop) : Scanned α → Prop
  | .token k next => P k next
  | _ => True

theorem EveryToken.ite {Q : α → Nat → Prop} {c : Prop} [Decidable c] {x y : Scanned α}
    (hx : c → x.EveryToken Q) (hy : ¬c → y.EveryToken Q) : (if c then x else y).EveryToken Q := by
  by_cases hc : c
  · rw [if_pos hc]
    exact hx hc
  · rw [if_neg hc]
    exact hy hc

theorem EndsAt.everyToken {Q : α → Nat → Prop} {x : Scanned α} (h : x.EndsAt P)
    (hPQ : ∀ k n, P n → Q k n) : x.EveryToken Q := by
  cases x with
  | token k n => exact hPQ k n h
  | _ => trivial

end Scanned

namespace Source

variable {s : Source} {i : Nat}

theorem stop_endsAt {α : Type} (c : Bool) (P : Nat → Prop) : (s.stop i c : Scanned α).EndsAt P := by
  unfold stop
  split
  · trivial
  · split <;> trivial
  · trivial

theorem atEnd_endsAt {α : Type} (P : Nat → Prop) : (s.atEnd : Scanned α).EndsAt P := by
  unfold atEnd
  split <;> trivial

theorem spaceEnd_le_size (h : i ≤ s.chars.size) : s.spaceEnd i ≤ s.chars.size := by
  fun_induction s.spaceEnd i <;> grind

theorem nameEnd_le_size (h : i ≤ s.chars.size) : s.nameEnd i ≤ s.chars.size := by
  fun_induction s.nameEnd i <;> grind

theorem literalEnd_within (q : Char) : (s.literalEnd i q).EndsAt (· ≤ s.chars.size) := by
  fun_induction s.literalEnd i q <;> grind [lt_size_of_peek, stop_endsAt, Scanned.EndsAt]

theorem commentEnd_within : (s.commentEnd i).EndsAt (· ≤ s.chars.size) := by
  fun_induction s.commentEnd i <;> grind [lt_size_of_peek, stop_endsAt, Scanned.EndsAt]

theorem instructionEnd_within : (s.instructionEnd i).EndsAt (· ≤ s.chars.size) := by
  fun_induction s.instructionEnd i <;> grind [lt_size_of_peek, stop_endsAt, Scanned.EndsAt]

theorem declKeyword_within (start : Nat) : (s.declKeyword start i).EndsAt (· ≤ s.chars.size) := by
  fun_induction s.declKeyword start i <;> grind [lt_size_of_peek, stop_endsAt, Scanned.EndsAt]

theorem nameRun_within (start : Nat) (kind : NameKind) (h : i ≤ s.chars.size) :
    (s.nameRun start i kind).EndsAt (· ≤ s.chars.size) := by
  fun_induction s.nameRun start i kind <;> grind [lt_size_of_peek, stop_endsAt, Scanned.EndsAt]

theorem comment_within : (s.comment i).EndsAt (· ≤ s.chars.size) := by
  unfold comment
  split <;> grind [commentEnd_within, Scanned.EndsAt]

theorem instruction_within : (s.instruction i).EndsAt (· ≤ s.chars.size) := by
  unfold instruction
  split
  · split
    · dsimp only
      split
      · split
        · split
          · exact instructionEnd_within.withKind _
          · trivial
        · split
          · split
            · split
              · next hp => exact lt_size_of_peek hp
              · exact stop_endsAt _ _
            · trivial
          · trivial
      · exact stop_endsAt _ _
    · trivial
  · exact stop_endsAt _ _

theorem declaration_within : (s.declaration i).EndsAt (· ≤ s.chars.size) := by
  rw [declaration_eq]
  cases hp : s.peek i with
  | char c =>
    dsimp only
    split
    · exact comment_within.withKind _
    · split
      · exact lt_size_of_peek hp
      · split
        · exact declKeyword_within _
        · trivial
  | bad => trivial
  | cut => trivial
  | done => trivial

theorem percentToken_within : (s.percentToken i).EndsAt (· ≤ s.chars.size) := by
  unfold percentToken
  split
  · next hp =>
    split
    · dsimp only
      split
      · next hj => exact lt_size_of_peek hj
      · exact stop_endsAt _ _
    · split
      · exact Nat.le_of_lt (lt_size_of_peek hp)
      · trivial
  · exact stop_endsAt _ _

theorem poundName_within : (s.poundName i).EndsAt (· ≤ s.chars.size) := by
  unfold poundName
  split
  · next hp =>
    have hj : s.nameEnd (i + 1) ≤ s.chars.size := nameEnd_le_size (lt_size_of_peek hp)
    split
    · dsimp only
      split
      · exact hj
      · split
        · exact hj
        · trivial
      · exact stop_endsAt _ _
    · trivial
  · exact stop_endsAt _ _

theorem prologToken_within : (s.prologToken i).EndsAt (· ≤ s.chars.size) := by
  unfold prologToken
  split
  · exact atEnd_endsAt _
  · trivial
  · trivial
  next c hp =>
  have hi := lt_size_of_peek hp
  refine .ite (fun _ => literalEnd_within _) fun _ => ?_
  refine .ite (fun _ => ?_) fun _ => ?_
  · split
    · exact declaration_within
    · exact instruction_within.map _
    · exact .ite (fun _ => Nat.le_of_lt hi) fun _ => trivial
    · exact Nat.le_of_lt hi
    · trivial
    · split
      · exact .ite (fun _ => Nat.le_of_lt hi) fun _ => trivial
      · trivial
  refine .ite (fun _ => spaceEnd_le_size hi) fun _ => ?_
  refine .ite (fun _ => percentToken_within) fun _ => ?_
  refine .ite (fun _ => hi) fun _ => ?_
  refine .ite (fun _ => hi) fun _ => ?_
  refine .ite (fun _ => hi) fun _ => ?_
  refine .ite (fun _ => hi) fun _ => ?_
  refine .ite (fun _ => ?_) fun _ => ?_
  · refine .ite (fun hb => ?_) fun _ => hi
    refine .ite (fun _ => .ite (fun h2 => lt_size_of_peek_beq h2) fun _ => hi) fun _ => trivial
  refine .ite (fun _ => ?_) fun _ => ?_
  · split
    · exact hi
    · exact .ite (fun _ => lt_size_of_peek ‹_›) fun _ => .ite (fun _ => hi) fun _ => trivial
    · trivial
  refine .ite (fun _ => hi) fun _ => ?_
  refine .ite (fun _ => poundName_within) fun _ => ?_
  refine .ite (fun _ => nameRun_within _ _ hi) fun _ => ?_
  exact .ite (fun _ => nameRun_within _ _ hi) fun _ => trivial

theorem qnameEnd_error_endsAt {α : Type} {b : Bool} {e : Scanned α} (P : Nat → Prop)
    (h : s.qnameEnd i b = .error e) : e.EndsAt P := by
  fun_induction s.qnameEnd i b <;> grind [stop_endsAt, Scanned.EndsAt]

theorem attributeValueEnd_error_endsAt {α : Type} {q : Char} {e : Scanned α} (P : Nat → Prop)
    (h : s.attributeValueEnd i q = .error e) : e.EndsAt P := by
  fun_induction s.attributeValueEnd i q <;> grind [stop_endsAt, Scanned.EndsAt]

theorem attributeEq_error_endsAt {α : Type} {e : Scanned α} (P : Nat → Prop)
    (h : s.attributeEq i = .error e) : e.EndsAt P := by
  unfold attributeEq at h
  grind [stop_endsAt, Scanned.EndsAt]

theorem attributeAt_error_endsAt {α : Type} {e : Scanned α} (P : Nat → Prop)
    (h : (s.attributeAt i : Except (Scanned α) (RawAttribute × Nat)) = .error e) : e.EndsAt P := by
  unfold attributeAt at h
  rcases Except.bind_eq_error.mp h with hq | ⟨p, -, h⟩
  · exact qnameEnd_error_endsAt P hq
  rcases Except.bind_eq_error.mp h with he | ⟨q, -, h⟩
  · exact attributeEq_error_endsAt P he
  dsimp only at h
  split at h
  · split at h
    · rcases Except.bind_eq_error.mp h with hv | ⟨f, -, h⟩
      · exact attributeValueEnd_error_endsAt P hv
      · cases h
    · cases h
      trivial
  · cases h
    exact stop_endsAt _ _

theorem emptyTagEnd_within (name : String) (atts : List RawAttribute) :
    (s.emptyTagEnd i name atts).EndsAt (· ≤ s.chars.size) := by
  unfold emptyTagEnd
  split
  · next hp => exact lt_size_of_peek hp
  · exact stop_endsAt _ _

theorem tagRest_within (name : String) (acc : List RawAttribute) :
    (s.tagRest i name acc).EndsAt (· ≤ s.chars.size) := by
  fun_induction s.tagRest i name acc <;>
    grind [lt_size_of_peek, stop_endsAt, emptyTagEnd_within, attributeAt_error_endsAt,
      Scanned.EndsAt]

theorem startTag_within : (s.startTag i).EndsAt (· ≤ s.chars.size) := by
  unfold startTag
  split
  · next e he => exact qnameEnd_error_endsAt _ he
  · dsimp only
    split
    · next hp => exact lt_size_of_peek hp
    · exact emptyTagEnd_within _ _
    · split
      · exact tagRest_within _ _
      · trivial
    · exact stop_endsAt _ _

theorem endTag_within : (s.endTag i).EndsAt (· ≤ s.chars.size) := by
  unfold endTag
  split
  · split
    · dsimp only
      split
      · next hp => exact lt_size_of_peek hp
      · split
        · split
          · next hp => exact lt_size_of_peek hp
          · exact stop_endsAt _ _
        · trivial
      · exact stop_endsAt _ _
    · trivial
  · exact stop_endsAt _ _

theorem lt_size_of_mismatchAt {c : Char} {cs : List Char} (h : s.mismatchAt i (c :: cs) = none) :
    i + cs.length < s.chars.size := by
  induction cs generalizing i c with
  | nil =>
    unfold mismatchAt at h
    split at h
    · next hp => exact lt_size_of_peek hp
    · cases h
  | cons c' cs ih =>
    unfold mismatchAt at h
    split at h
    · split at h
      · have := ih h
        simp only [List.length_cons]
        omega
      · cases h
    · cases h

theorem cdataOpen_within : (s.cdataOpen i).EndsAt (· ≤ s.chars.size) := by
  unfold cdataOpen
  dsimp only
  refine .ite (fun _ => trivial) fun _ => ?_
  split
  · next h => exact lt_size_of_mismatchAt h
  · trivial

theorem afterLt_within : (s.afterLt i).EndsAt (· ≤ s.chars.size) := by
  unfold afterLt
  split
  · split
    · exact startTag_within
    · split
      · split
        · exact comment_within.withKind _
        · exact cdataOpen_within
        · exact stop_endsAt _ _
      · split
        · exact instruction_within.map _
        · split
          · exact endTag_within
          · trivial
  · exact stop_endsAt _ _

theorem charRefDigits_within (hex : Bool) (value : Option Nat) :
    (s.charRefDigits i hex value).EndsAt (· ≤ s.chars.size) := by
  fun_induction s.charRefDigits i hex value <;> grind [stop_endsAt, Scanned.EndsAt]

theorem reference_within : (s.reference i).EndsAt (· ≤ s.chars.size) := by
  unfold reference
  split
  · split
    · split
      · split
        · split
          · exact charRefDigits_within _ _
          · trivial
        · exact stop_endsAt _ _
      · split
        · exact charRefDigits_within _ _
        · trivial
      · exact stop_endsAt _ _
    · split
      · dsimp only
        split
        · next hp => exact lt_size_of_peek hp
        · exact stop_endsAt _ _
      · trivial
  · exact stop_endsAt _ _

theorem le_size_of_dataEnd {p : Nat} (hi : i ≤ s.chars.size) (h : s.dataEnd i = .ok p) :
    p ≤ s.chars.size := by
  fun_induction s.dataEnd i <;> grind

theorem dataFrom_within {start : Nat} (hi : i ≤ s.chars.size) :
    (s.dataFrom start i).EndsAt (· ≤ s.chars.size) := by
  unfold dataFrom
  split
  · next p hp => exact le_size_of_dataEnd hi hp
  · trivial

theorem contentToken_within : (s.contentToken i).EndsAt (· ≤ s.chars.size) := by
  unfold contentToken
  split
  · exact atEnd_endsAt _
  · trivial
  · trivial
  next c hp =>
    have hi := lt_size_of_peek hp
    refine .ite (fun _ => afterLt_within) fun _ => ?_
    refine .ite (fun _ => reference_within.map _) fun _ => ?_
    refine .ite (fun _ => ?_) fun _ => ?_
    · refine .ite (fun _ => hi) fun hhas => ?_
      refine .ite (fun h2 => lt_size_of_peek_beq h2) fun _ => hi
    refine .ite (fun _ => hi) fun _ => ?_
    refine .ite (fun _ => ?_) fun _ => dataFrom_within hi
    refine .ite (fun _ => hi) fun _ => ?_
    refine .ite (fun _ => dataFrom_within hi) fun hb => ?_
    -- two brackets: the second lies within the characters
    have hb : s.peek (i + 1) = .char ']' := by simpa using hb
    exact .ite (fun _ => lt_size_of_peek hb) fun _ =>
      .ite (fun _ => trivial) fun _ => dataFrom_within hi

theorem cdataTextEnd_le_size (h : i ≤ s.chars.size) : s.cdataTextEnd i ≤ s.chars.size := by
  fun_induction s.cdataTextEnd i <;> grind

theorem cdataToken_within : (s.cdataToken i).EndsAt (· ≤ s.chars.size) := by
  unfold cdataToken
  dsimp only
  split
  · trivial
  · trivial
  · trivial
  next c hp =>
    have hi := lt_size_of_peek hp
    refine .ite (fun _ => ?_) fun _ => ?_
    · split
      · trivial
      · split
        · trivial
        · next hp2 => exact lt_size_of_peek hp2
        · exact cdataTextEnd_le_size hi
      · exact cdataTextEnd_le_size hi
    refine .ite (fun _ => ?_) fun _ => ?_
    · split
      · trivial
      · next hp1 => exact lt_size_of_peek hp1
      · exact hi
    exact .ite (fun _ => hi) fun _ => cdataTextEnd_le_size hi

variable {b : Nat}

theorem literalEnd_past (q : Char) (hb : b ≤ i) : (s.literalEnd i q).EndsAt (b < ·) := by
  fun_induction s.literalEnd i q <;> grind [stop_endsAt, Scanned.EndsAt]

theorem commentEnd_past (hb : b ≤ i) : (s.commentEnd i).EndsAt (b < ·) := by
  fun_induction s.commentEnd i <;> grind [stop_endsAt, Scanned.EndsAt]

theorem instructionEnd_past (hb : b ≤ i) : (s.instructionEnd i).EndsAt (b < ·) := by
  fun_induction s.instructionEnd i <;> grind [stop_endsAt, Scanned.EndsAt]

theorem declKeyword_past (start : Nat) (hb : b ≤ i) : (s.declKeyword start i).EndsAt (b ≤ ·) := by
  fun_induction s.declKeyword start i <;> grind [stop_endsAt, Scanned.EndsAt]

theorem nameRun_past (start : Nat) (kind : NameKind) (hb : b ≤ i) :
    (s.nameRun start i kind).EndsAt (b ≤ ·) := by
  fun_induction s.nameRun start i kind <;> grind [stop_endsAt, Scanned.EndsAt]

theorem comment_past (hb : b ≤ i) : (s.comment i).EndsAt (b < ·) := by
  unfold comment
  split
  · exact commentEnd_past (by omega)
  · trivial
  · trivial

theorem instruction_past (hb : b ≤ i) : (s.instruction i).EndsAt (b < ·) := by
  unfold instruction
  have hn := le_nameEnd s (i + 1)
  split
  · split
    · dsimp only
      split
      · split
        · split
          · exact (instructionEnd_past (by omega)).withKind _
          · trivial
        · split
          · split
            · split
              · show b < s.nameEnd (i + 1) + 2
                omega
              · exact stop_endsAt _ _
            · trivial
          · trivial
      · exact stop_endsAt _ _
    · trivial
  · exact stop_endsAt _ _

theorem declaration_past (hb : b ≤ i) : (s.declaration i).EndsAt (b < ·) := by
  rw [declaration_eq]
  cases s.peek i with
  | char c =>
    dsimp only
    split
    · exact (comment_past (by omega)).withKind _
    · split
      · show b < i + 1
        omega
      · split
        · exact (declKeyword_past _ (Nat.le_refl _)).mono fun n hn => by omega
        · trivial
  | bad => trivial
  | cut => trivial
  | done => trivial

theorem percentToken_past (hb : b ≤ i) : (s.percentToken i).EndsAt (b ≤ ·) := by
  unfold percentToken
  have hn := le_nameEnd s (i + 1)
  split
  · split
    · dsimp only
      split
      · show b ≤ s.nameEnd (i + 1) + 1
        omega
      · exact stop_endsAt _ _
    · split
      · exact hb
      · trivial
  · exact stop_endsAt _ _

theorem poundName_past (hb : b ≤ i) : (s.poundName i).EndsAt (b < ·) := by
  unfold poundName
  have hn := le_nameEnd s (i + 1)
  split
  · split
    · dsimp only
      split
      · show b < s.nameEnd (i + 1)
        omega
      · split
        · show b < s.nameEnd (i + 1)
          omega
        · trivial
      · exact stop_endsAt _ _
    · trivial
  · exact stop_endsAt _ _

theorem lt_of_prologToken {k : PrologToken} {next : Nat} (h : s.prologToken i = .token k next)
    (hk : k ≠ .instanceStart) : i < next := by
  have past : (s.prologToken i).EveryToken fun k n => k ≠ .instanceStart → i < n := by
    have after {x : Scanned PrologToken} (hx : x.EndsAt (i < ·)) :
        x.EveryToken fun k n => k ≠ .instanceStart → i < n :=
      hx.everyToken fun _ _ h _ => h
    have root : (Scanned.token PrologToken.instanceStart i).EveryToken
        fun k n => k ≠ .instanceStart → i < n := fun h => absurd rfl h
    unfold prologToken
    split
    · exact after (atEnd_endsAt _)
    · trivial
    · trivial
    refine .ite (fun _ => after (literalEnd_past _ (Nat.le_succ i))) fun _ => ?_
    refine .ite (fun _ => ?_) fun _ => ?_
    · split
      · exact after (declaration_past (Nat.le_add_right i 2))
      · exact after ((instruction_past (Nat.le_add_right i 2)).map _)
      · exact .ite (fun _ => root) fun _ => trivial
      · exact root
      · trivial
      · split
        · exact .ite (fun _ => root) fun _ => trivial
        · trivial
    refine .ite (fun _ => after (show i < s.spaceEnd (i + 1) from le_spaceEnd s (i + 1)))
      fun _ => ?_
    refine .ite (fun _ => after (percentToken_past (Nat.le_refl _))) fun _ => ?_
    refine .ite (fun _ => after (Nat.lt_succ_self i)) fun _ => ?_
    refine .ite (fun _ => after (Nat.lt_succ_self i)) fun _ => ?_
    refine .ite (fun _ => after (Nat.lt_succ_self i)) fun _ => ?_
    refine .ite (fun _ => after (Nat.lt_succ_self i)) fun _ => ?_
    refine .ite (fun _ => ?_) fun _ => ?_
    · exact after (.ite (fun _ => .ite (fun _ => .ite (fun _ => show i < i + 3 by omega)
        fun _ => Nat.lt_succ_self i) fun _ => trivial) fun _ => Nat.lt_succ_self i)
    refine .ite (fun _ => ?_) fun _ => ?_
    · refine after ?_
      split
      · exact Nat.lt_succ_self i
      · exact .ite (fun _ => show i < i + 2 by omega) fun _ =>
          .ite (fun _ => Nat.lt_succ_self i) fun _ => trivial
      · trivial
    refine .ite (fun _ => after (Nat.lt_succ_self i)) fun _ => ?_
    refine .ite (fun _ => after (poundName_past (Nat.le_succ i))) fun _ => ?_
    refine .ite (fun _ => after (nameRun_past _ _ (Nat.le_refl (i + 1)))) fun _ => ?_
    exact .ite (fun _ => after (nameRun_past _ _ (Nat.le_refl (i + 1)))) fun _ => trivial
  rw [h] at past
  exact past hk

theorem emptyTagEnd_past (name : String) (atts : List RawAttribute) (hb : b ≤ i) :
    (s.emptyTagEnd i name atts).EndsAt (b < ·) := by
  unfold emptyTagEnd
  split
  · show b < i + 1
    omega
  · exact stop_endsAt _ _

theorem tagRest_past (name : String) (acc : List RawAttribute) (hb : b ≤ i) :
    (s.tagRest i name acc).EndsAt (b < ·) := by
  fun_induction s.tagRest i name acc <;>
    grind [→ lt_of_attributeAt, stop_endsAt, emptyTagEnd_past, attributeAt_error_endsAt,
      Scanned.EndsAt]

theorem startTag_past : (s.startTag i).EndsAt (i < ·) := by
  unfold startTag
  split
  · next e he => exact qnameEnd_error_endsAt _ he
  · next j hj =>
    have hij := le_of_qnameEnd hj
    dsimp only
    split
    · show i < j + 1
      omega
    · exact emptyTagEnd_past _ _ (by omega)
    · split
      · exact tagRest_past _ _ (by omega)
      · trivial
    · exact stop_endsAt _ _

theorem endTag_past (hb : b ≤ i) : (s.endTag i).EndsAt (b < ·) := by
  unfold endTag
  have hj := le_rawNameEnd s (i + 1)
  split
  · split
    · dsimp only
      split
      · show b < s.rawNameEnd (i + 1) + 1
        omega
      · split
        · have hk := le_spaceEnd s (s.rawNameEnd (i + 1) + 1)
          split
          · show b < s.spaceEnd (s.rawNameEnd (i + 1) + 1) + 1
            omega
          · exact stop_endsAt _ _
        · trivial
      · exact stop_endsAt _ _
    · trivial
  · exact stop_endsAt _ _

theorem cdataOpen_past (hb : b ≤ i) : (s.cdataOpen i).EndsAt (b < ·) := by
  unfold cdataOpen
  dsimp only
  refine .ite (fun _ => trivial) fun _ => ?_
  split
  · show b < i + 6
    omega
  · trivial

theorem afterLt_past : (s.afterLt i).EndsAt (i < ·) := by
  unfold afterLt
  split
  · split
    · exact startTag_past
    · split
      · split
        · exact (comment_past (by omega)).withKind _
        · exact cdataOpen_past (by omega)
        · exact stop_endsAt _ _
      · split
        · exact (instruction_past (Nat.le_add_right i 2)).map _
        · split
          · exact endTag_past (by omega)
          · trivial
  · exact stop_endsAt _ _

theorem charRefDigits_past (hex : Bool) (value : Option Nat) (hb : b ≤ i) :
    (s.charRefDigits i hex value).EndsAt (b < ·) := by
  fun_induction s.charRefDigits i hex value <;> grind [stop_endsAt, Scanned.EndsAt]

theorem reference_past (hb : b ≤ i) : (s.reference i).EndsAt (b < ·) := by
  unfold reference
  split
  · split
    · split
      · split
        · split
          · exact charRefDigits_past _ _ (by omega)
          · trivial
        · exact stop_endsAt _ _
      · split
        · exact charRefDigits_past _ _ (by omega)
        · trivial
      · exact stop_endsAt _ _
    · split
      · have hj := le_nameEnd s (i + 1)
        dsimp only
        split
        · show b < s.nameEnd (i + 1) + 1
          omega
        · exact stop_endsAt _ _
      · trivial
  · exact stop_endsAt _ _

theorem dataFrom_past {start : Nat} (hb : b ≤ i) : (s.dataFrom start i).EndsAt (b ≤ ·) := by
  unfold dataFrom
  split
  · next p hp =>
    have := le_of_dataEnd (.inl hp)
    show b ≤ p
    omega
  · trivial

theorem contentToken_past : (s.contentToken i).EndsAt (i < ·) := by
  unfold contentToken
  split
  · exact atEnd_endsAt _
  · trivial
  · trivial
  refine .ite (fun _ => afterLt_past) fun _ => ?_
  refine .ite (fun _ => (reference_past (Nat.le_succ i)).map _) fun _ => ?_
  refine .ite (fun _ => ?_) fun _ => ?_
  · exact .ite (fun _ => Nat.lt_succ_self i) fun _ =>
      .ite (fun _ => show i < i + 2 by omega) fun _ => Nat.lt_succ_self i
  refine .ite (fun _ => Nat.lt_succ_self i) fun _ => ?_
  refine .ite (fun _ => ?_) fun _ => dataFrom_past (Nat.le_refl (i + 1))
  refine .ite (fun _ => Nat.lt_succ_self i) fun _ => ?_
  refine .ite (fun _ => dataFrom_past (Nat.le_refl (i + 1))) fun _ => ?_
  exact .ite (fun _ => show i < i + 2 by omega) fun _ =>
    .ite (fun _ => trivial) fun _ => dataFrom_past (Nat.le_refl (i + 1))

theorem cdataToken_past : (s.cdataToken i).EndsAt (i < ·) := by
  unfold cdataToken
  dsimp only
  have hj := le_cdataTextEnd s (i + 1)
  split
  · trivial
  · trivial
  · trivial
  refine .ite (fun _ => ?_) fun _ => ?_
  · split
    · trivial
    · split
      · trivial
      · show i < i + 3
        omega
      · exact hj
    · exact hj
  refine .ite (fun _ => ?_) fun _ => ?_
  · split
    · trivial
    · show i < i + 2
      omega
    · exact Nat.lt_succ_self i
  exact .ite (fun _ => Nat.lt_succ_self i) fun _ => hj

end Source
end Xml
end UpnpBinding
