import UpnpBinding.Proofs.ScanBounds
import UpnpBinding.Xml.Reader
/-!
Scanning reads no further than it must. Two sources that hold the same first `m` characters
scan alike every token before the root element that ends before `m`: a scanner looks at the
character after a token to see that it ends there, and one further only after a `]` or a `%`.
The XML declaration, and what a step of the prolog takes in from a literal, are read within
their token. This is what lets the reading of a document up to some place be told from that part
of the document alone.
-/
namespace UpnpBinding.Xml

namespace Source

structure SameBelow (s t : Source) (m : Nat) : Prop where
  le_size : m ≤ s.chars.size
  le_size' : m ≤ t.chars.size
  getElem? : ∀ k < m, s.chars[k]? = t.chars[k]?

variable {s t : Source} {m i : Nat}

namespace SameBelow

theorem symm (h : s.SameBelow t m) : t.SameBelow s m :=
  ⟨h.le_size', h.le_size, fun k hk => (h.getElem? k hk).symm⟩

theorem mono (h : s.SameBelow t m) {m' : Nat} (hm : m' ≤ m) : s.SameBelow t m' :=
  ⟨Nat.le_trans hm h.le_size, Nat.le_trans hm h.le_size', fun k hk => h.getElem? k (by omega)⟩

theorem lt_size (h : s.SameBelow t m) (hk : i < m) : i < s.chars.size :=
  Nat.lt_of_lt_of_le hk h.le_size

theorem lt_size' (h : s.SameBelow t m) (hk : i < m) : i < t.chars.size :=
  Nat.lt_of_lt_of_le hk h.le_size'

theorem getElem (h : s.SameBelow t m) (hk : i < m) (hi : i < s.chars.size)
    (hj : i < t.chars.size) : s.chars[i] = t.chars[i] := by
  have hc := h.getElem? i hk
  rw [Array.getElem?_eq_getElem hi, Array.getElem?_eq_getElem hj] at hc
  exact Option.some.inj hc

theorem peek (h : s.SameBelow t m) (hk : i < m) : s.peek i = t.peek i := by
  have hi : i < s.chars.size := Nat.lt_of_lt_of_le hk h.le_size
  have hj : i < t.chars.size := Nat.lt_of_lt_of_le hk h.le_size'
  unfold Source.peek
  simp only [hi, hj, dite_true, h.getElem hk hi hj]

theorem hasAt (h : s.SameBelow t m) (hk : i < m) : s.hasAt i = t.hasAt i := by
  have hi : i < s.chars.size := Nat.lt_of_lt_of_le hk h.le_size
  have hj : i < t.chars.size := Nat.lt_of_lt_of_le hk h.le_size'
  simp [Source.hasAt, hi, hj]

theorem extract (h : s.SameBelow t m) {a b : Nat} (hb : b ≤ m) :
    s.chars.extract a b = t.chars.extract a b := by
  apply Array.ext_getElem?
  intro k
  rw [Array.getElem?_extract, Array.getElem?_extract]
  have hs : min b s.chars.size = b := Nat.min_eq_left (Nat.le_trans hb h.le_size)
  have ht : min b t.chars.size = b := Nat.min_eq_left (Nat.le_trans hb h.le_size')
  rw [hs, ht]
  split
  · exact h.getElem? (a + k) (by omega)
  · rfl

theorem slice (h : s.SameBelow t m) {a b : Nat} (hb : b ≤ m) : s.slice a b = t.slice a b := by
  unfold Source.slice
  rw [h.extract hb]

end SameBelow

variable {α : Type} {k : α} {next : Nat}

theorem ite_eq_imp {β : Type} {c : Prop} [Decidable c] {x x' y y' z : β}
    (h1 : c → x = z → y = z) (h2 : ¬c → x' = z → y' = z) :
    (if c then x else x') = z → (if c then y else y') = z := by
  by_cases hc : c
  · rw [if_pos hc, if_pos hc]
    exact h1 hc
  · rw [if_neg hc, if_neg hc]
    exact h2 hc

theorem Scanned.map_eq_token {β : Type} {f : α → β} {x : Scanned α} {b : β}
    (h : x.map f = .token b next) : ∃ a, x = .token a next ∧ f a = b := by
  cases x with
  | token a n =>
    cases h
    exact ⟨a, rfl, rfl⟩
  | _ => cases h

theorem Scanned.EndsAt.of_eq_token {P : Nat → Prop} {x : Scanned α} (hx : x.EndsAt P)
    (h : x = .token k next) : P next := by
  subst h
  exact hx

theorem stop_ne_token (c : Bool) : s.stop i c ≠ .token k next := by
  unfold Source.stop
  split <;> (try split) <;> rintro ⟨⟩

theorem atEnd_ne_token : s.atEnd ≠ (.token k next : Scanned α) := by
  unfold Source.atEnd
  split <;> rintro ⟨⟩

theorem nameEnd_below (h : s.SameBelow t m) (hi : s.nameEnd i < m) : t.nameEnd i = s.nameEnd i := by
  fun_induction s.nameEnd i with
  | case1 i hlt hc ih =>
    have hi' : i < m := by have := le_nameEnd s (i + 1); omega
    rw [nameEnd, dif_pos (h.lt_size' hi'), if_pos (h.getElem hi' hlt (h.lt_size' hi') ▸ hc)]
    exact ih hi
  | case2 i hlt hc =>
    rw [nameEnd, dif_pos (h.lt_size' hi), if_neg (h.getElem hi hlt (h.lt_size' hi) ▸ hc)]
  | case3 i hlt => exact absurd (h.lt_size hi) hlt

theorem spaceEnd_below (h : s.SameBelow t m) (hi : s.spaceEnd i < m) :
    t.spaceEnd i = s.spaceEnd i := by
  fun_induction s.spaceEnd i with
  | case1 i hlt hc ih =>
    have hi' : i < m := by have := le_spaceEnd s (i + 1); omega
    rw [spaceEnd, dif_pos (h.lt_size' hi'), if_pos (h.getElem hi' hlt (h.lt_size' hi') ▸ hc)]
    exact ih hi
  | case2 i hlt hc =>
    rw [spaceEnd, dif_pos (h.lt_size' hi), if_neg (h.getElem hi hlt (h.lt_size' hi) ▸ hc)]
  | case3 i hlt => exact absurd (h.lt_size hi) hlt

theorem literalEnd_below (h : s.SameBelow t m) (hn : next < m) {k : PrologToken} (q : Char) :
    s.literalEnd i q = .token k next → t.literalEnd i q = .token k next := by
  fun_induction s.literalEnd i q
  case case1 => rintro ⟨⟩
  case case2 i hlt _ hdoc hq hp =>
    intro hs
    cases hs
    rw [Source.literalEnd.eq_1 t, dif_pos (h.lt_size' (by omega))]
    dsimp only
    rw [← h.getElem (by omega) hlt, if_neg hdoc, if_pos hq, ← h.peek hn, hp]
  case case3 i hlt _ hdoc hq c hp hc =>
    intro hs
    cases hs
    rw [Source.literalEnd.eq_1 t, dif_pos (h.lt_size' (by omega))]
    dsimp only
    rw [← h.getElem (by omega) hlt, if_neg hdoc, if_pos hq, ← h.peek hn, hp]
    dsimp only
    rw [if_pos hc]
  case case4 => rintro ⟨⟩
  case case5 => rintro ⟨⟩
  case case6 i hlt _ hdoc hq ih =>
    intro hs
    have hi : i < m :=
      Nat.lt_trans (Scanned.EndsAt.of_eq_token (literalEnd_past q (Nat.le_succ i)) hs) hn
    rw [Source.literalEnd.eq_1 t, dif_pos (h.lt_size' hi)]
    dsimp only
    rw [← h.getElem hi hlt, if_neg hdoc, if_neg hq]
    exact ih hs
  case case7 => exact fun hs => absurd hs (stop_ne_token _)

theorem commentEnd_below (h : s.SameBelow t m) (hn : next < m) :
    s.commentEnd i = .token () next → t.commentEnd i = .token () next := by
  fun_induction s.commentEnd i
  case case1 => rintro ⟨⟩
  case case2 i hlt _ hdoc hdash h1 h2 =>
    intro hs
    cases hs
    rw [Source.commentEnd.eq_1 t, dif_pos (h.lt_size' (by omega))]
    dsimp only
    rw [← h.getElem (by omega) hlt, if_neg hdoc, if_pos hdash, ← h.peek (by omega), h1,
      ← h.peek (by omega), h2]
    rfl
  case case3 => exact fun hs => absurd hs (stop_ne_token _)
  case case4 => rintro ⟨⟩
  case case5 i hlt _ hdoc hdash h1 h2 ih =>
    intro hs
    have hi : i + 1 < m :=
      Nat.lt_trans (Scanned.EndsAt.of_eq_token (commentEnd_past (Nat.le_refl _)) hs) hn
    rw [Source.commentEnd.eq_1 t, dif_pos (h.lt_size' (by omega))]
    dsimp only
    rw [← h.getElem (by omega) hlt, if_neg hdoc, if_pos hdash, ← h.peek hi]
    split
    next heq => exact absurd heq h1
    next heq => exact absurd heq h2
    next => exact ih hs
  case case6 i hlt _ hdoc hdash ih =>
    intro hs
    have hi : i < m :=
      Nat.lt_trans (Scanned.EndsAt.of_eq_token (commentEnd_past (Nat.le_succ i)) hs) hn
    rw [Source.commentEnd.eq_1 t, dif_pos (h.lt_size' hi)]
    dsimp only
    rw [← h.getElem hi hlt, if_neg hdoc, if_neg hdash]
    exact ih hs
  case case7 => exact fun hs => absurd hs (stop_ne_token _)

theorem comment_below (h : s.SameBelow t m) (hn : next < m) :
    s.comment i = .token () next → t.comment i = .token () next := by
  intro hs
  have hi : i < m :=
    Nat.lt_trans (Scanned.EndsAt.of_eq_token (comment_past (Nat.le_refl _)) hs) hn
  unfold Source.comment at hs ⊢
  rw [← h.peek hi]
  split at hs
  next => exact commentEnd_below h hn hs
  next heq =>
    cases hs
  next => cases hs

theorem instructionEnd_below (h : s.SameBelow t m) (hn : next < m) :
    s.instructionEnd i = .token () next → t.instructionEnd i = .token () next := by
  fun_induction s.instructionEnd i
  case case1 => rintro ⟨⟩
  case case2 i hlt _ hdoc hq h1 =>
    intro hs
    cases hs
    rw [Source.instructionEnd.eq_1 t, dif_pos (h.lt_size' (by omega))]
    dsimp only
    rw [← h.getElem (by omega) hlt, if_neg hdoc, if_pos hq, ← h.peek (by omega), h1]
    rfl
  case case3 => rintro ⟨⟩
  case case4 i hlt _ hdoc hq h1 h2 ih =>
    intro hs
    have hi : i + 1 < m :=
      Nat.lt_trans (Scanned.EndsAt.of_eq_token (instructionEnd_past (Nat.le_refl _)) hs) hn
    rw [Source.instructionEnd.eq_1 t, dif_pos (h.lt_size' (by omega))]
    dsimp only
    rw [← h.getElem (by omega) hlt, if_neg hdoc, if_pos hq, ← h.peek hi]
    split
    next heq => exact absurd heq h1
    next heq => exact absurd heq h2
    next => exact ih hs
  case case5 i hlt _ hdoc hq ih =>
    intro hs
    have hi : i < m :=
      Nat.lt_trans (Scanned.EndsAt.of_eq_token (instructionEnd_past (Nat.le_succ i)) hs) hn
    rw [Source.instructionEnd.eq_1 t, dif_pos (h.lt_size' hi)]
    dsimp only
    rw [← h.getElem hi hlt, if_neg hdoc, if_neg hq]
    exact ih hs
  case case6 => exact fun hs => absurd hs (stop_ne_token _)

theorem instruction_below (h : s.SameBelow t m) (hn : next < m) {k : Instruction} :
    s.instruction i = .token k next → t.instruction i = .token k next := by
  intro hs
  have hi : i < m :=
    Nat.lt_trans (Scanned.EndsAt.of_eq_token (instruction_past (Nat.le_refl _)) hs) hn
  unfold Source.instruction at hs ⊢
  rw [← h.peek hi]
  split at hs
  next c hc =>
    split at hs
    next hstart =>
      rw [if_pos hstart]
      dsimp only at hs ⊢
      -- every token here ends past the target's name, so what the name and its end read is kept
      split at hs
      next d hd =>
        have hj : s.nameEnd (i + 1) < m := by
          split at hs
          · split at hs
            · obtain ⟨_, hx, _⟩ := Scanned.map_eq_token hs
              have := instructionEnd_past (s := s) (i := s.nameEnd (i + 1) + 1)
                (b := s.nameEnd (i + 1)) (Nat.le_succ _)
              rw [hx] at this
              exact Nat.lt_trans this hn
            · cases hs
          · split at hs
            · split at hs
              · split at hs
                · cases hs
                  omega
                · exact absurd hs (stop_ne_token _)
              · cases hs
            · cases hs
        rw [nameEnd_below h hj, ← h.peek hj, hd]
        dsimp only
        rw [← h.slice (Nat.le_of_lt hj)]
        split at hs
        next hsp =>
          rw [if_pos hsp]
          split at hs
          next k' hk' =>
            obtain ⟨_, hx, rfl⟩ := Scanned.map_eq_token hs
            rw [instructionEnd_below h hn hx]
            rfl
          next => cases hs
        next hsp =>
          rw [if_neg hsp]
          split at hs
          next hq =>
            rw [if_pos hq]
            split at hs
            next k' hk' =>
              split at hs
              next hgt =>
                cases hs
                rw [← h.peek (by omega), hgt]
                rfl
              next => exact absurd hs (stop_ne_token _)
            next => cases hs
          next => cases hs
      next => exact absurd hs (stop_ne_token _)
    next => cases hs
  next => exact absurd hs (stop_ne_token _)

theorem nameToken_below (h : s.SameBelow t m) (start : Nat) (hi : i ≤ m) (kind : NameKind) :
    t.nameToken start i kind = s.nameToken start i kind := by
  cases kind <;> simp only [nameToken, h.slice hi]

theorem nameRun_below (h : s.SameBelow t m) (hn : next < m) {k : PrologToken} (start : Nat)
    (kind : NameKind) : s.nameRun start i kind = .token k next →
      t.nameRun start i kind = .token k next := by
  fun_induction s.nameRun start i kind
  case case1 i kind hlt _ hc ih =>
    intro hs
    have hi : i < m := by
      have : i + 1 ≤ next :=
        Scanned.EndsAt.of_eq_token (nameRun_past start kind (Nat.le_refl _)) hs
      omega
    rw [Source.nameRun.eq_def t, dif_pos (h.lt_size' hi)]
    dsimp only
    rw [← h.getElem hi hlt, if_pos hc]
    exact ih hs
  case case2 i kind hlt _ hc hstop =>
    intro hs
    cases hs
    rw [Source.nameRun.eq_def t, dif_pos (h.lt_size' hn)]
    dsimp only
    rw [← h.getElem hn hlt, if_neg hc, if_pos hstop, nameToken_below h start (Nat.le_of_lt hn)]
  case case3 i hlt _ hc hstop hcolon d hp hd ih =>
    intro hs
    have hi : i + 1 < m := by
      have : i + 2 ≤ next :=
        Scanned.EndsAt.of_eq_token (nameRun_past start .prefixed (Nat.le_refl _)) hs
      omega
    rw [Source.nameRun.eq_def t, dif_pos (h.lt_size' (by omega))]
    dsimp only
    rw [← h.getElem (by omega) hlt, if_neg hc, if_neg hstop, if_pos hcolon, ← h.peek hi, hp]
    dsimp only
    rw [if_pos hd]
    exact ih hs
  case case4 i hlt _ hc hstop hcolon d hp hd ih =>
    intro hs
    have hi : i + 1 < m := by
      have : i + 1 ≤ next :=
        Scanned.EndsAt.of_eq_token (nameRun_past start .nmtoken (Nat.le_refl _)) hs
      omega
    rw [Source.nameRun.eq_def t, dif_pos (h.lt_size' (by omega))]
    dsimp only
    rw [← h.getElem (by omega) hlt, if_neg hc, if_neg hstop, if_pos hcolon, ← h.peek hi, hp]
    dsimp only
    rw [if_neg hd]
    exact ih hs
  case case5 => rintro ⟨⟩
  case case6 => rintro ⟨⟩
  case case7 => rintro ⟨⟩
  case case8 i kind hlt _ hc hstop hcolon hk ih =>
    intro hs
    have hi : i < m := by
      have : i + 1 ≤ next :=
        Scanned.EndsAt.of_eq_token (nameRun_past start .nmtoken (Nat.le_refl _)) hs
      omega
    rw [Source.nameRun.eq_def t, dif_pos (h.lt_size' hi)]
    dsimp only
    rw [← h.getElem hi hlt, if_neg hc, if_neg hstop, if_pos hcolon]
    split
    next => exact absurd rfl hk
    next => exact ih hs
  case case9 => rintro ⟨⟩
  case case10 i kind hlt _ hc hstop hcolon hsuf hk =>
    intro hs
    cases hs
    rw [Source.nameRun.eq_def t, dif_pos (h.lt_size' (by omega))]
    dsimp only
    rw [← h.getElem (by omega) hlt, if_neg hc, if_neg hstop, if_neg hcolon, if_pos hsuf, if_neg hk]
  case case11 => rintro ⟨⟩
  case case12 i kind hlt _ =>
    intro hs
    cases hs
    exact absurd (h.lt_size hn) hlt
  case case13 => rintro ⟨⟩
  case case14 => rintro ⟨⟩

theorem declKeyword_below (h : s.SameBelow t m) (hn : next < m)
    (hla : s.peek next = .char '%' → next + 1 < m) {k : PrologToken} (start : Nat) :
    s.declKeyword start i = .token k next → t.declKeyword start i = .token k next := by
  have percent {i : Nat} (hlt : i < s.chars.size) (hp : (s.chars[i] == '%') = true) :
      s.peek i = .char '%' := by
    rw [beq_iff_eq] at hp
    unfold Source.peek
    rw [dif_pos hlt]
    dsimp only
    rw [hp]
    rfl
  fun_induction s.declKeyword start i
  case case1 i hlt _ hl ih =>
    intro hs
    have hi : i < m := by
      have : i + 1 ≤ next :=
        Scanned.EndsAt.of_eq_token (declKeyword_past start (Nat.le_refl _)) hs
      omega
    rw [Source.declKeyword.eq_1 t, dif_pos (h.lt_size' hi)]
    dsimp only
    rw [← h.getElem hi hlt, if_pos hl]
    exact ih hs
  case case2 => rintro ⟨⟩
  case case3 i hlt _ hl hp hhas c hpk hc =>
    intro hs
    cases hs
    have hi1 := hla (percent hlt hp)
    rw [Source.declKeyword.eq_1 t, dif_pos (h.lt_size' hn)]
    dsimp only
    rw [← h.getElem hn hlt, if_neg hl, if_pos hp, ← h.hasAt hi1, if_pos hhas, ← h.peek hi1, hpk]
    dsimp only
    rw [if_neg hc, h.slice (Nat.le_of_lt hn)]
  case case4 i hlt _ hl hp hhas hpk =>
    intro hs
    cases hs
    have hi1 := hla (percent hlt hp)
    rw [Source.declKeyword.eq_1 t, dif_pos (h.lt_size' hn)]
    dsimp only
    rw [← h.getElem hn hlt, if_neg hl, if_pos hp, ← h.hasAt hi1, if_pos hhas, ← h.peek hi1]
    split
    next c heq => exact (hpk c heq).elim
    next => rw [h.slice (Nat.le_of_lt hn)]
  case case5 => rintro ⟨⟩
  case case6 i hlt _ hl hp hsp =>
    intro hs
    cases hs
    rw [Source.declKeyword.eq_1 t, dif_pos (h.lt_size' hn)]
    dsimp only
    rw [← h.getElem hn hlt, if_neg hl, if_neg hp, if_pos hsp, h.slice (Nat.le_of_lt hn)]
  case case7 => rintro ⟨⟩
  case case8 => exact fun hs => absurd hs (stop_ne_token _)

theorem declaration_below (h : s.SameBelow t m) (hn : next < m)
    (hla : s.peek next = .char '%' → next + 1 < m) {k : PrologToken} :
    s.declaration i = .token k next → t.declaration i = .token k next := by
  intro hs
  have hi : i < m :=
    Nat.lt_trans (Scanned.EndsAt.of_eq_token (declaration_past (Nat.le_refl i)) hs) hn
  revert hs
  rw [declaration_eq, declaration_eq, ← h.peek hi]
  cases s.peek i with
  | char c =>
    dsimp only
    split
    · intro hs
      obtain ⟨_, hx, rfl⟩ := Scanned.map_eq_token hs
      rw [comment_below h hn hx]
      rfl
    · split
      · exact id
      · split
        · exact declKeyword_below h hn hla i
        · rintro ⟨⟩
  | bad => rintro ⟨⟩
  | cut => rintro ⟨⟩
  | done => rintro ⟨⟩

theorem percentToken_below (h : s.SameBelow t m) (hn : next < m) {k : PrologToken} :
    s.percentToken i = .token k next → t.percentToken i = .token k next := by
  intro hs
  have hi : i < m :=
    Nat.lt_of_le_of_lt (Scanned.EndsAt.of_eq_token (percentToken_past (Nat.le_refl i)) hs) hn
  unfold Source.percentToken at hs ⊢
  rw [← h.peek hi]
  split at hs
  next =>
    split at hs
    next hstart =>
      rw [if_pos hstart]
      dsimp only at hs ⊢
      split at hs
      next hsemi =>
        cases hs
        have hj : s.nameEnd (i + 1) < m := by omega
        rw [nameEnd_below h hj, ← h.peek hj, hsemi]
        rfl
      next => exact absurd hs (stop_ne_token _)
    next hstart =>
      rw [if_neg hstart]
      exact hs
  next => exact absurd hs (stop_ne_token _)

theorem poundName_below (h : s.SameBelow t m) (hn : next < m) {k : PrologToken} :
    s.poundName i = .token k next → t.poundName i = .token k next := by
  intro hs
  have hi : i < m :=
    Nat.lt_trans (Scanned.EndsAt.of_eq_token (poundName_past (Nat.le_refl i)) hs) hn
  unfold Source.poundName at hs ⊢
  rw [← h.peek hi]
  split at hs
  next =>
    split at hs
    next hstart =>
      rw [if_pos hstart]
      dsimp only at hs ⊢
      split at hs
      next hdone =>
        cases hs
        rw [nameEnd_below h hn, ← h.peek hn, hdone, h.slice (Nat.le_of_lt hn)]
      next d hd =>
        split at hs
        next hfollow =>
          cases hs
          rw [nameEnd_below h hn, ← h.peek hn, hd]
          dsimp only
          rw [if_pos hfollow, h.slice (Nat.le_of_lt hn)]
        next => cases hs
      next => exact absurd hs (stop_ne_token _)
    next => cases hs
  next => exact absurd hs (stop_ne_token _)

theorem prologToken_below (h : s.SameBelow t m) (hn : next < m)
    (hla : s.peek next = .char ']' ∨ s.peek next = .char '%' → next + 1 < m)
    {k : PrologToken} (hk : k ≠ .instanceStart) :
    s.prologToken i = .token k next → t.prologToken i = .token k next := by
  intro hs
  have hi : i + 1 < m := by
    have := lt_of_prologToken hs hk
    omega
  unfold Source.prologToken at hs ⊢
  rw [← h.peek (Nat.lt_of_succ_lt hi)]
  split at hs
  next => exact absurd hs atEnd_ne_token
  next => cases hs
  next => cases hs
  next c hc =>
    rw [← h.peek hi, ← h.getElem? (i + 1) hi]
    revert hs
    refine ite_eq_imp (fun _ => literalEnd_below h hn c) fun _ => ?_
    refine ite_eq_imp (fun _ hs => ?_) fun _ => ?_
    · -- after `<`: a declaration or an instruction; the root element's start is not stepped
      split at hs
      next => exact declaration_below h hn (fun hp => hla (Or.inr hp)) hs
      next =>
        obtain ⟨_, hx, rfl⟩ := Scanned.map_eq_token hs
        rw [instruction_below h hn hx]
        rfl
      next =>
        split at hs
        · cases hs
          exact absurd rfl hk
        · cases hs
      next =>
        cases hs
        exact absurd rfl hk
      next => cases hs
      next =>
        split at hs
        · split at hs
          · cases hs
            exact absurd rfl hk
          · cases hs
        · cases hs
    refine ite_eq_imp (fun _ hs => ?_) fun _ => ?_
    · cases hs
      rw [spaceEnd_below h hn]
    refine ite_eq_imp (fun _ => percentToken_below h hn) fun _ => ?_
    refine ite_eq_imp (fun _ => id) fun _ => ?_
    refine ite_eq_imp (fun _ => id) fun _ => ?_
    refine ite_eq_imp (fun _ => id) fun _ => ?_
    refine ite_eq_imp (fun _ => id) fun _ => ?_
    refine ite_eq_imp (fun _ => ?_) fun _ => ?_
    · -- a closing bracket: after `]]` the scanner looks for the `>` of a section's end
      refine ite_eq_imp (fun hb hs => ?_) fun _ => id
      have h2 : i + 2 < m := by
        split at hs
        · split at hs
          · cases hs
            omega
          · cases hs
            have := hla (Or.inl (beq_iff_eq.mp hb))
            omega
        · cases hs
      rw [← h.hasAt h2, ← h.peek h2]
      exact hs
    refine ite_eq_imp (fun _ => id) fun _ => ?_
    refine ite_eq_imp (fun _ => id) fun _ => ?_
    refine ite_eq_imp (fun _ => poundName_below h hn) fun _ => ?_
    refine ite_eq_imp (fun _ => nameRun_below h hn i .name) fun _ => ?_
    exact ite_eq_imp (fun _ => nameRun_below h hn i .nmtoken) fun _ => id

theorem badPublicIdAt_below (h : s.SameBelow t m) {stop : Nat} (hstop : stop ≤ m) :
    t.badPublicIdAt i stop = s.badPublicIdAt i stop := by
  fun_induction s.badPublicIdAt i stop
  case case1 i hi c hc hpub ih =>
    rw [Source.badPublicIdAt.eq_1 t, dif_pos hi, ← h.getElem? i (by omega), hc]
    dsimp only
    rw [if_pos hpub]
    exact ih
  case case2 i hi c hc hpub =>
    rw [Source.badPublicIdAt.eq_1 t, dif_pos hi, ← h.getElem? i (by omega), hc]
    dsimp only
    rw [if_neg hpub]
  case case3 i hi hc =>
    rw [Source.badPublicIdAt.eq_1 t, dif_pos hi, ← h.getElem? i (by omega), hc]
  case case4 i hi =>
    rw [Source.badPublicIdAt.eq_1 t, dif_neg hi]

theorem publicId_below (h : s.SameBelow t m) {a b : Nat} (hb : b ≤ m) {v : String} :
    s.publicId a b = .ok v → t.publicId a b = .ok v := by
  unfold publicId
  rw [badPublicIdAt_below h hb, h.slice hb]
  split
  · intro hs
    cases hs
  · exact id

theorem valueBetween_below (h : s.SameBelow t m) {b : Nat} (hb : b ≤ m) (ctx : ValueContext)
    (isCdata : Bool) (a : Nat) :
    t.valueBetween ctx isCdata a b = s.valueBetween ctx isCdata a b := by
  unfold valueBetween
  rw [h.extract hb]

theorem declare_below (h : s.SameBelow t m) {a b : Nat} (hb : b ≤ m) (dtd : Dtd)
    (pending : Option Declared) (step : Step) {r : Dtd × Option Declared} :
    s.declare dtd pending a b step = .ok r → t.declare dtd pending a b step = .ok r := by
  have checked {β : Type} {f : String → Except ReadError β} {r : β} :
      s.publicId a b >>= f = .ok r → t.publicId a b >>= f = .ok r := fun hs => by
    obtain ⟨v, hv, hr⟩ := Except.bind_eq_ok.mp hs
    exact Except.bind_eq_ok.mpr ⟨v, publicId_below h hb hv, hr⟩
  cases step with
  | entityPublicId => exact checked
  | entitySystemId =>
    simp only [declare, h.slice hb]
    exact id
  | doctypePublicId => exact checked
  | attributeDefault =>
    simp only [declare, valueBetween_below h hb]
    split
    · split
      · exact id
      · intro hs
        cases hs
    · exact id
  | notationPublicId => exact checked
  | _ => exact id

/-! The XML declaration is read within its token: every character it reads lies before the
token's end. -/

section Declaration

variable {stop : Nat}

theorem asciiAt?_below (h : s.SameBelow t m) (hstop : stop ≤ m) (i : Nat) :
    t.asciiAt? i stop = s.asciiAt? i stop := by
  unfold asciiAt?
  split
  · rw [h.getElem? i (by omega)]
  · rfl

theorem spaceAt_below (h : s.SameBelow t m) (hstop : stop ≤ m) (i : Nat) :
    t.spaceAt i stop = s.spaceAt i stop := by
  unfold spaceAt
  rw [asciiAt?_below h hstop]

theorem declSpaceEnd_below (h : s.SameBelow t m) (hstop : stop ≤ m) (i : Nat) :
    t.declSpaceEnd i stop = s.declSpaceEnd i stop := by
  fun_induction s.declSpaceEnd i stop with
  | case1 i hi hsp ih => rw [declSpaceEnd, dif_pos hi, spaceAt_below h hstop, if_pos hsp, ih]
  | case2 i hi hsp => rw [declSpaceEnd, dif_pos hi, spaceAt_below h hstop, if_neg hsp]
  | case3 i hi => rw [declSpaceEnd, dif_neg hi]

theorem pseudoNameEnd_below (h : s.SameBelow t m) (hstop : stop ≤ m) (i : Nat) :
    t.pseudoNameEnd i stop = s.pseudoNameEnd i stop := by
  fun_induction s.pseudoNameEnd i stop
  case case1 i hi hc =>
    rw [Source.pseudoNameEnd.eq_1 t, dif_pos hi, asciiAt?_below h hstop, hc]
  case case2 i hi c hc heq =>
    rw [Source.pseudoNameEnd.eq_1 t, dif_pos hi, asciiAt?_below h hstop, hc]
    exact if_pos heq
  case case3 i hi c hc heq hsp k hk =>
    rw [Source.pseudoNameEnd.eq_1 t, dif_pos hi, asciiAt?_below h hstop, hc]
    dsimp only
    rw [if_neg heq, if_pos hsp, declSpaceEnd_below h hstop, asciiAt?_below h hstop]
    exact if_pos hk
  case case4 i hi c hc heq hsp k hk =>
    rw [Source.pseudoNameEnd.eq_1 t, dif_pos hi, asciiAt?_below h hstop, hc]
    dsimp only
    rw [if_neg heq, if_pos hsp, declSpaceEnd_below h hstop, asciiAt?_below h hstop]
    exact if_neg hk
  case case5 i hi c hc heq hsp ih =>
    rw [Source.pseudoNameEnd.eq_1 t, dif_pos hi, asciiAt?_below h hstop, hc]
    dsimp only
    rw [if_neg heq, if_neg hsp, ih]
  case case6 i hi =>
    rw [Source.pseudoNameEnd.eq_1 t, dif_neg hi]

theorem pseudoValueEnd_below (h : s.SameBelow t m) (hstop : stop ≤ m) (i : Nat) (q : Char) :
    t.pseudoValueEnd i stop q = s.pseudoValueEnd i stop q := by
  fun_induction s.pseudoValueEnd i stop q
  case case1 i hi hc =>
    rw [Source.pseudoValueEnd.eq_1 t, dif_pos hi, asciiAt?_below h hstop, hc]
  case case2 i hi c hc heq =>
    rw [Source.pseudoValueEnd.eq_1 t, dif_pos hi, asciiAt?_below h hstop, hc]
    exact if_pos heq
  case case3 i hi c hc heq hv ih =>
    rw [Source.pseudoValueEnd.eq_1 t, dif_pos hi, asciiAt?_below h hstop, hc]
    dsimp only
    rw [if_neg heq, if_pos hv, ih]
  case case4 i hi c hc heq hv =>
    rw [Source.pseudoValueEnd.eq_1 t, dif_pos hi, asciiAt?_below h hstop, hc]
    dsimp only
    rw [if_neg heq, if_neg hv]
  case case5 i hi =>
    rw [Source.pseudoValueEnd.eq_1 t, dif_neg hi]

theorem pseudoAttribute_below (h : s.SameBelow t m) (hstop : stop ≤ m) (i : Nat) :
    t.pseudoAttribute i stop = s.pseudoAttribute i stop := by
  simp only [pseudoAttribute, spaceAt_below h hstop, declSpaceEnd_below h hstop,
    pseudoNameEnd_below h hstop, asciiAt?_below h hstop, pseudoValueEnd_below h hstop]

theorem lt_of_asciiAt? {c : Char} (h : s.asciiAt? i stop = some c) : i < stop := by
  unfold asciiAt? at h
  split at h
  · assumption
  · cases h

theorem lt_of_pseudoNameEnd {n e : Nat} (h : s.pseudoNameEnd i stop = .ok (n, e)) :
    n < stop ∧ e < stop := by
  fun_induction s.pseudoNameEnd i stop
  case case1 => cases h
  case case2 i hi c hc heq =>
    cases h
    exact ⟨hi, hi⟩
  case case3 i hi c hc heq hsp k hk =>
    obtain ⟨rfl, rfl⟩ := Prod.mk.inj (Except.ok.inj h)
    exact ⟨hi, lt_of_asciiAt? (beq_iff_eq.mp hk)⟩
  case case4 => cases h
  case case5 ih => exact ih h
  case case6 => cases h

theorem lt_of_pseudoValueEnd {q : Char} {e : Nat} (h : s.pseudoValueEnd i stop q = .ok e) :
    e < stop := by
  fun_induction s.pseudoValueEnd i stop q
  case case1 => cases h
  case case2 i hi c hc heq =>
    cases h
    exact hi
  case case3 ih => exact ih h
  case case4 => cases h
  case case5 => cases h

theorem pseudoAttribute_within {a : PseudoAttribute}
    (h : s.pseudoAttribute i stop = .ok (some a)) : a.nameStop < stop ∧ a.valueStop < stop := by
  unfold pseudoAttribute at h
  split at h
  · cases h
  split at h
  · cases h
  dsimp only at h
  split at h
  · cases h
  obtain ⟨⟨nameStop, eq⟩, hname, h⟩ := Except.bind_eq_ok.mp h
  have hlt := lt_of_pseudoNameEnd hname
  dsimp only at h
  split at h
  · cases h
  split at h
  · split at h
    · obtain ⟨e, he, h⟩ := Except.bind_eq_ok.mp h
      cases h
      exact ⟨hlt.1, lt_of_pseudoValueEnd he⟩
    · cases h
  · cases h

theorem pseudoNameIs_below (h : s.SameBelow t m) {a : PseudoAttribute} (ha : a.nameStop ≤ m)
    (word : String) : t.pseudoNameIs a word = s.pseudoNameIs a word := by
  unfold pseudoNameIs
  rw [h.slice ha]

theorem pseudoValue_below (h : s.SameBelow t m) {a : PseudoAttribute} (ha : a.valueStop ≤ m) :
    t.pseudoValue a = s.pseudoValue a := by
  unfold pseudoValue
  rw [h.slice ha]

theorem standaloneFrom_below (h : s.SameBelow t m) (hstop : stop ≤ m) {a : PseudoAttribute}
    (ha : a.nameStop ≤ m ∧ a.valueStop ≤ m) : t.standaloneFrom a stop = s.standaloneFrom a stop := by
  simp only [standaloneFrom, pseudoNameIs_below h ha.1, pseudoValue_below h ha.2,
    declSpaceEnd_below h hstop]

theorem xmlDeclaration_below (h : s.SameBelow t m) (hstop : stop ≤ m) (start : Nat) :
    t.xmlDeclaration start stop = s.xmlDeclaration start stop := by
  have hlast : stop - 2 ≤ m := by omega
  have within {i : Nat} {a : PseudoAttribute} (ha : s.pseudoAttribute i (stop - 2) = .ok (some a)) :
      a.nameStop ≤ m ∧ a.valueStop ≤ m := by
    have := pseudoAttribute_within ha
    omega
  unfold xmlDeclaration
  simp only [pseudoAttribute_below h hlast, asciiAt?_below h hlast]
  cases hf : s.pseudoAttribute (start + 5) (stop - 2) with
  | error p => rfl
  | ok o =>
    cases o with
    | none => rfl
    | some a =>
      dsimp only [bind, Except.bind, pure, Except.pure]
      rw [pseudoNameIs_below h (within hf).1]
      split
      · rfl
      cases hb : s.pseudoAttribute a.next (stop - 2) with
      | error p => rfl
      | ok o =>
        cases o with
        | none => rfl
        | some b =>
          dsimp only
          rw [pseudoNameIs_below h (within hb).1]
          split
          · rw [pseudoValue_below h (within hb).2]
            cases hc : s.pseudoAttribute b.next (stop - 2) with
            | error p => rfl
            | ok o =>
              cases o with
              | none => rfl
              | some c =>
                dsimp only
                rw [standaloneFrom_below h hlast (within hc)]
          · rw [standaloneFrom_below h hlast (within hb)]

end Declaration

end Source
end UpnpBinding.Xml
