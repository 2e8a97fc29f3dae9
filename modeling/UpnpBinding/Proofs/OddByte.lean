import UpnpBinding.Proofs.ReadShift
/-!
An input of two-byte characters with one byte left over is never read. Scanning meets the end
of the characters there as a token cut short, and no scanner of the tokens before or after the
root element says by other means that nothing is left: so the epilog never reaches its end,
and reading before the root element, whatever it meets, ends refused.
-/
namespace UpnpBinding.Xml

theorem Scanned.map_ne_finished {α β : Type} {x : Scanned α} (h : x ≠ .finished) (f : α → β) :
    x.map f ≠ .finished := by
  cases x <;> simp_all [Scanned.map]

theorem Scanned.ite_ne_finished {α : Type} {c : Prop} [Decidable c] {x y : Scanned α}
    (hx : c → x ≠ .finished) (hy : ¬c → y ≠ .finished) : (if c then x else y) ≠ .finished := by
  split
  · next h => exact hx h
  · next h => exact hy h

namespace Source

variable {s : Source} {i : Nat}

theorem stop_ne_finished {α : Type} (c : Bool) : (s.stop i c : Scanned α) ≠ .finished := by
  unfold stop
  split
  · simp
  · split <;> simp
  · simp

theorem literalEnd_ne_finished (q : Char) : s.literalEnd i q ≠ .finished := by
  fun_induction s.literalEnd i q <;> grind [stop_ne_finished]

theorem commentEnd_ne_finished : s.commentEnd i ≠ .finished := by
  fun_induction s.commentEnd i <;> grind [stop_ne_finished]

theorem instructionEnd_ne_finished : s.instructionEnd i ≠ .finished := by
  fun_induction s.instructionEnd i <;> grind [stop_ne_finished]

theorem declKeyword_ne_finished (start : Nat) : s.declKeyword start i ≠ .finished := by
  fun_induction s.declKeyword start i <;> grind [stop_ne_finished]

theorem nameRun_ne_finished (start : Nat) (kind : NameKind) : s.nameRun start i kind ≠ .finished := by
  fun_induction s.nameRun start i kind <;> grind [stop_ne_finished]

theorem comment_ne_finished : s.comment i ≠ .finished := by
  unfold comment
  split <;> grind [commentEnd_ne_finished]

theorem instruction_ne_finished : s.instruction i ≠ .finished := by
  unfold instruction
  split
  · split
    · dsimp only
      split
      · split
        · split
          · exact Scanned.map_ne_finished instructionEnd_ne_finished _
          · simp
        · split
          · split
            · split
              · simp
              · exact stop_ne_finished _
            · simp
          · simp
      · exact stop_ne_finished _
    · simp
  · exact stop_ne_finished _

theorem declaration_ne_finished : s.declaration i ≠ .finished := by
  rw [declaration_eq]
  cases s.peek i with
  | char c =>
    dsimp only
    split
    · exact Scanned.map_ne_finished comment_ne_finished _
    · split
      · simp
      · split
        · exact declKeyword_ne_finished _
        · simp
  | bad => simp
  | cut => simp
  | done => simp

theorem percentToken_ne_finished : s.percentToken i ≠ .finished := by
  unfold percentToken
  split
  · split
    · dsimp only
      split
      · simp
      · exact stop_ne_finished _
    · split <;> simp
  · exact stop_ne_finished _

theorem poundName_ne_finished : s.poundName i ≠ .finished := by
  unfold poundName
  split
  · split
    · dsimp only
      split
      · simp
      · split <;> simp
      · exact stop_ne_finished _
    · simp
  · exact stop_ne_finished _

theorem prologToken_ne_finished (he : s.ending = .oddByte) : s.prologToken i ≠ .finished := by
  have token {k : PrologToken} {n : Nat} : (Scanned.token k n) ≠ .finished := by simp
  unfold prologToken
  split
  · simp [atEnd, he]
  · simp
  · simp
  refine Scanned.ite_ne_finished (fun _ => literalEnd_ne_finished _) fun _ => ?_
  refine Scanned.ite_ne_finished (fun _ => ?_) fun _ => ?_
  · split
    · exact declaration_ne_finished
    · exact Scanned.map_ne_finished instruction_ne_finished _
    · exact Scanned.ite_ne_finished (fun _ => token) fun _ => by simp
    · exact token
    · simp
    · split
      · exact Scanned.ite_ne_finished (fun _ => token) fun _ => by simp
      · simp
  refine Scanned.ite_ne_finished (fun _ => token) fun _ => ?_
  refine Scanned.ite_ne_finished (fun _ => percentToken_ne_finished) fun _ => ?_
  refine Scanned.ite_ne_finished (fun _ => token) fun _ => ?_
  refine Scanned.ite_ne_finished (fun _ => token) fun _ => ?_
  refine Scanned.ite_ne_finished (fun _ => token) fun _ => ?_
  refine Scanned.ite_ne_finished (fun _ => token) fun _ => ?_
  refine Scanned.ite_ne_finished (fun _ => ?_) fun _ => ?_
  · refine Scanned.ite_ne_finished (fun _ => ?_) fun _ => token
    exact Scanned.ite_ne_finished (fun _ => Scanned.ite_ne_finished (fun _ => token) fun _ => token)
      fun _ => by simp
  refine Scanned.ite_ne_finished (fun _ => ?_) fun _ => ?_
  · split
    · exact token
    · exact Scanned.ite_ne_finished (fun _ => token) fun _ =>
        Scanned.ite_ne_finished (fun _ => token) fun _ => by simp
    · simp
  refine Scanned.ite_ne_finished (fun _ => token) fun _ => ?_
  refine Scanned.ite_ne_finished (fun _ => poundName_ne_finished) fun _ => ?_
  refine Scanned.ite_ne_finished (fun _ => nameRun_ne_finished _ _) fun _ => ?_
  exact Scanned.ite_ne_finished (fun _ => nameRun_ne_finished _ _) fun _ => by simp

section OddByte

variable (he : s.ending = .oddByte)
include he

theorem epilog_ne_ok {fuel : Nat} (hf : s.Covers fuel i) : s.epilog fuel i ≠ .ok () := by
  induction fuel generalizing i with
  | zero => exact absurd hf.enough (by have := hf.le; omega)
  | succ fuel ih =>
    have hlt := fun k next (h : s.prologToken i = .token k next) => lt_of_prologToken h
    have hwithin := prologToken_within (s := s) (i := i)
    have hnot := prologToken_ne_finished he (i := i)
    simp only [epilog]
    revert hlt hwithin hnot
    generalize s.prologToken i = x
    intro hlt hwithin hnot
    cases x with
    | token k next =>
      -- white space, comments and instructions are read on from the token's end
      have step (hk : k ≠ .instanceStart) : s.epilog fuel next ≠ .ok () :=
        ih (hf.next (hlt k next rfl hk) hwithin)
      cases k with
      | space => exact step (by rintro ⟨⟩)
      | comment => exact step (by rintro ⟨⟩)
      | instruction kind =>
        cases kind with
        | plain => exact step (by rintro ⟨⟩)
        | declaration => simp [fail]
      | _ => simp [fail]
    | finished => exact absurd rfl hnot
    | _ => simp [fail, failToken]

theorem prolog_ne_ok (dtd : Dtd) (pending : Option Declared) (stage : Stage) (fuel : Nat)
    (root : Element) : s.prolog dtd pending stage fuel i ≠ .ok root := by
  induction fuel generalizing dtd pending stage i with
  | zero => simp [prolog, fail]
  | succ fuel ih =>
    cases hk : s.prologToken i with
    | token k next =>
      cases hst : stage.next k with
      | none =>
        rw [prolog_of_stop hk hst]
        simp [fail]
      | some r =>
        obtain ⟨stage', step⟩ := r
        by_cases hroot : step = .rootStart
        · subst hroot
          rw [prolog_of_rootStart hk hst]
          intro h
          obtain ⟨⟨e, after⟩, hc, h⟩ := Except.bind_eq_ok.mp h
          obtain ⟨u, hu, -⟩ := Except.bind_eq_ok.mp h
          exact epilog_ne_ok he (Covers.whole (content_bounds hc).2) hu
        · rw [prolog_of_step hk hst hroot]
          intro h
          obtain ⟨r, -, hp⟩ := Except.bind_eq_ok.mp h
          exact ih _ _ _ hp
    | finished => exact absurd hk (prologToken_ne_finished he)
    | _ => simp [prolog, hk, fail, failToken]

end OddByte

end Source

end UpnpBinding.Xml
