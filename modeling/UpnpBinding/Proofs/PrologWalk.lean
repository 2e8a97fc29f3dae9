import Mathlib.Logic.Relation
import UpnpBinding.Proofs.ReadShift
import UpnpBinding.Proofs.ScanPrefix
import UpnpBinding.Proofs.Utf8
/-!
The prolog read one token at a time. A step reads the token at the position, moves the stage on
and takes in what the step declares; `Reaches` is any number of such steps. Reading the prolog
from a state is reading it from any state it reaches, the fuel spent one step for each step.
What is read up to a state depends only on the characters before it and the one there, so two
documents that share that part reach the same states. A reading that passes the first two
characters found neither NUL, and a text whose first two characters are not NUL is decoded as
UTF-8 and read as its characters, from where its prolog starts.
-/
namespace UpnpBinding.Xml

/-- Where reading the prolog stands: the declarations read so far, the entity whose declaration
is being read, the stage reached and the position. -/
structure PrologState where
  dtd : Dtd
  pending : Option Declared
  stage : Stage
  pos : Nat

namespace Source

variable {s t : Source} {m : Nat} {a b : PrologState}

/-- One step of reading the prolog that reads on: the token at the position moves the stage on
by a step other than the root element's start, and what the step takes in is taken in. -/
inductive PrologStep (s : Source) : PrologState → PrologState → Prop
  | mk {dtd : Dtd} {pending : Option Declared} {stage : Stage} {pos : Nat} {k : PrologToken}
      {next : Nat} {stage' : Stage} {step : Step} {dtd' : Dtd} {pending' : Option Declared}
      (hk : s.prologToken pos = .token k next) (hst : stage.next k = some (stage', step))
      (hroot : step ≠ .rootStart)
      (hd : s.declare dtd pending (pos + 1) (next - 1) step = .ok (dtd', pending')) :
      s.PrologStep ⟨dtd, pending, stage, pos⟩ ⟨dtd', pending', stage', next⟩

def Reaches (s : Source) : PrologState → PrologState → Prop := Relation.ReflTransGen s.PrologStep

namespace PrologStep

theorem not_instanceStart {stage stage' : Stage} {step : Step} {k : PrologToken}
    (hst : stage.next k = some (stage', step)) (hroot : step ≠ .rootStart) :
    k ≠ .instanceStart := fun hk => hroot (Stage.next_instanceStart (hk ▸ hst))

theorem token (h : s.PrologStep a b) :
    ∃ k, s.prologToken a.pos = .token k b.pos ∧ k ≠ .instanceStart := by
  cases h with
  | mk hk hst hroot _ => exact ⟨_, hk, not_instanceStart hst hroot⟩

theorem pos_lt (h : s.PrologStep a b) : a.pos < b.pos := by
  cases h with
  | mk hk hst hroot _ => exact lt_of_prologToken hk (not_instanceStart hst hroot)

theorem le_size (h : s.PrologStep a b) : b.pos ≤ s.chars.size := by
  cases h with
  | mk hk _ _ _ => exact le_size_of_prologToken hk

theorem prolog_eq (h : s.PrologStep a b) (fuel : Nat) :
    s.prolog a.dtd a.pending a.stage (fuel + 1) a.pos =
      s.prolog b.dtd b.pending b.stage fuel b.pos := by
  cases h with
  | mk hk hst hroot hd =>
    rw [prolog_of_step hk hst hroot, hd]
    rfl

theorem below (h : s.SameBelow t m) (hstep : s.PrologStep a b) (hn : b.pos < m)
    (hla : s.peek b.pos = .char ']' ∨ s.peek b.pos = .char '%' → b.pos + 1 < m) :
    t.PrologStep a b := by
  cases hstep with
  | mk hk hst hroot hd =>
    exact .mk (prologToken_below h hn hla (not_instanceStart hst hroot) hk)
      hst hroot (declare_below h (by dsimp only at hn; omega) _ _ _ hd)

end PrologStep

namespace Reaches

theorem pos_le (h : s.Reaches a b) : a.pos ≤ b.pos := by
  induction h with
  | refl => exact Nat.le_refl _
  | tail _ hstep ih => exact Nat.le_trans ih (Nat.le_of_lt hstep.pos_lt)

theorem prolog_eq (h : s.Reaches a b) {fuel : Nat} (hf : s.Covers fuel a.pos) :
    ∃ fuel', s.Covers fuel' b.pos ∧
      s.prolog a.dtd a.pending a.stage fuel a.pos = s.prolog b.dtd b.pending b.stage fuel' b.pos := by
  induction h with
  | refl => exact ⟨fuel, hf, rfl⟩
  | tail _ hstep ih =>
    obtain ⟨fuel', hf', heq⟩ := ih
    obtain ⟨f, rfl⟩ := hf'.exists_succ
    exact ⟨f, hf'.next hstep.pos_lt hstep.le_size, heq.trans (hstep.prolog_eq f)⟩

theorem below (h : s.SameBelow t m) (hr : s.Reaches a b) (hn : b.pos < m)
    (hla : s.peek b.pos = .char ']' ∨ s.peek b.pos = .char '%' → b.pos + 1 < m) :
    t.Reaches a b := by
  induction hr with
  | refl => exact .refl
  | tail _ hstep ih =>
    have hlt := hstep.pos_lt
    exact .tail (ih (by omega) fun _ => by omega) (hstep.below h hn hla)

end Reaches

/-! ### Reading the prolog as a function

The steps above, computed: `prologSteps` reads a given number of steps on, and what it reaches is
reached. A run on a fixed text is then evaluated rather than built step by step. -/

def prologStep? (s : Source) (st : PrologState) : Option PrologState :=
  match s.prologToken st.pos with
  | .token k next =>
    match st.stage.next k with
    | some (_, .rootStart) => none
    | some (stage', step) =>
      match s.declare st.dtd st.pending (st.pos + 1) (next - 1) step with
      | .ok (dtd', pending') => some ⟨dtd', pending', stage', next⟩
      | .error _ => none
    | none => none
  | _ => none

def prologSteps (s : Source) : Nat → PrologState → Option PrologState
  | 0, st => some st
  | n + 1, st => (s.prologStep? st).bind (s.prologSteps n)

theorem prologStep?_sound (h : s.prologStep? a = some b) : s.PrologStep a b := by
  obtain ⟨dtd, pending, stage, pos⟩ := a
  unfold prologStep? at h
  split at h
  · rename_i k next hk
    split at h
    · cases h
    · rename_i stage' step hnot hst
      split at h
      · rename_i dtd' pending' hd
        cases h
        exact .mk hk hst hnot hd
      · cases h
    · cases h
  · cases h

theorem prologSteps_sound : ∀ {n : Nat} {a b : PrologState}, s.prologSteps n a = some b → s.Reaches a b
  | 0, _, _, h => by
    cases h
    exact .refl
  | n + 1, _, _, h => by
    obtain ⟨c, hc, hrest⟩ := Option.bind_eq_some_iff.mp h
    exact .head (prologStep?_sound hc) (prologSteps_sound hrest)

def ofChars (l : List Char) : Source := ⟨l.toArray, .complete⟩

/-- Where reading a decoded text starts its prolog: after a byte-order mark, and after the XML
declaration if there is one, whose `standalone` the declarations start from. A malformed XML
declaration refuses the document. -/
def prologStart (s : Source) : Except ReadError PrologState :=
  let start := if s.chars[0]? == some '\uFEFF' then 1 else 0
  let declared : Option Nat :=
    if s.peek start == .char '<' && s.peek (start + 1) == .char '?' then
      match s.instruction (start + 2) with
      | .token .declaration next => some next
      | _ => none
    else none
  match declared with
  | none => .ok ⟨Dtd.empty false, none, .opening, start⟩
  | some next =>
    match s.xmlDeclaration start next with
    | .ok d => .ok ⟨Dtd.empty d.standalone, none, .opening, next⟩
    | .error p => s.fail .malformedDeclaration p

def ReadsTo (s : Source) (st : PrologState) : Prop :=
  ∃ st₀, s.prologStart = .ok st₀ ∧ s.Reaches st₀ st

def readSteps (s : Source) (n : Nat) : Option PrologState :=
  match s.prologStart with
  | .ok st₀ => s.prologSteps n st₀
  | .error _ => none

theorem ReadsTo.of_readSteps {n : Nat} {st : PrologState} (h : s.readSteps n = some st) :
    s.ReadsTo st := by
  unfold readSteps at h
  split at h
  · exact ⟨_, ‹_›, prologSteps_sound h⟩
  · cases h

theorem prologToken_instruction {i : Nat} (h₁ : s.peek i = .char '<')
    (h₂ : s.peek (i + 1) = .char '?') :
    s.prologToken i = (s.instruction (i + 2)).map .instruction := by
  unfold prologToken
  rw [h₁]
  simp only [show ('<' == '"' || '<' == '\'') = false from rfl, show ('<' == '<') = true from rfl,
    Bool.false_eq_true, if_false, if_true]
  rw [h₂]
  rfl

theorem prologStart_below (h : s.SameBelow t m) {st₀ st₁ : PrologState}
    (hs : s.prologStart = .ok st₀) (hstep : s.PrologStep st₀ st₁) (hn : st₁.pos < m) :
    t.prologStart = .ok st₀ := by
  obtain ⟨k₁, hk₁, hroot⟩ := hstep.token
  have hlt := hstep.pos_lt
  unfold prologStart at hs ⊢
  dsimp only at hs ⊢
  rw [← h.getElem? 0 (by omega)]
  generalize (if (s.chars[0]? == some '\uFEFF') = true then 1 else 0) = start at hs ⊢
  by_cases hc : (s.peek start == .char '<' && s.peek (start + 1) == .char '?') = true
  · have hc' := hc
    simp only [Bool.and_eq_true, beq_iff_eq] at hc'
    have hpi := prologToken_instruction hc'.1 hc'.2
    have hpast := instruction_past (s := s) (i := start + 2) (b := start + 2) (Nat.le_refl _)
    rw [if_pos hc] at hs
    cases hins : s.instruction (start + 2) with
    | token k next =>
      rw [hins] at hpast hs
      have hpast : start + 2 < next := hpast
      cases k with
      | declaration =>
        -- the prolog starts after the XML declaration
        dsimp only at hs
        cases hxd : s.xmlDeclaration start next with
        | error p =>
          rw [hxd] at hs
          cases hs
        | ok d =>
          rw [hxd] at hs
          cases hs
          have hnext : next < m := Nat.lt_trans hlt hn
          rw [← h.peek (by omega), ← h.peek (by omega), if_pos hc, instruction_below h hnext hins]
          dsimp only
          rw [xmlDeclaration_below h (Nat.le_of_lt hnext), hxd]
      | plain =>
        -- the first step is the instruction, which is read within the step
        dsimp only at hs
        cases hs
        dsimp only at hk₁ hlt
        rw [hpi, hins] at hk₁
        cases hk₁
        rw [← h.peek (by omega), ← h.peek (by omega), if_pos hc, instruction_below h hn hins]
    | _ =>
      rw [hins] at hs
      dsimp only at hs
      cases hs
      dsimp only at hk₁
      rw [hpi, hins] at hk₁
      cases hk₁
  · rw [if_neg hc] at hs
    cases hs
    dsimp only at hlt
    rw [← h.peek (by omega), ← h.peek (by omega), if_neg hc]

theorem prologStart_opening {st₀ : PrologState} (hs : s.prologStart = .ok st₀) :
    st₀.stage = .opening ∧ st₀.pending = none := by
  unfold prologStart at hs
  dsimp only at hs
  split at hs
  · cases hs
    exact ⟨rfl, rfl⟩
  · split at hs
    · cases hs
      exact ⟨rfl, rfl⟩
    · cases hs

namespace ReadsTo

theorem start_lt {st st₀ : PrologState} (hr : s.ReadsTo st) (hs : s.prologStart = .ok st₀)
    (hne : st₀ ≠ st) : st₀.pos < st.pos := by
  obtain ⟨st₁, hs₁, hreach⟩ := hr
  obtain rfl : st₀ = st₁ := Except.ok.inj (hs.symm.trans hs₁)
  rcases Relation.ReflTransGen.cases_head hreach with rfl | ⟨st₂, hstep, hrest⟩
  · exact absurd rfl hne
  · exact Nat.lt_of_lt_of_le hstep.pos_lt (Reaches.pos_le hrest)

theorem below (h : s.SameBelow t m) {st : PrologState} (hr : s.ReadsTo st) (hn : st.pos < m)
    (hla : s.peek st.pos = .char ']' ∨ s.peek st.pos = .char '%' → st.pos + 1 < m)
    (hmoved : ∀ st₀, s.prologStart = .ok st₀ → st₀.pos < st.pos) : t.ReadsTo st := by
  obtain ⟨st₀, hs, hreach⟩ := hr
  rcases Relation.ReflTransGen.cases_head hreach with rfl | ⟨st₁, hstep, hrest⟩
  · exact absurd (hmoved _ hs) (Nat.lt_irrefl _)
  · have hle := Reaches.pos_le hrest
    exact ⟨st₀, prologStart_below h hs hstep (by omega), hreach.below h hn hla⟩

end ReadsTo

/-! ### The first two characters

Every step reads the first character of its token, and the second when the token is longer; what
comes before the prolog's start is a byte-order mark or the `<?` of the XML declaration. So a
reading that passes the first two characters found neither NUL, which settles how the bytes are
decoded. -/

section NotNul

variable {i start next : Nat} {k : PrologToken}

def NotNulAt (s : Source) (p : Nat) : Prop := ∃ c, s.chars[p]? = some c ∧ c ≠ '\x00'

theorem notNulAt_of_lt {p : Nat} (hp : p < s.chars.size) (hc : s.chars[p] ≠ '\x00') :
    s.NotNulAt p :=
  ⟨_, Array.getElem?_eq_getElem hp, hc⟩

theorem notNulAt_of_peek {p : Nat} {c : Char} (h : s.peek p = .char c) : s.NotNulAt p := by
  have hp := lt_size_of_peek h
  unfold peek at h
  rw [dif_pos hp] at h
  dsimp only at h
  split at h
  · rename_i hd
    cases h
    exact notNulAt_of_lt hp fun h0 => by rw [h0] at hd; exact absurd hd (by decide)
  · cases h

theorem literalEnd_first {q : Char} (h : s.literalEnd i q = .token k next) : s.NotNulAt i := by
  rw [literalEnd] at h
  split at h
  · rename_i hi
    refine notNulAt_of_lt hi fun h0 => ?_
    simp [h0, show isDocumentChar '\x00' = false from rfl] at h
  · exact absurd h (stop_ne_token _)

theorem spaceEnd_first (h : i < s.spaceEnd i) : s.NotNulAt i := by
  rw [spaceEnd] at h
  split at h
  · rename_i hi
    split at h
    · rename_i hsp
      exact notNulAt_of_lt hi fun h0 => by rw [h0] at hsp; exact absurd hsp (by decide)
    · omega
  · omega

theorem percentToken_first (h : s.percentToken i = .token k next) : ∃ c, s.peek i = .char c := by
  unfold percentToken at h
  split at h
  · exact ⟨_, ‹_›⟩
  · exact absurd h (stop_ne_token _)

theorem poundName_first (h : s.poundName i = .token k next) : ∃ c, s.peek i = .char c := by
  unfold poundName at h
  split at h
  · exact ⟨_, ‹_›⟩
  · exact absurd h (stop_ne_token _)

theorem nameRun_first {kind : NameKind} (h : s.nameRun start i kind = .token k next)
    (hn : i < next) : s.NotNulAt i := by
  unfold nameRun at h
  split at h
  · rename_i hi
    refine notNulAt_of_lt hi fun h0 => ?_
    simp [h0, show isNameChar '\x00' = false from rfl, show isMarkupSpace '\x00' = false from rfl] at h
  · split at h
    · cases h
      omega
    all_goals cases h

theorem prologToken_first (h : s.prologToken i = .token k next) : ∃ c, s.peek i = .char c := by
  unfold prologToken at h
  cases hp : s.peek i with
  | char c => exact ⟨c, rfl⟩
  | done => rw [hp] at h; exact absurd h atEnd_ne_token
  | bad => rw [hp] at h; cases h
  | cut => rw [hp] at h; cases h

theorem ite_eq_elim {β : Type} {c : Prop} [Decidable c] {x x' z : β} {P : Prop}
    (h1 : c → x = z → P) (h2 : ¬c → x' = z → P) : (if c then x else x') = z → P := by
  by_cases hc : c
  · rw [if_pos hc]
    exact h1 hc
  · rw [if_neg hc]
    exact h2 hc

theorem prologToken_second (h : s.prologToken i = .token k next) (hn : i + 1 < next) :
    s.NotNulAt (i + 1) := by
  obtain ⟨c, hp⟩ := prologToken_first h
  unfold prologToken at h
  rw [hp] at h
  revert h
  refine ite_eq_elim (fun _ => literalEnd_first) fun _ => ?_
  refine ite_eq_elim (fun _ h => ?_) fun _ => ?_
  · -- after `<` stands the `!`, the `?` or what the root element starts with
    split at h
    next hp => exact notNulAt_of_peek hp
    next hp => exact notNulAt_of_peek hp
    next hp => exact notNulAt_of_peek hp
    next =>
      cases h
      omega
    next => cases h
    next =>
      split at h
      · split at h
        · cases h
          omega
        · cases h
      · cases h
  refine ite_eq_elim (fun _ h => ?_) fun _ => ?_
  · cases h
    exact spaceEnd_first hn
  refine ite_eq_elim (fun _ h => ?_) fun _ => ?_
  · obtain ⟨_, hc⟩ := percentToken_first h
    exact notNulAt_of_peek hc
  -- `,`, `|`, `(` and `[` are tokens of one character
  refine ite_eq_elim (fun _ h => by cases h; omega) fun _ => ?_
  refine ite_eq_elim (fun _ h => by cases h; omega) fun _ => ?_
  refine ite_eq_elim (fun _ h => by cases h; omega) fun _ => ?_
  refine ite_eq_elim (fun _ h => by cases h; omega) fun _ => ?_
  refine ite_eq_elim (fun _ => ?_) fun _ => ?_
  · exact ite_eq_elim (fun hb _ => notNulAt_of_peek (beq_iff_eq.mp hb)) fun _ h => by cases h; omega
  refine ite_eq_elim (fun _ h => ?_) fun _ => ?_
  · split at h
    next =>
      cases h
      omega
    next hp => exact notNulAt_of_peek hp
    next => cases h
  refine ite_eq_elim (fun _ h => by cases h; omega) fun _ => ?_
  refine ite_eq_elim (fun _ h => ?_) fun _ => ?_
  · obtain ⟨_, hc⟩ := poundName_first h
    exact notNulAt_of_peek hc
  refine ite_eq_elim (fun _ h => nameRun_first h hn) fun _ => ?_
  exact ite_eq_elim (fun _ h => nameRun_first h hn) fun _ h => by cases h

theorem prologStart_notNulAt {st₀ : PrologState} (hs : s.prologStart = .ok st₀) {p : Nat}
    (hp : p ≤ 1) (hlt : p < st₀.pos) : s.NotNulAt p := by
  unfold prologStart at hs
  dsimp only at hs
  generalize hst : (if (s.chars[0]? == some '\uFEFF') = true then 1 else 0) = start at hs
  -- before the start stands at most a byte-order mark, which is not NUL
  have hmark : p < start → s.NotNulAt p := by
    intro hps
    rw [← hst] at hps
    split at hps
    · rename_i hb
      obtain rfl : p = 0 := by omega
      exact ⟨_, beq_iff_eq.mp hb, by decide⟩
    · omega
  have hle : start ≤ 1 := by
    rw [← hst]
    split <;> omega
  by_cases hc : (s.peek start == .char '<' && s.peek (start + 1) == .char '?') = true
  · simp only [Bool.and_eq_true, beq_iff_eq] at hc
    rcases Nat.lt_or_ge p start with h | h
    · exact hmark h
    · rcases (by omega : p = start ∨ p = start + 1) with rfl | rfl
      · exact notNulAt_of_peek hc.1
      · exact notNulAt_of_peek hc.2
  · rw [if_neg hc] at hs
    cases hs
    exact hmark hlt

theorem Reaches.notNulAt (h : s.Reaches a b) :
    ∀ p, a.pos ≤ p → p ≤ a.pos + 1 → p < b.pos → s.NotNulAt p := by
  induction h using Relation.ReflTransGen.head_induction_on with
  | refl => intro p h₁ _ h₃; omega
  | @head x y hstep _ ih =>
    intro p h₁ h₂ h₃
    obtain ⟨k, hk, -⟩ := hstep.token
    have hlt := hstep.pos_lt
    rcases (by omega : p = x.pos ∨ p = x.pos + 1) with rfl | rfl
    · obtain ⟨c, hc⟩ := prologToken_first hk
      exact notNulAt_of_peek hc
    · by_cases hn : x.pos + 1 < y.pos
      · exact prologToken_second hk hn
      · exact ih _ (by omega) (by omega) h₃

theorem ReadsTo.notNulAt {st : PrologState} (hr : s.ReadsTo st) {p : Nat} (hp : p ≤ 1)
    (hlt : p < st.pos) : s.NotNulAt p := by
  obtain ⟨st₀, hs, hreach⟩ := hr
  rcases Nat.lt_or_ge p st₀.pos with h | h
  · exact prologStart_notNulAt hs hp h
  · exact hreach.notNulAt p h (by omega) hlt

end NotNul

end Source

theorem toNat_ne_zero {c : Char} (h : c ≠ '\x00') : c.toNat ≠ 0 := fun h0 =>
  h (by rw [← Char.ofNat_toNat c, h0])

theorem utf8EncodeChar_lead (c : Char) : ∃ b bs, String.utf8EncodeChar c = b :: bs ∧
    (c.toNat ≤ 0x7f → b.toNat = c.toNat ∧ bs = []) ∧
    (¬ c.toNat ≤ 0x7f → 0xC0 ≤ b.toNat ∧ b.toNat < 0xF8 ∧ ∃ b' bs', bs = b' :: bs' ∧ 0x80 ≤ b'.toNat) := by
  by_cases h1 : c.toNat ≤ 0x7f
  · have henc : String.utf8EncodeChar c = [UInt8.ofNat c.toNat] := by
      simp only [String.utf8EncodeChar, Char.toNat_val]
      rw [if_pos h1]
    exact ⟨_, [], henc, fun _ => ⟨byte_toNat (by omega), rfl⟩, fun h => absurd h1 h⟩
  have hc := toNat_valid c
  by_cases h2 : c.toNat ≤ 0x7ff
  · refine ⟨_, _, encode_two h1 h2, fun h => absurd h h1, fun _ => ⟨?_, ?_, _, _, rfl, ?_⟩⟩ <;>
      rw [byte_toNat (by omega)] <;> omega
  by_cases h3 : c.toNat ≤ 0xffff
  · refine ⟨_, _, encode_three h1 h2 h3, fun h => absurd h h1, fun _ => ⟨?_, ?_, _, _, rfl, ?_⟩⟩ <;>
      rw [byte_toNat (by omega)] <;> omega
  · refine ⟨_, _, encode_four h1 h2 h3, fun h => absurd h h1, fun _ => ⟨?_, ?_, _, _, rfl, ?_⟩⟩ <;>
      rw [byte_toNat (by omega)] <;> omega

theorem detect_ofList {c₀ c₁ : Char} {rest : List Char} (h₀ : c₀ ≠ '\x00') (h₁ : c₁ ≠ '\x00') :
    Encoding.detect (String.ofList (c₀ :: c₁ :: rest)).toUTF8 = .utf8 := by
  obtain ⟨b₀, bs₀, he₀, ha₀, hn₀⟩ := utf8EncodeChar_lead c₀
  obtain ⟨b₁, bs₁, he₁, ha₁, hn₁⟩ := utf8EncodeChar_lead c₁
  have hz₀ := toNat_ne_zero h₀
  have hz₁ := toNat_ne_zero h₁
  have hbytes : (String.ofList (c₀ :: c₁ :: rest)).toUTF8.data.toList.drop 0 =
      b₀ :: (bs₀ ++ b₁ :: (bs₁ ++ rest.flatMap String.utf8EncodeChar)) := by
    rw [List.drop_zero, data_toUTF8, String.toList_ofList, List.flatMap_cons, List.flatMap_cons,
      he₀, he₁]
    simp
  -- the first byte is neither zero nor a byte-order mark's; the second is not zero
  have hfirst : (b₀.toNat == 0xFE) = false ∧ (b₀.toNat == 0xFF) = false ∧ (b₀.toNat == 0) = false := by
    by_cases h1 : c₀.toNat ≤ 0x7f
    · have := (ha₀ h1).1
      simp only [beq_eq_false_iff_ne]
      omega
    · have := hn₀ h1
      simp only [beq_eq_false_iff_ne]
      omega
  have hsecond : ∃ b, (b.toNat == 0) = false ∧
      (String.ofList (c₀ :: c₁ :: rest)).toUTF8.get! 1 = b := by
    by_cases h1 : c₀.toNat ≤ 0x7f
    · obtain ⟨-, rfl⟩ := ha₀ h1
      refine ⟨b₁, ?_, get!_eq_of_drop hbytes (k := 1) (by simp)⟩
      simp only [beq_eq_false_iff_ne]
      by_cases h1' : c₁.toNat ≤ 0x7f
      · have := (ha₁ h1').1
        omega
      · have := hn₁ h1'
        omega
    · obtain ⟨-, -, b', bs', rfl, hb'⟩ := hn₀ h1
      refine ⟨b', ?_, get!_eq_of_drop hbytes (k := 1) (by simp)⟩
      simp only [beq_eq_false_iff_ne]
      omega
  have hsize : ¬ (String.ofList (c₀ :: c₁ :: rest)).toUTF8.size < 2 := by
    rcases size_of_drop hbytes with h | h
    · simp only [List.length_cons, List.length_append] at h
      omega
    · cases h
  obtain ⟨b, hb, hget₁⟩ := hsecond
  have hget₀ := get!_eq_of_drop hbytes (k := 0) (by simp)
  unfold Encoding.detect
  simp only [Nat.zero_add] at hget₀
  rw [if_neg hsize, hget₀, hget₁]
  simp [List.getElem_cons_zero, hfirst.1, hfirst.2.1, hfirst.2.2, hb]

set_option linter.auxLemma false in
theorem undecided_cons_cons {bytes : ByteArray} {b₀ b₁ : UInt8} {rest : List UInt8}
    (h : bytes.toList = b₀ :: b₁ :: rest) (hne : ¬ (b₀ = 0xEF ∧ b₁ = 0xBB ∧ rest = [])) :
    Document.undecided bytes = false := by
  unfold Document.undecided
  rw [h]
  unfold Document.undecided.match_1
  by_cases h₁ : b₁ = 0xBB
  · subst h₁
    cases rest with
    | nil =>
      have h₀ : b₀ ≠ 0xEF := fun h₀ => hne ⟨h₀, rfl, rfl⟩
      show dite (b₀ = 0xEF) _ _ = false
      rw [dif_neg h₀]
    | cons x xs => rfl
  · show dite (b₁ = 0xBB) _ _ = false
    rw [dif_neg h₁]

theorem undecided_ofList {c₀ c₁ : Char} {rest : List Char} :
    Document.undecided (String.ofList (c₀ :: c₁ :: rest)).toUTF8 = false := by
  obtain ⟨b₀, bs₀, he₀, ha₀, hn₀⟩ := utf8EncodeChar_lead c₀
  obtain ⟨b₁, bs₁, he₁, -, -⟩ := utf8EncodeChar_lead c₁
  have hbytes : (String.ofList (c₀ :: c₁ :: rest)).toUTF8.toList =
      b₀ :: (bs₀ ++ b₁ :: (bs₁ ++ rest.flatMap String.utf8EncodeChar)) := by
    rw [toList_eq_data, data_toUTF8, String.toList_ofList, List.flatMap_cons, List.flatMap_cons,
      he₀, he₁]
    simp
  by_cases h1 : c₀.toNat ≤ 0x7f
  · -- the first byte is the first character itself, below U+0080 and so no byte order mark
    obtain ⟨hb, rfl⟩ := ha₀ h1
    refine undecided_cons_cons hbytes fun hbom => ?_
    have hlead : (239 : UInt8).toNat = 239 := rfl
    have := congrArg UInt8.toNat hbom.1
    simp only [hb] at this
    omega
  · -- a lead byte, its continuation byte and the second character make three bytes
    obtain ⟨-, -, b', bs', rfl, -⟩ := hn₀ h1
    exact undecided_cons_cons hbytes fun hbom => by simp at hbom

namespace Document

theorem read_eq_prolog {l : List Char} (hund : undecided (String.ofList l).toUTF8 = false)
    (hdet : Encoding.detect (String.ofList l).toUTF8 = .utf8) :
    (Document.text (String.ofList l)).read =
      (Source.ofChars l).prologStart >>= fun st =>
        (Source.ofChars l).prolog st.dtd st.pending st.stage ((Source.ofChars l).size + 2) st.pos := by
  have hdec : Encoding.utf8.decodeFrom (String.ofList l).toUTF8 0 #[] = Source.ofChars l := by
    show decodeUtf8 _ 0 #[] = _
    rw [decodeUtf8_toUTF8, String.toList_ofList]
    rfl
  unfold read Source.prologStart
  simp only [raw, hund, hdet, hdec, Bool.false_eq_true, if_false, followsDeclaration,
    Bool.not_false, if_true]
  generalize (if ((Source.ofChars l).chars[0]? == some '\uFEFF') = true then 1 else 0) = start
  by_cases hlt : ((Source.ofChars l).peek start == .char '<' &&
      (Source.ofChars l).peek (start + 1) == .char '?') = true
  · simp only [hlt, if_true]
    cases (Source.ofChars l).instruction (start + 2) with
    | token k next =>
      cases k with
      | declaration =>
        dsimp only
        cases (Source.ofChars l).xmlDeclaration start next with
        | error p => rfl
        | ok d =>
          -- a text is decoded once, whatever encoding its declaration names
          obtain ⟨encoding, standalone⟩ := d
          cases encoding <;> rfl
      | plain => rfl
    | _ => rfl
  · simp only [hlt, Bool.false_eq_true, if_false]
    rfl

theorem read_ofList {c₀ c₁ : Char} {rest : List Char} (h₀ : c₀ ≠ '\x00') (h₁ : c₁ ≠ '\x00') :
    (Document.text (String.ofList (c₀ :: c₁ :: rest))).read =
      (Source.ofChars (c₀ :: c₁ :: rest)).prologStart >>= fun st =>
        (Source.ofChars (c₀ :: c₁ :: rest)).prolog st.dtd st.pending st.stage
          ((Source.ofChars (c₀ :: c₁ :: rest)).size + 2) st.pos :=
  read_eq_prolog undecided_ofList (detect_ofList h₀ h₁)

theorem read_of_notNulAt {l : List Char} (h₀ : (Source.ofChars l).NotNulAt 0)
    (h₁ : (Source.ofChars l).NotNulAt 1) :
    (Document.text (String.ofList l)).read =
      (Source.ofChars l).prologStart >>= fun st =>
        (Source.ofChars l).prolog st.dtd st.pending st.stage ((Source.ofChars l).size + 2) st.pos := by
  obtain ⟨c₀, hc₀, hn₀⟩ := h₀
  obtain ⟨c₁, hc₁, hn₁⟩ := h₁
  match l, hc₀, hc₁ with
  | [], hc₀, _ => simp [Source.ofChars] at hc₀
  | [_], _, hc₁ => simp [Source.ofChars] at hc₁
  | d₀ :: d₁ :: rest, hc₀, hc₁ =>
    simp only [Source.ofChars, List.getElem?_toArray, List.getElem?_cons_zero,
      List.getElem?_cons_succ, Option.some.injEq] at hc₀ hc₁
    subst hc₀ hc₁
    exact read_ofList hn₀ hn₁

theorem read_of_readsTo {l : List Char} {st : PrologState} (hr : (Source.ofChars l).ReadsTo st)
    (hle : st.pos ≤ l.length) (h₀ : (Source.ofChars l).NotNulAt 0)
    (h₁ : (Source.ofChars l).NotNulAt 1) :
    ∃ fuel, (Source.ofChars l).Covers fuel st.pos ∧
      (Document.text (String.ofList l)).read =
        (Source.ofChars l).prolog st.dtd st.pending st.stage fuel st.pos := by
  obtain ⟨st₀, hs, hreach⟩ := hr
  have hsize : (Source.ofChars l).chars.size = l.length := List.size_toArray
  have hstart : (Source.ofChars l).Covers ((Source.ofChars l).size + 2) st₀.pos :=
    ⟨by have := Source.Reaches.pos_le hreach; omega, by unfold Source.size; omega⟩
  obtain ⟨fuel, hf, heq⟩ := hreach.prolog_eq hstart
  refine ⟨fuel, hf, ?_⟩
  rw [read_of_notNulAt h₀ h₁, hs]
  exact heq

end Document

end UpnpBinding.Xml
