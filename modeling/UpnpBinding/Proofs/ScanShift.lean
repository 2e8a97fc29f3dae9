import UpnpBinding.Xml.Token
import UpnpBinding.Proofs.Monadic
/-!
Scanning does not depend on where the text it scans lies. Two sources that hold the same
characters from `i` on in one and from `j` on in the other, and end alike, scan alike from those
two places: every token is the same, and every position a scan reports is moved by `j - i`. The
tokens of element content carry the positions of a start tag's attributes, which move too.

Each scanner is taken through its own recursion, one case for each of its branches: the branch
taken on one side is the one taken on the other, because the characters it reads are the same.
-/
namespace UpnpBinding.Xml

namespace Source

structure SameFrom (s : Source) (i : Nat) (t : Source) (j : Nat) : Prop where
  ending : s.ending = t.ending
  chars : ∀ k, s.chars[i + k]? = t.chars[j + k]?

variable {s t : Source} {i j : Nat}

namespace SameFrom

theorem shift (h : s.SameFrom i t j) (m : Nat) : s.SameFrom (i + m) t (j + m) :=
  ⟨h.ending, fun k => by simpa only [Nat.add_assoc] using h.chars (m + k)⟩

theorem getElem? (h : s.SameFrom i t j) : s.chars[i]? = t.chars[j]? := h.chars 0

theorem lt_size (h : s.SameFrom i t j) : i < s.chars.size ↔ j < t.chars.size := by
  have hc := h.getElem?
  constructor
  · intro hi
    refine Nat.lt_of_not_le fun hj => ?_
    rw [Array.getElem?_eq_getElem hi, Array.getElem?_eq_none_iff.mpr hj] at hc
    cases hc
  · intro hj
    refine Nat.lt_of_not_le fun hi => ?_
    rw [Array.getElem?_eq_getElem hj, Array.getElem?_eq_none_iff.mpr hi] at hc
    cases hc

theorem getElem (h : s.SameFrom i t j) (hi : i < s.chars.size) (hj : j < t.chars.size) :
    s.chars[i] = t.chars[j] := by
  have hc := h.getElem?
  rw [Array.getElem?_eq_getElem hi, Array.getElem?_eq_getElem hj] at hc
  exact Option.some.inj hc

theorem peek (h : s.SameFrom i t j) : s.peek i = t.peek j := by
  unfold Source.peek
  by_cases hi : i < s.chars.size
  · simp only [hi, h.lt_size.mp hi, dite_true, h.getElem hi]
  · have hj : ¬ j < t.chars.size := fun hj => hi (h.lt_size.mpr hj)
    simp only [hi, hj, dite_false, h.ending]

theorem size_sub (h : s.SameFrom i t j) : s.chars.size - i = t.chars.size - j := by
  have key : ∀ k, i + k < s.chars.size ↔ j + k < t.chars.size := fun k => (h.shift k).lt_size
  have h0 := key 0
  have h1 := key (s.chars.size - i)
  have h2 := key (t.chars.size - j)
  omega

theorem hasAt_size (h : s.SameFrom i t j) : s.hasAt s.chars.size = t.hasAt t.chars.size := by
  simp [Source.hasAt, h.ending]

theorem hasAt_succ (h : s.SameFrom i t j) (hi : i < s.chars.size) :
    s.hasAt (i + 1) = t.hasAt (j + 1) := by
  have hsz := h.size_sub
  have hj := h.lt_size.mp hi
  have hl := (h.shift 1).lt_size
  unfold Source.hasAt
  rw [h.ending]
  have heq : (i + 1 == s.chars.size) = (j + 1 == t.chars.size) := by
    rw [Bool.eq_iff_iff, beq_iff_eq, beq_iff_eq]
    omega
  rw [heq, decide_eq_decide.mpr hl]

theorem hasAt_two (h : s.SameFrom i t j) (hi : i + 1 < s.chars.size) :
    s.hasAt (i + 2) = t.hasAt (j + 2) :=
  (h.shift 1).hasAt_succ hi

theorem slice (h : s.SameFrom i t j) (n : Nat) : s.slice i (i + n) = t.slice j (j + n) := by
  unfold Source.slice
  congr 1
  apply List.ext_getElem?
  intro k
  have hsz := h.size_sub
  rw [Array.getElem?_toList, Array.getElem?_toList, Array.getElem?_extract, Array.getElem?_extract]
  have hk : k < min (i + n) s.chars.size - i ↔ k < min (j + n) t.chars.size - j := by omega
  by_cases hks : k < min (i + n) s.chars.size - i
  · rw [if_pos hks, if_pos (hk.mp hks)]
    exact h.chars k
  · rw [if_neg hks, if_neg (fun h' => hks (hk.mpr h'))]

theorem at_ (h : s.SameFrom i t j) {d : Int} (hd : (j : Int) = i + d) {k k' : Nat} (hik : i ≤ k)
    (hk : (k' : Int) = k + d) : s.SameFrom k t k' := by
  have := h.shift (k - i)
  rwa [show i + (k - i) = k by omega, show j + (k - i) = k' by omega] at this

theorem slice_to (h : s.SameFrom i t j) {d : Int} (hd : (j : Int) = i + d) {q q' : Nat}
    (hq : (q' : Int) = q + d) : s.slice i q = t.slice j q' := by
  have hs : s.slice i q = s.slice i (i + (q - i)) := by
    unfold Source.slice
    by_cases hqi : i ≤ q
    · rw [Nat.add_sub_cancel' hqi]
    · rw [Array.extract_empty_of_stop_le_start (by omega), show q - i = 0 by omega, Nat.add_zero,
        Array.extract_empty_of_stop_le_start (Nat.le_refl _)]
  have ht : t.slice j q' = t.slice j (j + (q - i)) := by
    unfold Source.slice
    by_cases hqi : i ≤ q
    · rw [show j + (q - i) = q' by omega]
    · rw [Array.extract_empty_of_stop_le_start (by omega), show q - i = 0 by omega, Nat.add_zero,
        Array.extract_empty_of_stop_le_start (Nat.le_refl _)]
  rw [hs, ht, h.slice]

end SameFrom

end Source

/-- Two outcomes alike: both fail, with errors that `E` relates, or both succeed, with values
that `V` relates. -/
def Except.Rel {ε α : Type} (E : ε → ε → Prop) (V : α → α → Prop) : Except ε α → Except ε α → Prop
  | .ok a, .ok b => V a b
  | .error e, .error e' => E e e'
  | _, _ => False

/-- Outcomes of two scans alike but for where they lie: each position the second reports is the
one the first reports moved by `d`, and `R` relates the tokens. -/
inductive Scanned.Moved {α : Type} (R : α → α → Prop) (d : Int) : Scanned α → Scanned α → Prop
  | token {k k' : α} {next next' : Nat} : R k k' → (next' : Int) = next + d →
      Scanned.Moved R d (.token k next) (.token k' next')
  | invalid {p p' : Nat} : (p' : Int) = p + d → Scanned.Moved R d (.invalid p) (.invalid p')
  | unclosed : Scanned.Moved R d .unclosed .unclosed
  | cutChar : Scanned.Moved R d .cutChar .cutChar
  | finished : Scanned.Moved R d .finished .finished

def RawAttribute.Moved (d : Int) (a a' : RawAttribute) : Prop :=
  a'.name = a.name ∧ (a'.namePos : Int) = a.namePos + d ∧ (a'.valueStart : Int) = a.valueStart + d ∧
    (a'.valueEnd : Int) = a.valueEnd + d

def Markup.Moved (d : Int) : Markup → Markup → Prop
  | .startTag name atts empty, .startTag name' atts' empty' =>
    name' = name ∧ empty' = empty ∧ List.Forall₂ (RawAttribute.Moved d) atts atts'
  | m, m' => m' = m

variable {d : Int}

theorem moved_add {i j : Nat} (hd : (j : Int) = i + d) (k : Nat) :
    ((j + k : Nat) : Int) = (i + k : Nat) + d := by
  omega

theorem Except.Rel.bind {ε α β : Type} {E : ε → ε → Prop} {V : α → α → Prop} {W : β → β → Prop}
    {x y : Except ε α} {f g : α → Except ε β} (h : Except.Rel E V x y)
    (hf : ∀ a b, x = .ok a → V a b → Except.Rel E W (f a) (g b)) :
    Except.Rel E W (x >>= f) (y >>= g) := by
  match x, y, h with
  | .ok a, .ok b, h => exact hf a b rfl h
  | .error e, .error e', h => exact h

theorem Except.Rel.eq_ok {ε α : Type} {E : ε → ε → Prop} {V : α → α → Prop} {a : α}
    {y : Except ε α} (h : Except.Rel E V (.ok a) y) : ∃ b, y = .ok b ∧ V a b := by
  match y, h with
  | .ok b, h => exact ⟨b, rfl, h⟩

theorem Except.Rel.eq_error {ε α : Type} {E : ε → ε → Prop} {V : α → α → Prop} {e : ε}
    {y : Except ε α} (h : Except.Rel E V (.error e) y) : ∃ e', y = .error e' ∧ E e e' := by
  match y, h with
  | .error e', h => exact ⟨e', rfl, h⟩

theorem Except.Rel.eq_or_error {ε α : Type} {E : ε → ε → Prop} {x y : Except ε α}
    (h : Except.Rel E Eq x y) : x = y ∨ ∃ e e', x = .error e ∧ y = .error e' ∧ E e e' := by
  match x, y, h with
  | .ok a, .ok b, h => exact .inl (congrArg _ h)
  | .error e, .error e', h => exact .inr ⟨e, e', rfl, rfl, h⟩

theorem Scanned.Moved.eq_token {α : Type} {R : α → α → Prop} {k : α} {n : Nat} {y : Scanned α}
    (h : Scanned.Moved R d (.token k n) y) : ∃ k' n', y = .token k' n' ∧ R k k' ∧ (n' : Int) = n + d := by
  cases h with
  | token hk hn => exact ⟨_, _, rfl, hk, hn⟩

theorem Scanned.Moved.eq_invalid {α : Type} {R : α → α → Prop} {p : Nat} {y : Scanned α}
    (h : Scanned.Moved R d (.invalid p) y) : ∃ p', y = .invalid p' ∧ (p' : Int) = p + d := by
  cases h with
  | invalid hp => exact ⟨_, rfl, hp⟩

theorem Scanned.Moved.eq_of_left {α : Type} {R : α → α → Prop} {x y : Scanned α}
    (h : Scanned.Moved R d x y) (hx : x = .unclosed ∨ x = .cutChar ∨ x = .finished) : y = x := by
  rcases hx with rfl | rfl | rfl <;> cases h <;> rfl

theorem Scanned.Moved.map {α β : Type} {R : α → α → Prop} {R' : β → β → Prop} {f : α → β}
    (hf : ∀ a b, R a b → R' (f a) (f b)) {x y : Scanned α} (h : Scanned.Moved R d x y) :
    Scanned.Moved R' d (x.map f) (y.map f) := by
  cases h with
  | token hk hn => exact .token (hf _ _ hk) hn
  | invalid hp => exact .invalid hp
  | unclosed => exact .unclosed
  | cutChar => exact .cutChar
  | finished => exact .finished

theorem Scanned.Moved.withKind {α β : Type} {R : α → α → Prop} (R' : β → β → Prop) (k : β)
    (hk : R' k k) {x y : Scanned α} (h : Scanned.Moved R d x y) :
    Scanned.Moved R' d (x.withKind k) (y.withKind k) :=
  h.map fun _ _ _ => hk

theorem Scanned.Moved.ite {α : Type} {R : α → α → Prop} {c : Prop} [Decidable c]
    {x x' y y' : Scanned α} (hx : c → Scanned.Moved R d x x') (hy : ¬c → Scanned.Moved R d y y') :
    Scanned.Moved R d (if c then x else y) (if c then x' else y') := by
  by_cases hc : c
  · rw [if_pos hc, if_pos hc]
    exact hx hc
  · rw [if_neg hc, if_neg hc]
    exact hy hc

namespace Source

variable {s t : Source} {i j : Nat} {d : Int}

theorem stop_moved {α : Type} (R : α → α → Prop) (h : s.SameFrom i t j) (hd : (j : Int) = i + d)
    (cutEndsChar : Bool) : Scanned.Moved R d (s.stop i cutEndsChar) (t.stop j cutEndsChar) := by
  unfold Source.stop
  rw [← h.peek]
  split
  · exact .unclosed
  · split
    · exact .cutChar
    · exact .invalid hd
  · exact .invalid hd

theorem atEnd_moved {α : Type} (R : α → α → Prop) (h : s.SameFrom i t j) :
    Scanned.Moved R d (s.atEnd : Scanned α) t.atEnd := by
  unfold Source.atEnd
  rw [h.ending]
  split
  · exact .unclosed
  · exact .finished

theorem nameEnd_moved (h : s.SameFrom i t j) (hd : (j : Int) = i + d) :
    (t.nameEnd j : Int) = s.nameEnd i + d := by
  fun_induction s.nameEnd i generalizing j with
  | case1 i hi hc ih =>
    rw [nameEnd, dif_pos (h.lt_size.mp hi), if_pos (h.getElem hi (h.lt_size.mp hi) ▸ hc)]
    exact ih (h.shift 1) (by omega)
  | case2 i hi hc =>
    rw [nameEnd, dif_pos (h.lt_size.mp hi), if_neg (h.getElem hi (h.lt_size.mp hi) ▸ hc)]
    exact hd
  | case3 i hi =>
    rw [nameEnd, dif_neg (fun hj => hi (h.lt_size.mpr hj))]
    exact hd

theorem rawNameEnd_moved (h : s.SameFrom i t j) (hd : (j : Int) = i + d) :
    (t.rawNameEnd j : Int) = s.rawNameEnd i + d := by
  fun_induction s.rawNameEnd i generalizing j
  case case1 i hi _ hc ih =>
    have hc : (isNameChar s.chars[i] || s.chars[i] == ':') = true := hc
    rw [Source.rawNameEnd.eq_1 t, dif_pos (h.lt_size.mp hi)]
    simp only [← h.getElem hi, hc, if_true]
    exact ih (h.shift 1) (by omega)
  case case2 i hi _ hc =>
    have hc : ¬(isNameChar s.chars[i] || s.chars[i] == ':') = true := hc
    rw [Source.rawNameEnd.eq_1 t, dif_pos (h.lt_size.mp hi)]
    simp only [← h.getElem hi, hc]
    exact hd
  case case3 i hi =>
    rw [Source.rawNameEnd.eq_1 t, dif_neg (fun hj => hi (h.lt_size.mpr hj))]
    exact hd

theorem spaceEnd_moved (h : s.SameFrom i t j) (hd : (j : Int) = i + d) :
    (t.spaceEnd j : Int) = s.spaceEnd i + d := by
  fun_induction s.spaceEnd i generalizing j with
  | case1 i hi hc ih =>
    rw [spaceEnd, dif_pos (h.lt_size.mp hi), if_pos (h.getElem hi (h.lt_size.mp hi) ▸ hc)]
    exact ih (h.shift 1) (by omega)
  | case2 i hi hc =>
    rw [spaceEnd, dif_pos (h.lt_size.mp hi), if_neg (h.getElem hi (h.lt_size.mp hi) ▸ hc)]
    exact hd
  | case3 i hi =>
    rw [spaceEnd, dif_neg (fun hj => hi (h.lt_size.mpr hj))]
    exact hd

theorem qnameEnd_moved {α : Type} (R : α → α → Prop) (h : s.SameFrom i t j) (hd : (j : Int) = i + d)
    (hadColon : Bool) :
    Except.Rel (Scanned.Moved R d) (fun (p p' : Nat) => (p' : Int) = p + d)
      (s.qnameEnd i hadColon) (t.qnameEnd j hadColon) := by
  fun_induction s.qnameEnd i hadColon generalizing j
  case case1 i hadColon hi _ hn ih =>
    rw [Source.qnameEnd.eq_1 t, dif_pos (h.lt_size.mp hi)]
    dsimp only
    rw [← h.getElem hi, if_pos hn]
    exact ih (h.shift 1) (by omega)
  case case2 i hi _ hn hc =>
    rw [Source.qnameEnd.eq_1 t, dif_pos (h.lt_size.mp hi)]
    dsimp only
    rw [← h.getElem hi, if_neg hn, if_pos hc, if_pos rfl]
    exact Scanned.Moved.invalid hd
  case case3 i hadColon hi _ hn hc hcolon c hpeek hstart ih =>
    rw [Source.qnameEnd.eq_1 t, dif_pos (h.lt_size.mp hi)]
    dsimp only
    rw [← h.getElem hi, if_neg hn, if_pos hc, if_neg hcolon, ← (h.shift 1).peek, hpeek]
    dsimp only
    rw [if_pos hstart]
    exact ih (h.shift 2) (by omega)
  case case4 i hadColon hi _ hn hc hcolon c hpeek hstart =>
    rw [Source.qnameEnd.eq_1 t, dif_pos (h.lt_size.mp hi)]
    dsimp only
    rw [← h.getElem hi, if_neg hn, if_pos hc, if_neg hcolon, ← (h.shift 1).peek, hpeek]
    dsimp only
    rw [if_neg hstart]
    exact Scanned.Moved.invalid (by omega)
  case case5 i hadColon hi _ hn hc hcolon hpeek =>
    rw [Source.qnameEnd.eq_1 t, dif_pos (h.lt_size.mp hi)]
    dsimp only
    rw [← h.getElem hi, if_neg hn, if_pos hc, if_neg hcolon, ← (h.shift 1).peek]
    split
    next c' hc' => exact absurd hc' (hpeek c')
    next => exact stop_moved R (h.shift 1) (by omega) true
  case case6 i hadColon hi _ hn hc =>
    rw [Source.qnameEnd.eq_1 t, dif_pos (h.lt_size.mp hi)]
    dsimp only
    rw [← h.getElem hi, if_neg hn, if_neg hc]
    exact hd
  case case7 i hadColon hi =>
    rw [Source.qnameEnd.eq_1 t, dif_neg (mt h.lt_size.mpr hi)]
    exact hd

theorem le_nameEnd (s : Source) (i : Nat) : i ≤ s.nameEnd i := by
  fun_induction s.nameEnd i <;> omega

theorem le_rawNameEnd (s : Source) (i : Nat) : i ≤ s.rawNameEnd i := by
  fun_induction s.rawNameEnd i <;> omega

theorem le_spaceEnd (s : Source) (i : Nat) : i ≤ s.spaceEnd i := by
  fun_induction s.spaceEnd i <;> omega

theorem le_of_qnameEnd {α : Type} {hadColon : Bool} {p : Nat}
    (hq : (s.qnameEnd i hadColon : Except (Scanned α) Nat) = .ok p) : i ≤ p := by
  fun_induction s.qnameEnd i hadColon <;> grind

theorem mismatchAt_moved (h : s.SameFrom i t j) (hd : (j : Int) = i + d) (cs : List Char) :
    Option.Rel (fun (p p' : Nat) => (p' : Int) = p + d) (s.mismatchAt i cs) (t.mismatchAt j cs) := by
  induction cs generalizing i j with
  | nil => exact .none
  | cons c cs ih =>
    simp only [mismatchAt, ← h.peek]
    split
    · split
      · exact ih (h.shift 1) (by omega)
      · exact .some hd
    · exact .some hd

theorem charRefDigits_moved (h : s.SameFrom i t j) (hd : (j : Int) = i + d) (hex : Bool)
    (value : Option Nat) :
    Scanned.Moved Eq d (s.charRefDigits i hex value) (t.charRefDigits j hex value) := by
  fun_induction s.charRefDigits i hex value generalizing j
  case case1 i value hi _ hc =>
    rw [Source.charRefDigits.eq_1 t, dif_pos (h.lt_size.mp hi)]
    dsimp only
    rw [← h.getElem hi, if_pos hc]
    exact .token rfl (by omega)
  case case2 i value hi _ hc v hv _ ih =>
    rw [Source.charRefDigits.eq_1 t, dif_pos (h.lt_size.mp hi)]
    dsimp only
    rw [← h.getElem hi, if_neg hc, hv]
    exact ih (h.shift 1) (by omega)
  case case3 i value hi _ hc hv =>
    rw [Source.charRefDigits.eq_1 t, dif_pos (h.lt_size.mp hi)]
    dsimp only
    rw [← h.getElem hi, if_neg hc, hv]
    exact .invalid hd
  case case4 i value hi =>
    rw [Source.charRefDigits.eq_1 t, dif_neg (mt h.lt_size.mpr hi)]
    exact stop_moved Eq h hd false

theorem reference_moved (h : s.SameFrom i t j) (hd : (j : Int) = i + d) :
    Scanned.Moved Eq d (s.reference i) (t.reference j) := by
  unfold Source.reference
  rw [← h.peek, ← (h.shift 1).peek, ← (h.shift 2).peek]
  split
  next c hc =>
    split
    · split
      · split
        · split
          · exact charRefDigits_moved (h.shift 3) (by omega) true _
          · exact .invalid (by omega)
        · exact stop_moved Eq (h.shift 2) (by omega) false
      · split
        · exact charRefDigits_moved (h.shift 2) (by omega) false _
        · exact .invalid (by omega)
      · exact stop_moved Eq (h.shift 1) (by omega) false
    · split
      · have hn := nameEnd_moved (h.shift 1) (show ((j + 1 : Nat) : Int) = (i + 1 : Nat) + d by omega)
        have hsf := h.at_ hd (by have := le_nameEnd s (i + 1); omega) hn
        dsimp only
        rw [← hsf.peek, h.slice_to hd hn]
        split
        · exact .token rfl (by omega)
        · exact stop_moved Eq hsf hn true
      · exact .invalid hd
  next => exact stop_moved Eq h hd true

theorem attributeValueEnd_moved {α : Type} (R : α → α → Prop) (h : s.SameFrom i t j)
    (hd : (j : Int) = i + d) (q : Char) :
    Except.Rel (Scanned.Moved R d) (fun (p p' : Nat) => (p' : Int) = p + d)
      (s.attributeValueEnd i q) (t.attributeValueEnd j q) := by
  fun_induction s.attributeValueEnd i q generalizing j
  case case1 i hi _ hdoc =>
    rw [Source.attributeValueEnd.eq_1 t, dif_pos (h.lt_size.mp hi)]
    dsimp only
    rw [← h.getElem hi, if_pos hdoc]
    exact Scanned.Moved.invalid hd
  case case2 i hi _ hdoc hq =>
    rw [Source.attributeValueEnd.eq_1 t, dif_pos (h.lt_size.mp hi)]
    dsimp only
    rw [← h.getElem hi, if_neg hdoc, if_pos hq]
    exact hd
  case case3 i hi _ hdoc hq hlt =>
    rw [Source.attributeValueEnd.eq_1 t, dif_pos (h.lt_size.mp hi)]
    dsimp only
    rw [← h.getElem hi, if_neg hdoc, if_neg hq, if_pos hlt]
    exact Scanned.Moved.invalid hd
  case case4 i hi _ hdoc hq hlt hamp k n hr ih =>
    rw [Source.attributeValueEnd.eq_1 t, dif_pos (h.lt_size.mp hi)]
    dsimp only
    rw [← h.getElem hi, if_neg hdoc, if_neg hq, if_neg hlt, if_pos hamp]
    have hm := reference_moved (h.shift 1) (moved_add hd 1)
    rw [hr] at hm
    obtain ⟨k', n', hr', -, -⟩ := hm.eq_token
    rw [hr']
    exact ih (h.shift 1) (moved_add hd 1)
  case case5 i hi _ hdoc hq hlt hamp p hr =>
    rw [Source.attributeValueEnd.eq_1 t, dif_pos (h.lt_size.mp hi)]
    dsimp only
    rw [← h.getElem hi, if_neg hdoc, if_neg hq, if_neg hlt, if_pos hamp]
    have hm := reference_moved (h.shift 1) (moved_add hd 1)
    rw [hr] at hm
    obtain ⟨p', hr', hp⟩ := hm.eq_invalid
    rw [hr']
    exact Scanned.Moved.invalid hp
  case case6 i hi _ hdoc hq hlt hamp hr =>
    rw [Source.attributeValueEnd.eq_1 t, dif_pos (h.lt_size.mp hi)]
    dsimp only
    rw [← h.getElem hi, if_neg hdoc, if_neg hq, if_neg hlt, if_pos hamp]
    have hm := reference_moved (h.shift 1) (moved_add hd 1)
    rw [hr] at hm
    rw [hm.eq_of_left (.inr (.inl rfl))]
    exact Scanned.Moved.cutChar
  case case7 i hi _ hdoc hq hlt hamp hnt hni hnc =>
    rw [Source.attributeValueEnd.eq_1 t, dif_pos (h.lt_size.mp hi)]
    dsimp only
    rw [← h.getElem hi, if_neg hdoc, if_neg hq, if_neg hlt, if_pos hamp]
    have hm := reference_moved (h.shift 1) (moved_add hd 1)
    generalize s.reference (i + 1) = r at hm hnt hni hnc
    generalize t.reference (j + 1) = r' at hm ⊢
    cases hm with
    | token => exact absurd rfl (hnt _ _)
    | invalid => exact absurd rfl (hni _)
    | cutChar => exact absurd rfl hnc
    | unclosed => exact Scanned.Moved.unclosed
    | finished => exact Scanned.Moved.unclosed
  case case8 i hi _ hdoc hq hlt hamp ih =>
    rw [Source.attributeValueEnd.eq_1 t, dif_pos (h.lt_size.mp hi)]
    dsimp only
    rw [← h.getElem hi, if_neg hdoc, if_neg hq, if_neg hlt, if_neg hamp]
    exact ih (h.shift 1) (moved_add hd 1)
  case case9 i hi =>
    rw [Source.attributeValueEnd.eq_1 t, dif_neg (mt h.lt_size.mpr hi)]
    exact stop_moved R h hd true

theorem attributeEq_moved {α : Type} (R : α → α → Prop) (h : s.SameFrom i t j)
    (hd : (j : Int) = i + d) :
    Except.Rel (Scanned.Moved R d) (fun (p p' : Nat) => (p' : Int) = p + d ∧ i ≤ p)
      (s.attributeEq i) (t.attributeEq j) := by
  unfold Source.attributeEq
  rw [← h.peek]
  split
  · exact ⟨hd, Nat.le_refl i⟩
  · split
    · have hk := spaceEnd_moved (h.shift 1) (moved_add hd 1)
      have hsk := h.at_ hd (by have := le_spaceEnd s (i + 1); omega) hk
      dsimp only
      rw [← hsk.peek]
      split
      · exact ⟨hk, by have := le_spaceEnd s (i + 1); omega⟩
      · exact stop_moved R hsk hk false
    · exact Scanned.Moved.invalid hd
  · exact stop_moved R h hd true

theorem attributeAt_moved {α : Type} (R : α → α → Prop) (h : s.SameFrom i t j)
    (hd : (j : Int) = i + d) :
    Except.Rel (Scanned.Moved R d)
      (fun (x y : RawAttribute × Nat) => RawAttribute.Moved d x.1 y.1 ∧ (y.2 : Int) = x.2 + d)
      (s.attributeAt i) (t.attributeAt j) := by
  unfold Source.attributeAt
  refine (qnameEnd_moved R (h.shift 1) (moved_add hd 1) false).bind fun p p' hq hp => ?_
  have hsp := h.at_ hd (by have := le_of_qnameEnd hq; omega) hp
  refine (attributeEq_moved R hsp hp).bind fun e e' _ ⟨he, hpe⟩ => ?_
  have hv := spaceEnd_moved (h.at_ hd (by have := le_of_qnameEnd hq; omega) (moved_add he 1))
    (moved_add he 1)
  have hsv := h.at_ hd (by have := le_spaceEnd s (e + 1); have := le_of_qnameEnd hq; omega) hv
  dsimp only
  rw [← hsv.peek]
  split
  · split
    · refine (attributeValueEnd_moved R (hsv.shift 1) (moved_add hv 1) _).bind
        fun f f' _ hf => ?_
      exact ⟨⟨(h.slice_to hd hp).symm, hd, moved_add hv 1, hf⟩, moved_add hf 1⟩
    · exact Scanned.Moved.invalid hv
  · exact stop_moved R hsv hv false

theorem le_of_attributeValueEnd {α : Type} {q : Char} {p : Nat}
    (h : (s.attributeValueEnd i q : Except (Scanned α) Nat) = .ok p) : i ≤ p := by
  fun_induction s.attributeValueEnd i q <;> grind

theorem le_of_attributeEq {α : Type} {e : Nat}
    (h : (s.attributeEq i : Except (Scanned α) Nat) = .ok e) : i ≤ e := by
  unfold Source.attributeEq at h
  have := le_spaceEnd s (i + 1)
  split at h
  · cases h; exact Nat.le_refl i
  · split at h
    · dsimp only at h
      split at h
      · cases h; omega
      · cases h
    · cases h
  · cases h

theorem lt_of_attributeAt {α : Type} {a : RawAttribute} {k : Nat}
    (h : (s.attributeAt i : Except (Scanned α) (RawAttribute × Nat)) = .ok (a, k)) : i < k := by
  unfold Source.attributeAt at h
  obtain ⟨p, hq, h⟩ := Except.bind_eq_ok.mp h
  obtain ⟨e, he, h⟩ := Except.bind_eq_ok.mp h
  have := le_of_qnameEnd hq
  have := le_of_attributeEq he
  have := le_spaceEnd s (e + 1)
  dsimp only at h
  split at h
  · split at h
    · obtain ⟨f, hf, h⟩ := Except.bind_eq_ok.mp h
      have := le_of_attributeValueEnd hf
      cases h
      omega
    · cases h
  · cases h

theorem attributeAt_ok_moved {α : Type} {a : RawAttribute} {k : Nat} (h : s.SameFrom i t j)
    (hd : (j : Int) = i + d)
    (hat : (s.attributeAt i : Except (Scanned α) (RawAttribute × Nat)) = .ok (a, k)) :
    ∃ a' k', (t.attributeAt j : Except (Scanned α) (RawAttribute × Nat)) = .ok (a', k') ∧
      RawAttribute.Moved d a a' ∧ (k' : Int) = k + d ∧ s.SameFrom k t k' := by
  have hm := attributeAt_moved (Eq : α → α → Prop) h hd
  rw [hat] at hm
  obtain ⟨⟨a', k'⟩, hat', ha, hk⟩ := hm.eq_ok
  exact ⟨a', k', hat', ha, hk, h.at_ hd (Nat.le_of_lt (lt_of_attributeAt hat)) hk⟩

theorem emptyTagEnd_moved (h : s.SameFrom i t j) (hd : (j : Int) = i + d) (name : String)
    {atts atts' : List RawAttribute} (ha : List.Forall₂ (RawAttribute.Moved d) atts atts') :
    Scanned.Moved (Markup.Moved d) d (s.emptyTagEnd i name atts) (t.emptyTagEnd j name atts') := by
  unfold Source.emptyTagEnd
  rw [← h.peek]
  split
  · exact .token ⟨rfl, rfl, ha⟩ (moved_add hd 1)
  · exact stop_moved _ h hd false

theorem tagRest_moved (h : s.SameFrom i t j) (hd : (j : Int) = i + d) (name : String)
    {acc acc' : List RawAttribute} (hacc : List.Forall₂ (RawAttribute.Moved d) acc acc') :
    Scanned.Moved (Markup.Moved d) d (s.tagRest i name acc) (t.tagRest j name acc') := by
  fun_induction s.tagRest i name acc generalizing j acc'
  case case1 i acc hi _ hsp ih =>
    rw [Source.tagRest.eq_1 t, dif_pos (h.lt_size.mp hi)]
    dsimp only
    rw [← h.getElem hi, if_pos hsp]
    exact ih (h.shift 1) (moved_add hd 1) hacc
  case case2 i acc hi _ hsp hgt =>
    rw [Source.tagRest.eq_1 t, dif_pos (h.lt_size.mp hi)]
    dsimp only
    rw [← h.getElem hi, if_neg hsp, if_pos hgt]
    exact .token ⟨rfl, rfl, List.forall₂_reverse_iff.mpr hacc⟩ (moved_add hd 1)
  case case3 i acc hi _ hsp hgt hsl =>
    rw [Source.tagRest.eq_1 t, dif_pos (h.lt_size.mp hi)]
    dsimp only
    rw [← h.getElem hi, if_neg hsp, if_neg hgt, if_pos hsl]
    exact emptyTagEnd_moved (h.shift 1) (moved_add hd 1) name (List.forall₂_reverse_iff.mpr hacc)
  case case4 i acc hi _ hsp hgt hsl hns e hat =>
    rw [Source.tagRest.eq_1 t, dif_pos (h.lt_size.mp hi)]
    dsimp only
    rw [← h.getElem hi, if_neg hsp, if_neg hgt, if_neg hsl, if_pos hns]
    have hm := attributeAt_moved (Markup.Moved d) h hd
    rw [hat] at hm
    obtain ⟨e', hat', he⟩ := hm.eq_error
    rw [hat']
    exact he
  case case5 i acc hi _ hsp hgt hsl hns a k hat hpk =>
    rw [Source.tagRest.eq_1 t, dif_pos (h.lt_size.mp hi)]
    dsimp only
    rw [← h.getElem hi, if_neg hsp, if_neg hgt, if_neg hsl, if_pos hns]
    obtain ⟨a', k', hat', ha, hk, hsk⟩ := attributeAt_ok_moved h hd hat
    rw [hat']
    dsimp only
    rw [← hsk.peek, hpk]
    exact .token ⟨rfl, rfl, List.forall₂_reverse_iff.mpr (.cons ha hacc)⟩ (moved_add hk 1)
  case case6 i acc hi _ hsp hgt hsl hns a k hat hpk =>
    rw [Source.tagRest.eq_1 t, dif_pos (h.lt_size.mp hi)]
    dsimp only
    rw [← h.getElem hi, if_neg hsp, if_neg hgt, if_neg hsl, if_pos hns]
    obtain ⟨a', k', hat', ha, hk, hsk⟩ := attributeAt_ok_moved h hd hat
    rw [hat']
    dsimp only
    rw [← hsk.peek, hpk]
    exact emptyTagEnd_moved (hsk.shift 1) (moved_add hk 1) name
      (List.forall₂_reverse_iff.mpr (.cons ha hacc))
  case case7 i acc hi _ hsp hgt hsl hns a k hat c hc1 hc2 hpk hcs hik ih =>
    rw [Source.tagRest.eq_1 t, dif_pos (h.lt_size.mp hi)]
    dsimp only
    rw [← h.getElem hi, if_neg hsp, if_neg hgt, if_neg hsl, if_pos hns]
    obtain ⟨a', k', hat', ha, hk, hsk⟩ := attributeAt_ok_moved h hd hat
    rw [hat']
    dsimp only
    rw [← hsk.peek, hpk]
    split
    next heq => exact absurd (Peek.char.inj heq) hc1
    next heq => exact absurd (Peek.char.inj heq) hc2
    next c' heq =>
      cases heq
      rw [if_pos hcs, if_pos (by omega)]
      exact ih (hsk.shift 1) (moved_add hk 1) (.cons ha hacc)
    next hne => exact absurd rfl (hne c)
  case case8 i acc hi _ hsp hgt hsl hns a k hat c hc1 hc2 hpk hcs hik =>
    rw [Source.tagRest.eq_1 t, dif_pos (h.lt_size.mp hi)]
    dsimp only
    rw [← h.getElem hi, if_neg hsp, if_neg hgt, if_neg hsl, if_pos hns]
    obtain ⟨a', k', hat', ha, hk, hsk⟩ := attributeAt_ok_moved h hd hat
    rw [hat']
    dsimp only
    rw [← hsk.peek, hpk]
    split
    next heq => exact absurd (Peek.char.inj heq) hc1
    next heq => exact absurd (Peek.char.inj heq) hc2
    next c' heq =>
      cases heq
      rw [if_pos hcs, if_neg (by omega)]
      exact .invalid hk
    next hne => exact absurd rfl (hne c)
  case case9 i acc hi _ hsp hgt hsl hns a k hat c hc1 hc2 hpk hcs =>
    rw [Source.tagRest.eq_1 t, dif_pos (h.lt_size.mp hi)]
    dsimp only
    rw [← h.getElem hi, if_neg hsp, if_neg hgt, if_neg hsl, if_pos hns]
    obtain ⟨a', k', hat', ha, hk, hsk⟩ := attributeAt_ok_moved h hd hat
    rw [hat']
    dsimp only
    rw [← hsk.peek, hpk]
    split
    next heq => exact absurd (Peek.char.inj heq) hc1
    next heq => exact absurd (Peek.char.inj heq) hc2
    next c' heq =>
      cases heq
      rw [if_neg hcs]
      exact .invalid hk
    next hne => exact absurd rfl (hne c)
  case case10 i acc hi _ hsp hgt hsl hns a k hat hn1 hn2 hn3 =>
    rw [Source.tagRest.eq_1 t, dif_pos (h.lt_size.mp hi)]
    dsimp only
    rw [← h.getElem hi, if_neg hsp, if_neg hgt, if_neg hsl, if_pos hns]
    obtain ⟨a', k', hat', ha, hk, hsk⟩ := attributeAt_ok_moved h hd hat
    rw [hat']
    dsimp only
    rw [← hsk.peek]
    split
    next heq => exact absurd heq hn1
    next heq => exact absurd heq hn2
    next c' _ _ heq => exact absurd heq (hn3 c')
    next => exact stop_moved _ hsk hk false
  case case11 i acc hi _ hsp hgt hsl hns =>
    rw [Source.tagRest.eq_1 t, dif_pos (h.lt_size.mp hi)]
    dsimp only
    rw [← h.getElem hi, if_neg hsp, if_neg hgt, if_neg hsl, if_neg hns]
    exact .invalid hd
  case case12 i acc hi =>
    rw [Source.tagRest.eq_1 t, dif_neg (mt h.lt_size.mpr hi)]
    exact stop_moved _ h hd true

theorem startTag_moved (h : s.SameFrom i t j) (hd : (j : Int) = i + d) :
    Scanned.Moved (Markup.Moved d) d (s.startTag i) (t.startTag j) := by
  unfold Source.startTag
  have hq := qnameEnd_moved (Markup.Moved d) (h.shift 2) (moved_add hd 2) false
  cases hs : s.qnameEnd (i + 2) false with
  | error e =>
    rw [hs] at hq
    obtain ⟨e', ht, he⟩ := hq.eq_error
    rw [ht]
    exact he
  | ok p =>
    rw [hs] at hq
    obtain ⟨p', ht, hp⟩ := hq.eq_ok
    have hsp := h.at_ hd (by have := le_of_qnameEnd hs; omega) hp
    rw [ht]
    dsimp only
    rw [← hsp.peek, ← (h.shift 1).slice_to (moved_add hd 1) hp]
    split
    · exact .token ⟨rfl, rfl, .nil⟩ (moved_add hp 1)
    · exact emptyTagEnd_moved (hsp.shift 1) (moved_add hp 1) _ .nil
    · split
      · exact tagRest_moved (hsp.shift 1) (moved_add hp 1) _ .nil
      · exact .invalid hp
    · exact stop_moved _ hsp hp true

theorem endTag_moved (h : s.SameFrom i t j) (hd : (j : Int) = i + d) :
    Scanned.Moved (Markup.Moved d) d (s.endTag i) (t.endTag j) := by
  unfold Source.endTag
  rw [← h.peek]
  split
  · split
    · have hn := rawNameEnd_moved (h.shift 1) (moved_add hd 1)
      have hsn := h.at_ hd (by have := le_rawNameEnd s (i + 1); omega) hn
      dsimp only
      rw [← hsn.peek, ← h.slice_to hd hn]
      split
      · exact .token rfl (moved_add hn 1)
      · split
        · have hk := spaceEnd_moved (hsn.shift 1) (moved_add hn 1)
          have h1 := le_rawNameEnd s (i + 1)
          have h2 := le_spaceEnd s (s.rawNameEnd (i + 1) + 1)
          have hsk := h.at_ hd (by omega) hk
          rw [← hsk.peek]
          split
          · exact .token rfl (moved_add hk 1)
          · exact stop_moved _ hsk hk false
        · exact .invalid hn
      · exact stop_moved _ hsn hn true
    · exact .invalid hd
  · exact stop_moved _ h hd true

theorem commentEnd_moved (h : s.SameFrom i t j) (hd : (j : Int) = i + d) :
    Scanned.Moved Eq d (s.commentEnd i) (t.commentEnd j) := by
  fun_induction s.commentEnd i generalizing j
  case case1 i hi _ hdoc =>
    rw [Source.commentEnd.eq_1 t, dif_pos (h.lt_size.mp hi)]
    dsimp only
    rw [← h.getElem hi, if_pos hdoc]
    exact .invalid hd
  case case2 i hi _ hdoc hdash h1 h2 =>
    rw [Source.commentEnd.eq_1 t, dif_pos (h.lt_size.mp hi)]
    dsimp only
    rw [← h.getElem hi, if_neg hdoc, if_pos hdash, ← (h.shift 1).peek, h1, ← (h.shift 2).peek, h2]
    exact .token rfl (moved_add hd 3)
  case case3 i hi _ hdoc hdash h1 h2 =>
    rw [Source.commentEnd.eq_1 t, dif_pos (h.lt_size.mp hi)]
    dsimp only
    rw [← h.getElem hi, if_neg hdoc, if_pos hdash, ← (h.shift 1).peek, ← (h.shift 2).peek]
    split
    next =>
      split
      next heq => exact absurd heq h2
      next => exact stop_moved Eq (h.shift 2) (moved_add hd 2) false
    next heq => rw [h1] at heq; cases heq
    next hne _ => exact absurd h1 hne
  case case4 i hi _ hdoc hdash h1 =>
    rw [Source.commentEnd.eq_1 t, dif_pos (h.lt_size.mp hi)]
    dsimp only
    rw [← h.getElem hi, if_neg hdoc, if_pos hdash, ← (h.shift 1).peek, h1]
    exact .unclosed
  case case5 i hi _ hdoc hdash h1 h2 ih =>
    rw [Source.commentEnd.eq_1 t, dif_pos (h.lt_size.mp hi)]
    dsimp only
    rw [← h.getElem hi, if_neg hdoc, if_pos hdash, ← (h.shift 1).peek]
    split
    next heq => exact absurd heq h1
    next heq => exact absurd heq h2
    next => exact ih (h.shift 1) (moved_add hd 1)
  case case6 i hi _ hdoc hdash ih =>
    rw [Source.commentEnd.eq_1 t, dif_pos (h.lt_size.mp hi)]
    dsimp only
    rw [← h.getElem hi, if_neg hdoc, if_neg hdash]
    exact ih (h.shift 1) (moved_add hd 1)
  case case7 i hi =>
    rw [Source.commentEnd.eq_1 t, dif_neg (mt h.lt_size.mpr hi)]
    exact stop_moved Eq h hd true

theorem comment_moved (h : s.SameFrom i t j) (hd : (j : Int) = i + d) :
    Scanned.Moved Eq d (s.comment i) (t.comment j) := by
  unfold Source.comment
  rw [← h.peek]
  split
  · exact commentEnd_moved (h.shift 1) (moved_add hd 1)
  · exact .unclosed
  · exact .invalid hd

theorem instructionEnd_moved (h : s.SameFrom i t j) (hd : (j : Int) = i + d) :
    Scanned.Moved Eq d (s.instructionEnd i) (t.instructionEnd j) := by
  fun_induction s.instructionEnd i generalizing j
  case case1 i hi _ hdoc =>
    rw [Source.instructionEnd.eq_1 t, dif_pos (h.lt_size.mp hi)]
    dsimp only
    rw [← h.getElem hi, if_pos hdoc]
    exact .invalid hd
  case case2 i hi _ hdoc hq h1 =>
    rw [Source.instructionEnd.eq_1 t, dif_pos (h.lt_size.mp hi)]
    dsimp only
    rw [← h.getElem hi, if_neg hdoc, if_pos hq, ← (h.shift 1).peek, h1]
    exact .token rfl (moved_add hd 2)
  case case3 i hi _ hdoc hq h1 =>
    rw [Source.instructionEnd.eq_1 t, dif_pos (h.lt_size.mp hi)]
    dsimp only
    rw [← h.getElem hi, if_neg hdoc, if_pos hq, ← (h.shift 1).peek, h1]
    exact .unclosed
  case case4 i hi _ hdoc hq h1 h2 ih =>
    rw [Source.instructionEnd.eq_1 t, dif_pos (h.lt_size.mp hi)]
    dsimp only
    rw [← h.getElem hi, if_neg hdoc, if_pos hq, ← (h.shift 1).peek]
    split
    next heq => exact absurd heq h1
    next heq => exact absurd heq h2
    next => exact ih (h.shift 1) (moved_add hd 1)
  case case5 i hi _ hdoc hq ih =>
    rw [Source.instructionEnd.eq_1 t, dif_pos (h.lt_size.mp hi)]
    dsimp only
    rw [← h.getElem hi, if_neg hdoc, if_neg hq]
    exact ih (h.shift 1) (moved_add hd 1)
  case case6 i hi =>
    rw [Source.instructionEnd.eq_1 t, dif_neg (mt h.lt_size.mpr hi)]
    exact stop_moved Eq h hd true

theorem instruction_moved (h : s.SameFrom i t j) (hd : (j : Int) = i + d) :
    Scanned.Moved Eq d (s.instruction i) (t.instruction j) := by
  unfold Source.instruction
  rw [← h.peek]
  split
  · split
    · have hn := nameEnd_moved (h.shift 1) (moved_add hd 1)
      have hsn := h.at_ hd (by have := le_nameEnd s (i + 1); omega) hn
      dsimp only
      rw [← hsn.peek, ← h.slice_to hd hn, ← (hsn.shift 1).peek]
      split
      · split
        · split
          · exact (instructionEnd_moved (hsn.shift 1) (moved_add hn 1)).withKind Eq _ rfl
          · exact .invalid hn
        · split
          · split
            · split
              · exact .token rfl (moved_add hn 2)
              · exact stop_moved Eq (hsn.shift 1) (moved_add hn 1) false
            · exact .invalid hn
          · exact .invalid hn
      · exact stop_moved Eq hsn hn true
    · exact .invalid hd
  · exact stop_moved Eq h hd true

theorem cdataOpen_moved (h : s.SameFrom i t j) (hd : (j : Int) = i + d) :
    Scanned.Moved (Markup.Moved d) d (s.cdataOpen i) (t.cdataOpen j) := by
  unfold Source.cdataOpen
  rw [h.size_sub, h.hasAt_size]
  dsimp only
  by_cases hav : t.chars.size - j + (if t.hasAt t.chars.size = true then 1 else 0) < 6
  · rw [if_pos hav, if_pos hav]
    exact .unclosed
  · rw [if_neg hav, if_neg hav]
    have hm := mismatchAt_moved h hd "CDATA[".toList
    revert hm
    generalize s.mismatchAt i "CDATA[".toList = x
    generalize t.mismatchAt j "CDATA[".toList = y
    intro hm
    cases hm with
    | none => exact .token (rfl : Markup.Moved d .cdataOpen .cdataOpen) (moved_add hd 6)
    | some hp => exact .invalid hp

theorem afterLt_moved (h : s.SameFrom i t j) (hd : (j : Int) = i + d) :
    Scanned.Moved (Markup.Moved d) d (s.afterLt i) (t.afterLt j) := by
  unfold Source.afterLt
  rw [← (h.shift 1).peek, ← (h.shift 2).peek]
  split
  · split
    · exact startTag_moved h hd
    · split
      · split
        · exact (comment_moved (h.shift 3) (moved_add hd 3)).withKind (Markup.Moved d) .comment rfl
        · exact cdataOpen_moved (h.shift 3) (moved_add hd 3)
        · exact stop_moved _ (h.shift 2) (moved_add hd 2) false
      · split
        · exact (instruction_moved (h.shift 2) (moved_add hd 2)).map
            fun a b (hab : a = b) => (hab ▸ rfl : Markup.Moved d (.instruction a) (.instruction b))
        · split
          · exact endTag_moved (h.shift 2) (moved_add hd 2)
          · exact .invalid (moved_add hd 1)
  · exact stop_moved _ (h.shift 1) (moved_add hd 1) true

theorem lt_size_of_peek {c : Char} (h : s.peek i = .char c) : i < s.chars.size := by
  unfold Source.peek at h
  split at h
  · assumption
  · split at h <;> cases h

theorem lt_size_of_peek_beq {c : Char} (h : (s.peek i == .char c) = true) : i < s.chars.size :=
  lt_size_of_peek (beq_iff_eq.mp h)

theorem dataEnd_moved (h : s.SameFrom i t j) (hd : (j : Int) = i + d) :
    Except.Rel (fun (p p' : Nat) => (p' : Int) = p + d) (fun (p p' : Nat) => (p' : Int) = p + d)
      (s.dataEnd i) (t.dataEnd j) := by
  fun_induction s.dataEnd i generalizing j
  case case1 i hi _ hstop =>
    rw [Source.dataEnd.eq_1 t, dif_pos (h.lt_size.mp hi)]
    dsimp only
    rw [← h.getElem hi, if_pos hstop]
    exact hd
  case case2 i hi _ hstop hb h1 hp1 h2 hp2 =>
    rw [Source.dataEnd.eq_1 t, dif_pos (h.lt_size.mp hi)]
    dsimp only
    rw [← h.getElem hi, if_neg hstop, if_pos hb, ← h.hasAt_succ hi, if_pos h1, ← (h.shift 1).peek,
      if_pos hp1, ← h.hasAt_two (lt_size_of_peek_beq hp1), if_pos h2, ← (h.shift 2).peek, if_pos hp2]
    exact moved_add hd 2
  case case3 i hi _ hstop hb h1 hp1 h2 hp2 ih =>
    rw [Source.dataEnd.eq_1 t, dif_pos (h.lt_size.mp hi)]
    dsimp only
    rw [← h.getElem hi, if_neg hstop, if_pos hb, ← h.hasAt_succ hi, if_pos h1, ← (h.shift 1).peek,
      if_pos hp1, ← h.hasAt_two (lt_size_of_peek_beq hp1), if_pos h2, ← (h.shift 2).peek, if_neg hp2]
    exact ih (h.shift 1) (moved_add hd 1)
  case case4 i hi _ hstop hb h1 hp1 h2 =>
    rw [Source.dataEnd.eq_1 t, dif_pos (h.lt_size.mp hi)]
    dsimp only
    rw [← h.getElem hi, if_neg hstop, if_pos hb, ← h.hasAt_succ hi, if_pos h1, ← (h.shift 1).peek,
      if_pos hp1, ← h.hasAt_two (lt_size_of_peek_beq hp1), if_neg h2]
    exact hd
  case case5 i hi _ hstop hb h1 hp1 ih =>
    rw [Source.dataEnd.eq_1 t, dif_pos (h.lt_size.mp hi)]
    dsimp only
    rw [← h.getElem hi, if_neg hstop, if_pos hb, ← h.hasAt_succ hi, if_pos h1, ← (h.shift 1).peek,
      if_neg hp1]
    exact ih (h.shift 1) (moved_add hd 1)
  case case6 i hi _ hstop hb h1 =>
    rw [Source.dataEnd.eq_1 t, dif_pos (h.lt_size.mp hi)]
    dsimp only
    rw [← h.getElem hi, if_neg hstop, if_pos hb, ← h.hasAt_succ hi, if_neg h1]
    exact hd
  case case7 i hi _ hstop hb ih =>
    rw [Source.dataEnd.eq_1 t, dif_pos (h.lt_size.mp hi)]
    dsimp only
    rw [← h.getElem hi, if_neg hstop, if_neg hb]
    exact ih (h.shift 1) (moved_add hd 1)
  case case8 i hi =>
    rw [Source.dataEnd.eq_1 t, dif_neg (mt h.lt_size.mpr hi)]
    exact hd

theorem le_of_dataEnd {p : Nat} (h : s.dataEnd i = .ok p ∨ s.dataEnd i = .error p) : i ≤ p := by
  fun_induction s.dataEnd i <;> grind

theorem dataFrom_moved {start start' : Nat} (h : s.SameFrom start t start')
    (hd : (start' : Int) = start + d) (hi : start ≤ i) {i' : Nat} (hi' : (i' : Int) = i + d) :
    Scanned.Moved (Markup.Moved d) d (s.dataFrom start i) (t.dataFrom start' i') := by
  unfold Source.dataFrom
  have hm := dataEnd_moved (h.at_ hd hi hi') hi'
  cases hs : s.dataEnd i with
  | ok p =>
    rw [hs] at hm
    obtain ⟨p', ht, hp⟩ := hm.eq_ok
    rw [ht]
    exact .token (congrArg Markup.data (h.slice_to hd hp).symm) hp
  | error p =>
    rw [hs] at hm
    obtain ⟨p', ht, hp⟩ := hm.eq_error
    rw [ht]
    exact .invalid hp

theorem contentToken_moved (h : s.SameFrom i t j) (hd : (j : Int) = i + d) :
    Scanned.Moved (Markup.Moved d) d (s.contentToken i) (t.contentToken j) := by
  unfold Source.contentToken
  rw [← h.peek]
  split
  · exact atEnd_moved _ h
  · exact .invalid hd
  · exact .cutChar
  · next c hc =>
    have hi := lt_size_of_peek hc
    have hs1 := h.hasAt_succ hi
    -- the character decides the branch on both sides: one case for each test, in order
    by_cases hlt : c == '<'
    · rw [if_pos hlt, if_pos hlt]
      exact afterLt_moved h hd
    rw [if_neg hlt, if_neg hlt]
    by_cases hamp : c == '&'
    · rw [if_pos hamp, if_pos hamp]
      exact (reference_moved (h.shift 1) (moved_add hd 1)).map
        fun a b (hab : a = b) => (hab ▸ rfl : Markup.Moved d (.reference a) (.reference b))
    rw [if_neg hamp, if_neg hamp]
    by_cases hcr : c == '\r'
    · rw [if_pos hcr, if_pos hcr, ← hs1, ← (h.shift 1).peek]
      split
      · exact .token rfl (moved_add hd 1)
      · split
        · exact .token rfl (moved_add hd 2)
        · exact .token rfl (moved_add hd 1)
    rw [if_neg hcr, if_neg hcr]
    by_cases hlf : c == '\n'
    · rw [if_pos hlf, if_pos hlf]
      exact .token rfl (moved_add hd 1)
    rw [if_neg hlf, if_neg hlf]
    by_cases hbr : c == ']'
    · rw [if_pos hbr, if_pos hbr, ← hs1, ← (h.shift 1).peek]
      split
      · exact .token rfl (moved_add hd 1)
      · split
        · exact dataFrom_moved h hd (Nat.le_succ i) (moved_add hd 1)
        · rename_i hp
          rw [← h.hasAt_two (lt_size_of_peek (by simpa using hp)), ← (h.shift 2).peek]
          split
          · exact .token rfl (moved_add hd 2)
          · split
            · exact .invalid (moved_add hd 2)
            · exact dataFrom_moved h hd (Nat.le_succ i) (moved_add hd 1)
    rw [if_neg hbr, if_neg hbr]
    exact dataFrom_moved h hd (Nat.le_succ i) (moved_add hd 1)

theorem cdataTextEnd_moved (h : s.SameFrom i t j) (hd : (j : Int) = i + d) :
    (t.cdataTextEnd j : Int) = s.cdataTextEnd i + d := by
  fun_induction s.cdataTextEnd i generalizing j
  case case1 i hi _ hc =>
    rw [Source.cdataTextEnd.eq_1 t, dif_pos (h.lt_size.mp hi)]
    dsimp only
    rw [← h.getElem hi, if_pos hc]
    exact hd
  case case2 i hi _ hc ih =>
    rw [Source.cdataTextEnd.eq_1 t, dif_pos (h.lt_size.mp hi)]
    dsimp only
    rw [← h.getElem hi, if_neg hc]
    exact ih (h.shift 1) (moved_add hd 1)
  case case3 i hi =>
    rw [Source.cdataTextEnd.eq_1 t, dif_neg (mt h.lt_size.mpr hi)]
    exact hd

theorem le_cdataTextEnd (s : Source) (i : Nat) : i ≤ s.cdataTextEnd i := by
  fun_induction s.cdataTextEnd i <;> omega

theorem cdataToken_moved (h : s.SameFrom i t j) (hd : (j : Int) = i + d) :
    Scanned.Moved Eq d (s.cdataToken i) (t.cdataToken j) := by
  have htext : ∀ k k' : Nat, i ≤ k → (k' : Int) = k + d →
      Scanned.Moved Eq d (.token (CdataPiece.text (s.slice i (s.cdataTextEnd k))) (s.cdataTextEnd k))
        (.token (CdataPiece.text (t.slice j (t.cdataTextEnd k'))) (t.cdataTextEnd k')) := by
    intro k k' hk hk'
    have he := cdataTextEnd_moved (h.at_ hd hk hk') hk'
    rw [h.slice_to hd he]
    exact .token rfl he
  unfold Source.cdataToken
  dsimp only
  rw [← h.peek, ← (h.shift 1).peek, ← (h.shift 2).peek]
  split
  · exact .finished
  · exact .invalid hd
  · exact .cutChar
  · split
    · split
      · exact .unclosed
      · split
        · exact .unclosed
        · exact .token rfl (moved_add hd 3)
        · exact htext (i + 1) (j + 1) (Nat.le_succ i) (moved_add hd 1)
      · exact htext (i + 1) (j + 1) (Nat.le_succ i) (moved_add hd 1)
    · split
      · split
        · exact .unclosed
        · exact .token rfl (moved_add hd 2)
        · exact .token rfl (moved_add hd 1)
      · split
        · exact .token rfl (moved_add hd 1)
        · exact htext (i + 1) (j + 1) (Nat.le_succ i) (moved_add hd 1)

theorem nameToken_moved {start start' i' : Nat} (h : s.SameFrom start t start')
    (hd : (start' : Int) = start + d) (hi' : (i' : Int) = i + d) (kind : NameKind) :
    t.nameToken start' i' kind = s.nameToken start i kind := by
  cases kind <;> simp only [nameToken, h.slice_to hd hi']

theorem nameRun_moved {start start' : Nat} (h : s.SameFrom start t start')
    (hd : (start' : Int) = start + d) (hi : start ≤ i) {i' : Nat} (hi' : (i' : Int) = i + d)
    (kind : NameKind) : Scanned.Moved Eq d (s.nameRun start i kind) (t.nameRun start' i' kind) := by
  have hsi := h.at_ hd hi hi'
  fun_induction s.nameRun start i kind generalizing i'
  case case1 i kind hlt _ hn ih =>
    rw [Source.nameRun.eq_def t, dif_pos (hsi.lt_size.mp hlt)]
    dsimp only
    rw [← hsi.getElem hlt, if_pos hn]
    exact ih (by omega) (moved_add hi' 1) (hsi.shift 1)
  case case2 i kind hlt _ hn hstop =>
    rw [Source.nameRun.eq_def t, dif_pos (hsi.lt_size.mp hlt)]
    dsimp only
    rw [← hsi.getElem hlt, if_neg hn, if_pos hstop, nameToken_moved h hd hi' kind]
    exact .token rfl hi'
  case case3 i hlt _ hn hstop hc c hp hnc ih =>
    rw [Source.nameRun.eq_def t, dif_pos (hsi.lt_size.mp hlt)]
    dsimp only
    rw [← hsi.getElem hlt, if_neg hn, if_neg hstop, if_pos hc, ← (hsi.shift 1).peek, hp]
    dsimp only
    rw [if_pos hnc]
    exact ih (by omega) (moved_add hi' 2) (hsi.shift 2)
  case case4 i hlt _ hn hstop hc c hp hnc ih =>
    rw [Source.nameRun.eq_def t, dif_pos (hsi.lt_size.mp hlt)]
    dsimp only
    rw [← hsi.getElem hlt, if_neg hn, if_neg hstop, if_pos hc, ← (hsi.shift 1).peek, hp]
    dsimp only
    rw [if_neg hnc]
    exact ih (by omega) (moved_add hi' 1) (hsi.shift 1)
  case case5 i hlt _ hn hstop hc hp =>
    rw [Source.nameRun.eq_def t, dif_pos (hsi.lt_size.mp hlt)]
    dsimp only
    rw [← hsi.getElem hlt, if_neg hn, if_neg hstop, if_pos hc, ← (hsi.shift 1).peek, hp]
    exact .unclosed
  case case6 i hlt _ hn hstop hc hp =>
    rw [Source.nameRun.eq_def t, dif_pos (hsi.lt_size.mp hlt)]
    dsimp only
    rw [← hsi.getElem hlt, if_neg hn, if_neg hstop, if_pos hc, ← (hsi.shift 1).peek, hp]
    exact .cutChar
  case case7 i hlt _ hn hstop hc hp =>
    rw [Source.nameRun.eq_def t, dif_pos (hsi.lt_size.mp hlt)]
    dsimp only
    rw [← hsi.getElem hlt, if_neg hn, if_neg hstop, if_pos hc, ← (hsi.shift 1).peek, hp]
    exact .invalid (moved_add hi' 1)
  case case8 i kind hlt _ hn hstop hc hk ih =>
    rw [Source.nameRun.eq_def t, dif_pos (hsi.lt_size.mp hlt)]
    dsimp only
    rw [← hsi.getElem hlt, if_neg hn, if_neg hstop, if_pos hc]
    split
    next => exact absurd rfl hk
    next => exact ih (by omega) (moved_add hi' 1) (hsi.shift 1)
  case case9 i kind hlt _ hn hstop hc hsuf hk =>
    rw [Source.nameRun.eq_def t, dif_pos (hsi.lt_size.mp hlt)]
    dsimp only
    rw [← hsi.getElem hlt, if_neg hn, if_neg hstop, if_neg hc, if_pos hsuf, if_pos hk]
    exact .invalid hi'
  case case10 i kind hlt _ hn hstop hc hsuf hk =>
    rw [Source.nameRun.eq_def t, dif_pos (hsi.lt_size.mp hlt)]
    dsimp only
    rw [← hsi.getElem hlt, if_neg hn, if_neg hstop, if_neg hc, if_pos hsuf, if_neg hk]
    exact .token rfl (moved_add hi' 1)
  case case11 i kind hlt _ hn hstop hc hsuf =>
    rw [Source.nameRun.eq_def t, dif_pos (hsi.lt_size.mp hlt)]
    dsimp only
    rw [← hsi.getElem hlt, if_neg hn, if_neg hstop, if_neg hc, if_neg hsuf]
    exact .invalid hi'
  case case12 i kind hlt hp =>
    rw [Source.nameRun.eq_def t, dif_neg (mt hsi.lt_size.mpr hlt), ← hsi.peek, hp,
      nameToken_moved h hd hi' kind]
    exact .token rfl hi'
  case case13 i kind hlt hp =>
    rw [Source.nameRun.eq_def t, dif_neg (mt hsi.lt_size.mpr hlt), ← hsi.peek, hp]
    exact .cutChar
  case case14 i kind hlt hp1 hp2 =>
    rw [Source.nameRun.eq_def t, dif_neg (mt hsi.lt_size.mpr hlt), ← hsi.peek]
    split
    next heq => exact absurd heq hp1
    next heq => exact absurd heq hp2
    next => exact .invalid hi'

theorem literalEnd_moved (h : s.SameFrom i t j) (hd : (j : Int) = i + d) (q : Char) :
    Scanned.Moved Eq d (s.literalEnd i q) (t.literalEnd j q) := by
  fun_induction s.literalEnd i q generalizing j
  case case1 i hlt _ hdoc =>
    rw [Source.literalEnd.eq_1 t, dif_pos (h.lt_size.mp hlt)]
    dsimp only
    rw [← h.getElem hlt, if_pos hdoc]
    exact .invalid hd
  case case2 i hlt _ hdoc hq hp =>
    rw [Source.literalEnd.eq_1 t, dif_pos (h.lt_size.mp hlt)]
    dsimp only
    rw [← h.getElem hlt, if_neg hdoc, if_pos hq, ← (h.shift 1).peek, hp]
    exact .token rfl (moved_add hd 1)
  case case3 i hlt _ hdoc hq c hp hc =>
    rw [Source.literalEnd.eq_1 t, dif_pos (h.lt_size.mp hlt)]
    dsimp only
    rw [← h.getElem hlt, if_neg hdoc, if_pos hq, ← (h.shift 1).peek, hp]
    dsimp only
    rw [if_pos hc]
    exact .token rfl (moved_add hd 1)
  case case4 i hlt _ hdoc hq c hp hc =>
    rw [Source.literalEnd.eq_1 t, dif_pos (h.lt_size.mp hlt)]
    dsimp only
    rw [← h.getElem hlt, if_neg hdoc, if_pos hq, ← (h.shift 1).peek, hp]
    dsimp only
    rw [if_neg hc]
    exact .invalid (moved_add hd 1)
  case case5 i hlt _ hdoc hq hp1 hp2 =>
    rw [Source.literalEnd.eq_1 t, dif_pos (h.lt_size.mp hlt)]
    dsimp only
    rw [← h.getElem hlt, if_neg hdoc, if_pos hq, ← (h.shift 1).peek]
    split
    next heq => exact (hp1 heq).elim
    next c heq => exact (hp2 c heq).elim
    next => exact .invalid (moved_add hd 1)
  case case6 i hlt _ hdoc hq ih =>
    rw [Source.literalEnd.eq_1 t, dif_pos (h.lt_size.mp hlt)]
    dsimp only
    rw [← h.getElem hlt, if_neg hdoc, if_neg hq]
    exact ih (h.shift 1) (moved_add hd 1)
  case case7 i hlt =>
    rw [Source.literalEnd.eq_1 t, dif_neg (mt h.lt_size.mpr hlt)]
    exact stop_moved Eq h hd true

theorem declKeyword_moved {start start' : Nat} (h : s.SameFrom start t start')
    (hd : (start' : Int) = start + d) (hi : start ≤ i) {i' : Nat} (hi' : (i' : Int) = i + d) :
    Scanned.Moved Eq d (s.declKeyword start i) (t.declKeyword start' i') := by
  have hsi := h.at_ hd hi hi'
  have hname : ∀ {i i' : Nat}, (i' : Int) = i + d →
      PrologToken.declOpen (s.slice start i) = .declOpen (t.slice start' i') := fun hi' => by
    rw [h.slice_to hd hi']
  fun_induction s.declKeyword start i generalizing i'
  case case1 i hlt _ hl ih =>
    rw [Source.declKeyword.eq_1 t, dif_pos (hsi.lt_size.mp hlt)]
    dsimp only
    rw [← hsi.getElem hlt, if_pos hl]
    exact ih (by omega) (moved_add hi' 1) (hsi.shift 1)
  case case2 i hlt _ hl hp hhas c hpk hc =>
    rw [Source.declKeyword.eq_1 t, dif_pos (hsi.lt_size.mp hlt)]
    dsimp only
    rw [← hsi.getElem hlt, if_neg hl, if_pos hp, ← hsi.hasAt_succ hlt, if_pos hhas,
      ← (hsi.shift 1).peek, hpk]
    dsimp only
    rw [if_pos hc]
    exact .invalid hi'
  case case3 i hlt _ hl hp hhas c hpk hc =>
    rw [Source.declKeyword.eq_1 t, dif_pos (hsi.lt_size.mp hlt)]
    dsimp only
    rw [← hsi.getElem hlt, if_neg hl, if_pos hp, ← hsi.hasAt_succ hlt, if_pos hhas,
      ← (hsi.shift 1).peek, hpk]
    dsimp only
    rw [if_neg hc]
    exact .token (hname hi') hi'
  case case4 i hlt _ hl hp hhas hpk =>
    rw [Source.declKeyword.eq_1 t, dif_pos (hsi.lt_size.mp hlt)]
    dsimp only
    rw [← hsi.getElem hlt, if_neg hl, if_pos hp, ← hsi.hasAt_succ hlt, if_pos hhas,
      ← (hsi.shift 1).peek]
    split
    next c heq => exact (hpk c heq).elim
    next => exact .token (hname hi') hi'
  case case5 i hlt _ hl hp hhas =>
    rw [Source.declKeyword.eq_1 t, dif_pos (hsi.lt_size.mp hlt)]
    dsimp only
    rw [← hsi.getElem hlt, if_neg hl, if_pos hp, ← hsi.hasAt_succ hlt, if_neg hhas]
    exact .unclosed
  case case6 i hlt _ hl hp hsp =>
    rw [Source.declKeyword.eq_1 t, dif_pos (hsi.lt_size.mp hlt)]
    dsimp only
    rw [← hsi.getElem hlt, if_neg hl, if_neg hp, if_pos hsp]
    exact .token (hname hi') hi'
  case case7 i hlt _ hl hp hsp =>
    rw [Source.declKeyword.eq_1 t, dif_pos (hsi.lt_size.mp hlt)]
    dsimp only
    rw [← hsi.getElem hlt, if_neg hl, if_neg hp, if_neg hsp]
    exact .invalid hi'
  case case8 i hlt =>
    rw [Source.declKeyword.eq_1 t, dif_neg (mt hsi.lt_size.mpr hlt)]
    exact stop_moved Eq hsi hi' false

set_option linter.auxLemma false in
theorem declaration_eq (s : Source) (i : Nat) :
    s.declaration i = match s.peek i with
      | .char c =>
        if c = '-' then (s.comment (i + 1)).withKind .comment
        else if c = '[' then .token .condSectOpen (i + 1)
        else if isAsciiLetter c || c == '_' then s.declKeyword i (i + 1) else .invalid i
      | .bad => .invalid i
      | .cut => .invalid i
      | .done => .unclosed := by
  unfold Source.declaration
  cases s.peek i with
  | char c =>
    by_cases h1 : c = '-'
    · subst h1
      rfl
    · by_cases h2 : c = '['
      · subst h2
        rfl
      · -- the match tests the character against each pattern in turn
        unfold Source.declaration.match_1
        dsimp only
        show dite (c = '-') _ _ = _
        rw [dif_neg h1, if_neg h1]
        show dite (c = '[') _ _ = _
        rw [dif_neg h2, if_neg h2]
  | bad => rfl
  | cut => rfl
  | done => rfl

theorem declaration_moved (h : s.SameFrom i t j) (hd : (j : Int) = i + d) :
    Scanned.Moved Eq d (s.declaration i) (t.declaration j) := by
  rw [declaration_eq, declaration_eq, ← h.peek]
  cases s.peek i with
  | char c =>
    dsimp only
    split
    · exact (comment_moved (h.shift 1) (moved_add hd 1)).withKind Eq _ rfl
    · split
      · exact .token rfl (moved_add hd 1)
      · split
        · exact declKeyword_moved h hd (Nat.le_succ i) (moved_add hd 1)
        · exact .invalid hd
  | bad => exact .invalid hd
  | cut => exact .invalid hd
  | done => exact .unclosed

theorem percentToken_moved (h : s.SameFrom i t j) (hd : (j : Int) = i + d) :
    Scanned.Moved Eq d (s.percentToken i) (t.percentToken j) := by
  unfold Source.percentToken
  rw [← h.peek]
  split
  · split
    · have hn := nameEnd_moved (h.shift 1) (moved_add hd 1)
      have hsn := h.at_ hd (by have := le_nameEnd s (i + 1); omega) hn
      dsimp only
      rw [← hsn.peek]
      split
      · exact .token rfl (moved_add hn 1)
      · exact stop_moved Eq hsn hn true
    · split
      · exact .token rfl hd
      · exact .invalid hd
  · exact stop_moved Eq h hd true

theorem poundName_moved (h : s.SameFrom i t j) (hd : (j : Int) = i + d) :
    Scanned.Moved Eq d (s.poundName i) (t.poundName j) := by
  unfold Source.poundName
  rw [← h.peek]
  split
  · split
    · have hn := nameEnd_moved (h.shift 1) (moved_add hd 1)
      have hsn := h.at_ hd (by have := le_nameEnd s (i + 1); omega) hn
      have hname : PrologToken.poundName (s.slice i (s.nameEnd (i + 1))) =
          .poundName (t.slice j (t.nameEnd (j + 1))) := by
        rw [h.slice_to hd hn]
      dsimp only
      rw [← hsn.peek]
      split
      · exact .token hname hn
      · split
        · exact .token hname hn
        · exact .invalid hn
      · exact stop_moved Eq hsn hn true
    · exact .invalid hd
  · exact stop_moved Eq h hd true

theorem prologToken_moved (h : s.SameFrom i t j) (hd : (j : Int) = i + d) :
    Scanned.Moved Eq d (s.prologToken i) (t.prologToken j) := by
  unfold Source.prologToken
  rw [← h.peek]
  split
  · exact atEnd_moved Eq h
  · exact .invalid hd
  · exact .cutChar
  -- the branches on the character are the same on both sides; only positions move
  refine .ite (fun _ => literalEnd_moved (h.shift 1) (moved_add hd 1) _) fun _ => ?_
  refine .ite (fun _ => ?_) fun _ => ?_
  · -- markup: what follows the < decides
    rw [← (h.shift 1).peek]
    split
    · exact declaration_moved (h.shift 2) (moved_add hd 2)
    · exact (instruction_moved (h.shift 2) (moved_add hd 2)).map
        fun a b (hab : a = b) => congrArg PrologToken.instruction hab
    · exact .ite (fun _ => .token rfl hd) fun _ => .invalid (moved_add hd 1)
    · exact .token rfl hd
    · exact .unclosed
    · rw [← (h.shift 1).getElem?]
      split
      · exact .ite (fun _ => .token rfl hd) fun _ => .invalid (moved_add hd 1)
      · exact .invalid (moved_add hd 1)
  refine .ite (fun _ => .token rfl (spaceEnd_moved (h.shift 1) (moved_add hd 1))) fun _ => ?_
  refine .ite (fun _ => percentToken_moved (h.shift 1) (moved_add hd 1)) fun _ => ?_
  refine .ite (fun _ => .token rfl (moved_add hd 1)) fun _ => ?_
  refine .ite (fun _ => .token rfl (moved_add hd 1)) fun _ => ?_
  refine .ite (fun _ => .token rfl (moved_add hd 1)) fun _ => ?_
  refine .ite (fun _ => .token rfl (moved_add hd 1)) fun _ => ?_
  refine .ite (fun _ => ?_) fun _ => ?_
  · -- a closing bracket, which may close a conditional section
    rw [← (h.shift 1).peek]
    refine .ite (fun hb => ?_) fun _ => .token rfl (moved_add hd 1)
    rw [← h.hasAt_two (lt_size_of_peek_beq hb), ← (h.shift 2).peek]
    exact .ite (fun _ => .ite (fun _ => .token rfl (moved_add hd 3))
      fun _ => .token rfl (moved_add hd 1)) fun _ => .unclosed
  refine .ite (fun _ => ?_) fun _ => ?_
  · -- a closing parenthesis, with the occurrence sign that may follow it
    rw [← (h.shift 1).peek]
    split
    · exact .token rfl (moved_add hd 1)
    · exact .ite (fun _ => .token rfl (moved_add hd 2))
        fun _ => .ite (fun _ => .token rfl (moved_add hd 1)) fun _ => .invalid (moved_add hd 1)
    · exact .invalid (moved_add hd 1)
  refine .ite (fun _ => .token rfl (moved_add hd 1)) fun _ => ?_
  refine .ite (fun _ => poundName_moved (h.shift 1) (moved_add hd 1)) fun _ => ?_
  refine .ite (fun _ => nameRun_moved h hd (Nat.le_succ i) (moved_add hd 1) _) fun _ => ?_
  exact .ite (fun _ => nameRun_moved h hd (Nat.le_succ i) (moved_add hd 1) _) fun _ => .invalid hd

end Source
end UpnpBinding.Xml
