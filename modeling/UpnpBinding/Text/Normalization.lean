import UpnpBinding.Text.Normalization.Tables
/-!
Compatibility normalization (NFKC) of identifiers. Each character is replaced by its full
compatibility decomposition; each run of combining characters is put in the order of their
canonical combining classes, keeping the order of those of one class; then each character that
the last starter before it composes with is composed into it, unless a character between them
has a class as high as its own. Hangul syllables stay whole and compose with a trailing jamo by
rule. A text of ASCII characters is its own normal form.
-/
namespace UpnpBinding.Text.Normalization

def findBy? {α : Type} (t : Array α) (key : α → Nat) (k : Nat) (lo hi : Nat) : Option α :=
  if _ : lo < hi then
    let mid := (lo + hi) / 2
    match t[mid]? with
    | some e =>
      if k < key e then findBy? t key k lo mid
      else if key e < k then findBy? t key k (mid + 1) hi
      else some e
    | none => none
  else none
termination_by hi - lo

def runOf? (t : Array (Nat × Nat × Nat)) (c : Nat) (lo hi : Nat) : Option (Nat × Nat × Nat) :=
  if _ : lo < hi then
    let mid := (lo + hi) / 2
    match t[mid]? with
    | some run =>
      if c < run.1 then runOf? t c lo mid
      else if run.2.1 < c then runOf? t c (mid + 1) hi
      else some run
    | none => none
  else none
termination_by hi - lo

def combiningClass (c : Nat) : Nat :=
  ((runOf? combiningClasses c 0 combiningClasses.size).map (·.2.2)).getD 0

def decomposeOne (c : Nat) : List Nat :=
  ((findBy? decompositions Prod.fst c 0 decompositions.size).map Prod.snd).getD [c]

def pairKey (a b : Nat) : Nat := a * 0x110000 + b

def hangulBase : Nat := 0xAC00

def hangulTrailCount : Nat := 28

def composePair? (a b : Nat) : Option Nat :=
  if 0x1100 ≤ a && a ≤ 0x1112 && 0x1161 ≤ b && b ≤ 0x1175 then
    some (hangulBase + ((a - 0x1100) * 21 + (b - 0x1161)) * hangulTrailCount)
  else if hangulBase ≤ a && a ≤ 0xD7A3 && (a - hangulBase) % hangulTrailCount == 0 &&
      0x11A8 ≤ b && b ≤ 0x11C2 then
    some (a + (b - 0x11A7))
  else
    (findBy? compositions (fun e => pairKey e.1.1 e.1.2) (pairKey a b) 0 compositions.size).map
      Prod.snd

/-- Put code point `c` of class `k` at the end of the reversed text `acc`, before the combining
characters of a higher class that end it. -/
def insertByClass (c k : Nat) : List Nat → List Nat
  | [] => [c]
  | d :: rest => if k < combiningClass d then d :: insertByClass c k rest else c :: d :: rest

def reorder (cs : List Nat) : List Nat :=
  (cs.foldl (fun acc c =>
    let k := combiningClass c
    if k == 0 then c :: acc else insertByClass c k acc) []).reverse

/-- The state of canonical composition: the text so far, where its last starter stands, and the
class of its last character. -/
structure Composing where
  out : Array Nat
  starter : Option Nat
  lastClass : Nat

def composeStep (st : Composing) (c : Nat) : Composing :=
  let k := combiningClass c
  let composed :=
    match st.starter with
    | some i =>
      if st.lastClass < k || st.lastClass == 0 then
        match st.out[i]? with
        | some s => (composePair? s c).map fun r => { st with out := st.out.set! i r }
        | none => none
      else none
    | none => none
  match composed with
  | some st' => st'
  | none =>
    { out := st.out.push c
      starter := if k == 0 then some st.out.size else st.starter
      lastClass := k }

def compose (cs : List Nat) : List Nat :=
  (cs.foldl composeStep ⟨#[], none, 0⟩).out.toList

def nfkc (s : String) : String :=
  if s.toList.all (fun ch => ch.toNat < 0x80) then s
  else
    let cs := s.toList.flatMap fun ch => decomposeOne ch.toNat
    String.ofList ((compose (reorder cs)).map Char.ofNat)

end UpnpBinding.Text.Normalization
