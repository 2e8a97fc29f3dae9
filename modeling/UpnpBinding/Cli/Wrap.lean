import UpnpBinding.Text.Alnum
import UpnpBinding.Text.Basic
/-!
Filling help text into lines of a given width. Runs of ASCII white space become one space and
the text is trimmed. The text is then cut into chunks: the single spaces, and the words, each
cut after a hyphen that joins two letters on either side (two letters before it, or a letter,
a hyphen and a letter; a letter, perhaps a hyphen, and a letter after it). Lines take chunks
while they fit; a space that would start or end a line is dropped, and a chunk longer than a
whole line is cut, after its last hyphen that fits when there is one.
-/
namespace UpnpBinding.Cli

/-- Whether a character counts as a letter when cutting words: a word character that is not a
decimal digit. -/
def isLetter (c : Char) : Bool := Text.isWordChar c && !Text.isDecimalDigit c

def isAsciiSpace (c : Char) : Bool :=
  c == ' ' || c == '\t' || c == '\n' || c == '\r' || c == '\x0b' || c == '\x0c'

def words (s : String) : List String :=
  ((s.toList.splitBy fun a b => isAsciiSpace a == isAsciiSpace b).filter fun run =>
    !run.all isAsciiSpace).map String.ofList

def letterAt (w : Array Char) (i : Nat) : Bool := (w[i]?.map isLetter).getD false

def cutsAfter (w : Array Char) (i : Nat) : Bool :=
  w[i]? == some '-' &&
    ((2 ≤ i && letterAt w (i - 2) && letterAt w (i - 1)) ||
      (3 ≤ i && letterAt w (i - 3) && w[i - 2]? == some '-' && letterAt w (i - 1))) &&
    letterAt w (i + 1) &&
    (letterAt w (i + 2) || (w[i + 2]? == some '-' && letterAt w (i + 3)))

def pieceEnds (w : Array Char) (start i : Nat) : (fuel : Nat) → List Nat
  | 0 => []
  | fuel + 1 =>
    if start < i && cutsAfter w i then (i + 1) :: pieceEnds w (i + 1) (i + 1) fuel
    else pieceEnds w start (i + 1) fuel

def pieces (word : String) : List String :=
  let w := word.toList.toArray
  let ends := pieceEnds w 0 0 w.size ++ [w.size]
  let starts := 0 :: ends
  (starts.zip ends).filterMap fun (a, b) =>
    if a < b then some (String.ofList (w.extract a b).toList) else none

def joinWords : List (List String) → List String
  | [] => []
  | [w] => w
  | w :: rest => w ++ [" "] ++ joinWords rest

def chunks (s : String) : List String := joinWords ((words s).map pieces)

def isSpaceChunk (c : String) : Bool := c.all isAsciiSpace

def takeFitting (room : Nat) : List String → Nat → List String → List String × List String
  | acc, _, [] => (acc, [])
  | acc, used, c :: cs =>
    if used + c.length ≤ room then takeFitting room (c :: acc) (used + c.length) cs
    else (acc, c :: cs)

/-- How much of a chunk too long for a line goes onto it when `room` is left: up to the last
hyphen that fits when it follows something other than hyphens, else as much as fits. -/
def longCut (chunk : String) (room : Nat) : Nat :=
  let cs := chunk.toList
  if cs.length ≤ room then room
  else
    let head := cs.take room
    match (List.range head.length).reverse.find? (fun k => head[k]? == some '-') with
    | some k => if 0 < k && (head.take k).any (· != '-') then k + 1 else room
    | none => room

/-- The lines of chunks filled to `width`; `started` tells whether a line was made before. A
space at the start of a line after the first is dropped, and so is one that ends a line. -/
def fillLines (width : Nat) (started : Bool) : (fuel : Nat) → List String → List String
  | 0, _ => []
  | _, [] => []
  | fuel + 1, cs =>
    let cs := match cs with
      | c :: rest => if started && isSpaceChunk c then rest else cs
      | [] => []
    let (taken, rest) := takeFitting width [] 0 cs
    let used := (taken.map String.length).foldl (· + ·) 0
    let (taken, rest) := match rest with
      | c :: more =>
        if width < c.length then
          let k := longCut c (if width < 1 then 1 else width - used)
          (String.ofList (c.toList.take k) :: taken, String.ofList (c.toList.drop k) :: more)
        else (taken, rest)
      | [] => (taken, rest)
    let taken := match taken with
      | c :: more => if isSpaceChunk c then more else taken
      | [] => []
    if taken.isEmpty then fillLines width started fuel rest
    else String.join taken.reverse :: fillLines width true fuel rest

def wrap (width : Nat) (s : String) : List String :=
  let cs := chunks s
  fillLines width false (cs.length + (cs.map String.length).foldl (· + ·) 0 + 1) cs

end UpnpBinding.Cli
