/-!
Characters and texts. A character property that holds on a few hundred runs of code points is
kept as a sorted array of closed ranges and looked up by binary search. The blank characters,
those a number reader and a trimmed text look through, are ASCII 9 to 13 and 28 to 32 and the
Unicode spaces and separators. A decimal digit is a character of general category Nd; such
digits come in runs of ten that start at a zero, so a table lists the zeros, and a wider class
of digits (superscripts, circled digits and the like) is a range table. `splitAt c` gives the
pieces of a text between the occurrences of `c` (one piece more than there are occurrences);
`splitFirst?` and `splitLast?` cut at the first or last occurrence only.
-/
namespace UpnpBinding.Text

abbrev RangeTable := Array (Nat × Nat)

namespace RangeTable

def searchBetween (t : RangeTable) (c : Nat) (lo hi : Nat) : Bool :=
  if _ : lo < hi then
    let mid := (lo + hi) / 2
    match t[mid]? with
    | some (a, b) =>
      if c < a then searchBetween t c lo mid
      else if b < c then searchBetween t c (mid + 1) hi
      else true
    | none => false
  else false
termination_by hi - lo

def contains (t : RangeTable) (c : Nat) : Bool :=
  searchBetween t c 0 t.size

def mem (t : RangeTable) (ch : Char) : Bool :=
  t.contains ch.toNat

end RangeTable

/-- Whether the character is blank: ASCII 9 to 13 and 28 to 32, NEL, no-break space, Ogham
space mark, the spaces U+2000 to U+200A, line and paragraph separators, narrow no-break space,
medium mathematical space and ideographic space. -/
def isBlank (c : Char) : Bool :=
  let n := c.toNat
  (9 ≤ n && n ≤ 13) || (28 ≤ n && n ≤ 32) || n == 0x85 || n == 0xA0 || n == 0x1680 ||
    (0x2000 ≤ n && n ≤ 0x200A) || n == 0x2028 || n == 0x2029 || n == 0x202F ||
    n == 0x205F || n == 0x3000

def dropRightWhile (p : Char → Bool) (s : String) : String :=
  String.ofList (s.toList.reverse.dropWhile p).reverse

def dropLeftWhile (p : Char → Bool) (s : String) : String :=
  String.ofList (s.toList.dropWhile p)

def trimWhile (p : Char → Bool) (s : String) : String :=
  dropRightWhile p (dropLeftWhile p s)

def trimBlank (s : String) : String := trimWhile isBlank s

/-- Whether the character is one of those cut from the end of a document before it is read:
space, tab, carriage return, line feed and NUL. -/
def isDocumentPadding (c : Char) : Bool :=
  c == ' ' || c == '\t' || c == '\r' || c == '\n' || c.toNat == 0

def decimalZeros : Array Nat := #[
  0x0660, 0x06F0, 0x07C0, 0x0966, 0x09E6, 0x0A66, 0x0AE6, 0x0B66,
  0x0BE6, 0x0C66, 0x0CE6, 0x0D66, 0x0DE6, 0x0E50, 0x0ED0, 0x0F20,
  0x1040, 0x1090, 0x17E0, 0x1810, 0x1946, 0x19D0, 0x1A80, 0x1A90,
  0x1B50, 0x1BB0, 0x1C40, 0x1C50, 0xA620, 0xA8D0, 0xA900, 0xA9D0,
  0xA9F0, 0xAA50, 0xABF0, 0xFF10, 0x104A0, 0x10D30, 0x11066, 0x110F0,
  0x11136, 0x111D0, 0x112F0, 0x11450, 0x114D0, 0x11650, 0x116C0, 0x11730,
  0x118E0, 0x11950, 0x11C50, 0x11D50, 0x11DA0, 0x16A60, 0x16AC0, 0x16B50,
  0x1D7CE, 0x1D7D8, 0x1D7E2, 0x1D7EC, 0x1D7F6, 0x1E140, 0x1E2F0, 0x1E950,
  0x1FBF0]

def decimalValue? (c : Char) : Option Nat :=
  if c.isDigit then some (c.toNat - 48)
  else if c.toNat < 0x80 then none
  else (decimalZeros.find? (fun z => z ≤ c.toNat ∧ c.toNat < z + 10)).map (c.toNat - ·)

def isDecimalDigit (c : Char) : Bool := (decimalValue? c).isSome

def digitRanges : RangeTable := #[
  (0x00B2, 0x00B3), (0x00B9, 0x00B9), (0x0660, 0x0669), (0x06F0, 0x06F9),
  (0x07C0, 0x07C9), (0x0966, 0x096F), (0x09E6, 0x09EF), (0x0A66, 0x0A6F),
  (0x0AE6, 0x0AEF), (0x0B66, 0x0B6F), (0x0BE6, 0x0BEF), (0x0C66, 0x0C6F),
  (0x0CE6, 0x0CEF), (0x0D66, 0x0D6F), (0x0DE6, 0x0DEF), (0x0E50, 0x0E59),
  (0x0ED0, 0x0ED9), (0x0F20, 0x0F29), (0x1040, 0x1049), (0x1090, 0x1099),
  (0x1369, 0x1371), (0x17E0, 0x17E9), (0x1810, 0x1819), (0x1946, 0x194F),
  (0x19D0, 0x19DA), (0x1A80, 0x1A89), (0x1A90, 0x1A99), (0x1B50, 0x1B59),
  (0x1BB0, 0x1BB9), (0x1C40, 0x1C49), (0x1C50, 0x1C59), (0x2070, 0x2070),
  (0x2074, 0x2079), (0x2080, 0x2089), (0x2460, 0x2468), (0x2474, 0x247C),
  (0x2488, 0x2490), (0x24EA, 0x24EA), (0x24F5, 0x24FD), (0x24FF, 0x24FF),
  (0x2776, 0x277E), (0x2780, 0x2788), (0x278A, 0x2792), (0xA620, 0xA629),
  (0xA8D0, 0xA8D9), (0xA900, 0xA909), (0xA9D0, 0xA9D9), (0xA9F0, 0xA9F9),
  (0xAA50, 0xAA59), (0xABF0, 0xABF9), (0xFF10, 0xFF19), (0x104A0, 0x104A9),
  (0x10A40, 0x10A43), (0x10D30, 0x10D39), (0x10E60, 0x10E68), (0x11052, 0x1105A),
  (0x11066, 0x1106F), (0x110F0, 0x110F9), (0x11136, 0x1113F), (0x111D0, 0x111D9),
  (0x112F0, 0x112F9), (0x11450, 0x11459), (0x114D0, 0x114D9), (0x11650, 0x11659),
  (0x116C0, 0x116C9), (0x11730, 0x11739), (0x118E0, 0x118E9), (0x11950, 0x11959),
  (0x11C50, 0x11C59), (0x11D50, 0x11D59), (0x11DA0, 0x11DA9), (0x16A60, 0x16A69),
  (0x16AC0, 0x16AC9), (0x16B50, 0x16B59), (0x1D7CE, 0x1D7FF), (0x1E140, 0x1E149),
  (0x1E2F0, 0x1E2F9), (0x1E950, 0x1E959), (0x1F100, 0x1F10A), (0x1FBF0, 0x1FBF9)]

/-- Whether the character has a digit value (ASCII digits, decimal digits of every script,
superscripts, subscripts, circled digits and the like). -/
def isDigitLike (c : Char) : Bool :=
  c.isDigit || (c.toNat ≥ 0x80 && digitRanges.mem c)

def splitChars (c : Char) : List Char → List (List Char)
  | [] => [[]]
  | x :: rest =>
    if x == c then [] :: splitChars c rest
    else match splitChars c rest with
      | [] => [[x]]
      | p :: ps => (x :: p) :: ps

def splitAt (c : Char) (s : String) : List String :=
  (splitChars c s.toList).map String.ofList

def splitCharsFirst? (c : Char) : List Char → Option (List Char × List Char)
  | [] => none
  | x :: rest =>
    if x == c then some ([], rest)
    else (splitCharsFirst? c rest).map fun (a, b) => (x :: a, b)

def splitFirst? (c : Char) (s : String) : Option (String × String) :=
  (splitCharsFirst? c s.toList).map fun (a, b) => (String.ofList a, String.ofList b)

def splitLast? (c : Char) (s : String) : Option (String × String) :=
  (splitCharsFirst? c s.toList.reverse).map fun (b, a) =>
    (String.ofList a.reverse, String.ofList b.reverse)

def afterLast (c : Char) (s : String) : String :=
  match splitLast? c s with
  | some (_, b) => b
  | none => s

def joinWith (sep : String) : List String → String
  | [] => ""
  | [x] => x
  | x :: rest => x ++ sep ++ joinWith sep rest

end UpnpBinding.Text
