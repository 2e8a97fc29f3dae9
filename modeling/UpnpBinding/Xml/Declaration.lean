import UpnpBinding.Xml.Token
import UpnpBinding.Codec.Registry
/-!
The XML declaration. It stands first in a document, `<?xml` to `?>`, and holds pseudo-attributes:
a version, then optionally an encoding, then optionally `standalone` with `yes` or `no`. Each is
a name, `=` between optional white space, and a value in quotes made of ASCII letters, digits,
`.`, `_` and `-`; white space must come before each. A declaration that breaks this is refused
at the first place that does not fit.

The encoding a declaration names decides how the bytes after it are decoded: a name the reader
knows directly, or else the code page of the codec of that name. A known name that contradicts
what the first bytes showed (one byte per character against two, or the other byte order) is
refused, and so is a code page in which markup does not keep its ASCII bytes.
-/
namespace UpnpBinding.Xml

/-- What a well-formed XML declaration says. -/
structure XmlDeclaration where
  encoding : Option (String × Nat)
  standalone : Bool
  deriving Inhabited

/-- A pseudo-attribute: where its name starts and ends, where its value starts and ends, and
the position after its closing quote. -/
structure PseudoAttribute where
  nameStart : Nat
  nameStop : Nat
  valueStart : Nat
  valueStop : Nat
  next : Nat
  deriving Inhabited

namespace Source

def asciiAt? (s : Source) (i stop : Nat) : Option Char :=
  if i < stop then
    match s.chars[i]? with
    | some c => if c.toNat < 0x80 then some c else none
    | none => none
  else none

def spaceAt (s : Source) (i stop : Nat) : Bool :=
  match s.asciiAt? i stop with
  | some c => isMarkupSpace c
  | none => false

def declSpaceEnd (s : Source) (i stop : Nat) : Nat :=
  if h : i < stop then
    if s.spaceAt i stop then s.declSpaceEnd (i + 1) stop else i
  else i
termination_by stop - i

/-- The end of a pseudo-attribute's name from `i`: at `=`, or at white space that `=` follows.
Returns the end of the name and the position of `=`. -/
def pseudoNameEnd (s : Source) (i stop : Nat) : Except Nat (Nat × Nat) :=
  if _h : i < stop then
    match s.asciiAt? i stop with
    | none => .error i
    | some c =>
      if c == '=' then .ok (i, i)
      else if isMarkupSpace c then
        let k := s.declSpaceEnd (i + 1) stop
        if s.asciiAt? k stop == some '=' then .ok (i, k) else .error k
      else s.pseudoNameEnd (i + 1) stop
  else .error i
termination_by stop - i

/-- The end of a pseudo-attribute's value from `i`, at the quote `q`: letters, digits, `.`, `_`
and `-` only. -/
def pseudoValueEnd (s : Source) (i stop : Nat) (q : Char) : Except Nat Nat :=
  if _h : i < stop then
    match s.asciiAt? i stop with
    | none => .error i
    | some c =>
      if c == q then .ok i
      else if isAsciiLetter c || c.isDigit || c == '.' || c == '-' || c == '_' then
        s.pseudoValueEnd (i + 1) stop q
      else .error i
  else .error i
termination_by stop - i

/-- The pseudo-attribute from `i`, before `stop`: none when only white space is left, else white
space, a name, `=`, and a quoted value; an error gives the first position that does not fit. -/
def pseudoAttribute (s : Source) (i stop : Nat) : Except Nat (Option PseudoAttribute) := do
  if i == stop then return none
  if !s.spaceAt i stop then throw i
  let n := s.declSpaceEnd (i + 1) stop
  if n == stop then return none
  let (nameStop, eq) ← s.pseudoNameEnd n stop
  if nameStop == n then throw nameStop
  let q := s.declSpaceEnd (eq + 1) stop
  match s.asciiAt? q stop with
  | some c =>
    if c == '"' || c == '\'' then
      let e ← s.pseudoValueEnd (q + 1) stop c
      return some ⟨n, nameStop, q + 1, e, e + 1⟩
    else throw q
  | none => throw q

def pseudoNameIs (s : Source) (a : PseudoAttribute) (word : String) : Bool :=
  s.slice a.nameStart a.nameStop == word

def pseudoValue (s : Source) (a : PseudoAttribute) : String :=
  s.slice a.valueStart a.valueStop

def standaloneFrom (s : Source) (a : PseudoAttribute) (stop : Nat) : Except Nat Bool := do
  if !s.pseudoNameIs a "standalone" then throw a.nameStart
  let v := s.pseudoValue a
  let yes ← if v == "yes" then pure true else if v == "no" then pure false else throw a.valueStart
  let e := s.declSpaceEnd a.next stop
  if e != stop then throw e
  return yes

/-- Read the XML declaration whose token spans `[start, stop)`, `<?xml` to `?>`. An error gives
the first position that does not fit. -/
def xmlDeclaration (s : Source) (start stop : Nat) : Except Nat XmlDeclaration := do
  let last := stop - 2
  let first ← match s.pseudoAttribute (start + 5) last with
    | .ok (some a) => pure a
    | .ok none => throw (start + 5)
    | .error p => throw p
  if !s.pseudoNameIs first "version" then throw first.nameStart
  match ← s.pseudoAttribute first.next last with
  | none => return ⟨none, false⟩
  | some a =>
    if s.pseudoNameIs a "encoding" then
      match s.asciiAt? a.valueStart last with
      | some c => if !isAsciiLetter c then throw a.valueStart
      | none => throw a.valueStart
      let enc := some (s.pseudoValue a, a.valueStart)
      match ← s.pseudoAttribute a.next last with
      | none => return ⟨enc, false⟩
      | some b => return ⟨enc, ← s.standaloneFrom b last⟩
    else return ⟨none, ← s.standaloneFrom a last⟩

end Source

/-- What a declared encoding means for bytes first read in `current`. -/
inductive DeclaredEncoding where
  | keep
  | switch (enc : Encoding)
  | incorrect
  | unusable
  | failed (e : Codec.CodecError)
  deriving DecidableEq, Inhabited

def Encoding.known? (name : String) : Option Encoding :=
  match name.toUpper with
  | "ISO-8859-1" => some (.singleByte .latin1)
  | "US-ASCII" => some (.singleByte .ascii)
  | "UTF-8" => some .utf8
  | "UTF-16BE" => some (.utf16 true)
  | "UTF-16LE" => some (.utf16 false)
  | _ => none

def Encoding.declared (current : Encoding) (name : String) : DeclaredEncoding :=
  if name.toUpper == "UTF-16" then
    if current.unitSize == 2 then .keep else .incorrect
  else
    match Encoding.known? name with
    | some e =>
      if e.unitSize != current.unitSize || (e.unitSize == 2 && e != current) then .incorrect
      else if e == current then .keep
      else .switch e
    | none =>
      match Codec.codePage name with
      | .ok page => if keepsMarkup page then .switch (.singleByte page) else .unusable
      | .error e => .failed e

end UpnpBinding.Xml
