import UpnpBinding.Number.Shortest
import UpnpBinding.Text.Basic
import UpnpBinding.Text.Printable
/-!
Reading numbers from text. Before reading, a decimal digit of any script stands for its ASCII
digit, a blank character for a space, and any other character above ASCII for a character that
no number contains. Around the number, spaces are skipped. Digits may be grouped by single
underscores that stand between two digits.

An integer is an optional sign and digits. A real number is an optional sign and either
`inf`, `infinity` or `nan` in any case, or digits with an optional point and an optional
exponent, with at least one digit before or after the point.
-/
namespace UpnpBinding

/-- Why a text is not a number. -/
inductive ReadError where
  | notInteger (text : String)
  | tooManyDigits (count : Nat)
  | notReal (text : String)
deriving DecidableEq

def maxIntegerDigits : Nat := 4300

def ReadError.message : ReadError → String
  | .notInteger s =>
    "invalid literal for int() with base 10: " ++ String.ofList ((Text.literal s).toList.take 200)
  | .tooManyDigits n =>
    "Exceeds the limit (" ++ natDigits maxIntegerDigits ++
      " digits) for integer string conversion: value has " ++ natDigits n ++
      " digits; use sys.set_int_max_str_digits() to increase the limit"
  | .notReal s => "could not convert string to float: " ++ Text.literal s

namespace Reading

/-- The character a number reader sees in place of `c`: ASCII below DEL as it is, other
blanks as a space, other decimal digits as their ASCII digit, anything else as `?`. -/
def normalize (c : Char) : Char :=
  if c.toNat < 0x7F then c
  else if Text.isBlank c then ' '
  else match Text.decimalValue? c with
    | some d => Char.ofNat (48 + d)
    | none => '?'

def isSpace (c : Char) : Bool :=
  c == ' ' || c == '\t' || c == '\n' || c == '\r' || c.toNat == 11 || c.toNat == 12

def trimSpaces (cs : List Char) : List Char :=
  ((cs.dropWhile isSpace).reverse.dropWhile isSpace).reverse

def digitsValue (ds : List Char) : Nat :=
  ds.foldl (fun acc d => 10 * acc + (d.toNat - 48)) 0

/-- Whether every underscore follows a digit and is followed by one, given the character
before the rest. -/
def underscoresAfter (prev : Char) : List Char → Bool
  | [] => prev != '_'
  | c :: rest =>
    (if c == '_' then prev.isDigit else prev != '_' || c.isDigit) && underscoresAfter c rest

def underscoresOk (cs : List Char) : Bool := underscoresAfter ' ' cs

def splitSign : List Char → Bool × List Char
  | '-' :: rest => (true, rest)
  | '+' :: rest => (false, rest)
  | cs => (false, cs)

end Reading

open Reading in
/-- Reads an integer: optional spaces, an optional sign, digits grouped by single underscores,
optional spaces. -/
def readInteger (s : String) : Except ReadError Int :=
  let cs := trimSpaces (s.toList.map normalize)
  let (neg, body) := splitSign cs
  let digits := body.filter (· != '_')
  if body.isEmpty || !body.all (fun c => c.isDigit || c == '_') || !underscoresOk body then
    -- a run of well-grouped digits that is too long is refused for its length first
    let run := body.takeWhile (fun c => c.isDigit || c == '_')
    let count := (run.filter Char.isDigit).length
    if count > maxIntegerDigits && underscoresOk run then .error (.tooManyDigits count)
    else .error (.notInteger s)
  else if digits.length > maxIntegerDigits then .error (.tooManyDigits digits.length)
  else
    let n := (digitsValue digits : Int)
    .ok (if neg then -n else n)

open Reading in
def readUnsignedReal (neg : Bool) (cs : List Char) : Option Double :=
  let word := String.ofList (cs.map Char.toLower)
  if word == "inf" || word == "infinity" then some (Double.infinity neg)
  else if word == "nan" then some (Double.nan neg)
  else
    let intDigits := cs.takeWhile Char.isDigit
    let r1 := cs.dropWhile Char.isDigit
    let (fracDigits, r2) := match r1 with
      | '.' :: r => (r.takeWhile Char.isDigit, r.dropWhile Char.isDigit)
      | r => ([], r)
    if intDigits.isEmpty && fracDigits.isEmpty then none
    else
      let expo : Option Int := match r2 with
        | [] => some 0
        | e :: r =>
          if e == 'e' || e == 'E' then
            let (eneg, ed) := splitSign r
            if !ed.isEmpty && ed.all Char.isDigit then
              some (if eneg then -(digitsValue ed : Int) else digitsValue ed)
            else none
          else none
      expo.map fun x =>
        Double.ofDecimal neg (digitsValue (intDigits ++ fracDigits)) (x - fracDigits.length)

open Reading in
/-- Reads a real number: optional spaces, an optional sign, then `inf`, `infinity` or `nan` in
any case, or a decimal with optional point and exponent; the double nearest to its value. -/
def readReal (s : String) : Except ReadError Double :=
  let cs := trimSpaces (s.toList.map normalize)
  if cs.contains '_' && !underscoresOk cs then .error (.notReal s)
  else
    let (neg, body) := splitSign (cs.filter (· != '_'))
    match readUnsignedReal neg body with
    | some x => .ok x
    | none => .error (.notReal s)

end UpnpBinding
