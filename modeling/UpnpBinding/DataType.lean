import UpnpBinding.Text.Basic
/-!
UPnP data types. Each data type of a state variable maps to a kind of value: integers of a
fixed width, doubles (the 32-bit type limited to the float range), single characters, texts
(dates, times and UUIDs are kept as text), truth values and URIs. Names are matched exactly;
`fixed.p.q` is recognised and refused, any other name is unknown.
-/
namespace UpnpBinding

/-- A UPnP data type that has a mapping. -/
inductive DataType where
  | ui1 | ui2 | ui4 | i1 | i2 | i4 | int
  | r4 | number | r8 | float | float64
  | char
  | string | date | dateTime | dateTimeTz | time | timeTz | uuid
  | boolean
  | uri
deriving DecidableEq, Repr, Inhabited

/-- The kind of value a data type maps to, named as in the generated code. -/
inductive ValueKind where
  | integer | real | text | truth | url
deriving DecidableEq, Repr

def ValueKind.typeName : ValueKind → String
  | .integer => "int"
  | .real => "float"
  | .text => "str"
  | .truth => "bool"
  | .url => "SplitResult"

namespace DataType

def all : List DataType :=
  [ui1, ui2, ui4, i1, i2, i4, int, r4, number, r8, float, float64, char, string, date,
    dateTime, dateTimeTz, time, timeTz, uuid, boolean, uri]

def name : DataType → String
  | ui1 => "ui1" | ui2 => "ui2" | ui4 => "ui4"
  | i1 => "i1" | i2 => "i2" | i4 => "i4" | int => "int"
  | r4 => "r4" | number => "number" | r8 => "r8" | float => "float" | float64 => "float64"
  | char => "char"
  | string => "string" | date => "date" | dateTime => "dateTime" | dateTimeTz => "dateTime.tz"
  | time => "time" | timeTz => "time.tz" | uuid => "uuid"
  | boolean => "boolean"
  | uri => "uri"

def integerBounds? : DataType → Option (Int × Int)
  | ui1 => some (0, Int.pow 2 8 - 1)
  | ui2 => some (0, Int.pow 2 16 - 1)
  | ui4 => some (0, Int.pow 2 32 - 1)
  | i1 => some (-(Int.pow 2 7), Int.pow 2 7 - 1)
  | i2 => some (-(Int.pow 2 15), Int.pow 2 15 - 1)
  | i4 => some (-(Int.pow 2 31), Int.pow 2 31 - 1)
  | int => some (-(Int.pow 2 63), Int.pow 2 63 - 1)
  | _ => none

def kind : DataType → ValueKind
  | ui1 | ui2 | ui4 | i1 | i2 | i4 | int => .integer
  | r4 | number | r8 | float | float64 => .real
  | char | string | date | dateTime | dateTimeTz | time | timeTz | uuid => .text
  | boolean => .truth
  | uri => .url

def description : DataType → String
  | ui1 => "8-bit unsigned integer" | ui2 => "16-bit unsigned integer"
  | ui4 => "32-bit unsigned integer"
  | i1 => "8-bit signed integer" | i2 => "16-bit signed integer" | i4 => "32-bit signed integer"
  | int => "64-bit signed integer"
  | r4 => "32-bit float"
  | number | r8 | float | float64 => "64-bit float"
  | char => "single character"
  | string | date | dateTime | dateTimeTz | time | timeTz | uuid => "text"
  | boolean => "boolean"
  | uri => "uri"

def typeName (t : DataType) : String := t.kind.typeName

/-- Whether a name is `fixed.` and two runs of decimal digits joined by a point, with an
optional line feed at the end. -/
def isFixedName (s : String) : Bool :=
  let body := match s.toList.reverse with
    | '\n' :: rest => rest.reverse
    | cs => cs.reverse
  match body with
  | 'f' :: 'i' :: 'x' :: 'e' :: 'd' :: '.' :: rest =>
    let p := rest.takeWhile Text.isDecimalDigit
    match rest.drop p.length with
    | '.' :: q => !p.isEmpty && !q.isEmpty && q.all Text.isDecimalDigit
    | _ => false
  | _ => false

end DataType

/-- Why a data type name has no mapping. -/
inductive DataTypeError where
  | unknown (name : Option String)
  | unsupported (name : String)
deriving DecidableEq

def DataTypeError.message : DataTypeError → String
  | .unknown none => "Unsupported data type: None"
  | .unknown (some n) => "Unsupported data type: " ++ n
  | .unsupported n => "Unsupported data type: " ++ n

def DataType.ofName (name : Option String) : Except DataTypeError DataType :=
  match name with
  | none => .error (.unknown none)
  | some n =>
    match DataType.all.find? (·.name == n) with
    | some t => .ok t
    | none => if DataType.isFixedName n then .error (.unsupported n) else .error (.unknown (some n))

end UpnpBinding
