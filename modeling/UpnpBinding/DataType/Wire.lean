import UpnpBinding.DataType
import UpnpBinding.Value
import UpnpBinding.Number.Reading
import UpnpBinding.Text.Lower
/-!
Values on the wire. Reading a wire text trims blanks for numbers, truth values and URIs, checks
the width of integers and the float range of `r4`, and takes texts as they are. Writing a value
gives its decimal, its shortest double text, `1`/`0`, its URL or the text itself. Checking a
caller's value accepts integers (not truth values) in range for integer types, integers or
doubles for real types (`r4` also finite and within the float range), texts for text types
(one character for `char`), truth values for `boolean`, and URLs or texts to split for `uri`.
-/
namespace UpnpBinding

/-- Why a wire text is no value of a data type. -/
inductive WireError where
  | unreadable (e : ReadError)
  | outOfRange (value lo hi : Int)
  | outOfFloatRange (x : Double)
  | notOneCharacter (text : String)
  | notTruthValue (text : String)
  | badUrl (e : UrlError)

def WireError.message : WireError → String
  | .unreadable e => e.message
  | .outOfRange v lo hi => intText v ++ " out of range [" ++ intText lo ++ ", " ++ intText hi ++ "]"
  | .outOfFloatRange x => x.text ++ " out of range for r4"
  | .notOneCharacter s => "Expected a single character, got '" ++ s ++ "'"
  | .notTruthValue s => "Invalid boolean: '" ++ s ++ "'"
  | .badUrl e => e.message

/-- Why a caller's value is refused. -/
inductive Rejection where
  | invalid
  | tooLargeForDouble
deriving DecidableEq

def Rejection.message : Rejection → String
  | .invalid => "invalid value"
  | .tooLargeForDouble => "int too large to convert to float"

def float32Max : Double := ⟨0x47EFFFFFE0000000⟩

def Double.exceedsFloat32 (x : Double) : Bool :=
  !x.isNaN && x.magnitudeBits > float32Max.magnitudeBits

namespace DataType

def truthOf? (s : String) : Option Bool :=
  let v := Text.lower (Text.trimBlank s)
  if v == "1" || v == "true" || v == "yes" then some true
  else if v == "0" || v == "false" || v == "no" then some false
  else none

def fromWire (t : DataType) (s : String) : Except WireError Value :=
  match t.integerBounds? with
  | some (lo, hi) =>
    match readInteger (Text.trimBlank s) with
    | .error e => .error (.unreadable e)
    | .ok n => if lo ≤ n ∧ n ≤ hi then .ok (.int n) else .error (.outOfRange n lo hi)
  | none =>
    match t.kind with
    | .real =>
      match readReal (Text.trimBlank s) with
      | .error e => .error (.unreadable e)
      | .ok x =>
        if t == .r4 && x.exceedsFloat32 then .error (.outOfFloatRange x) else .ok (.double x)
    | .text =>
      if t == .char && s.length != 1 then .error (.notOneCharacter s) else .ok (.text s)
    | .truth =>
      match truthOf? s with
      | some b => .ok (.bool b)
      | none => .error (.notTruthValue s)
    | .url =>
      match Url.split (Text.trimBlank s) with
      | .ok u => .ok (.url u)
      | .error e => .error (.badUrl e)
    | .integer => .ok (.text s)

/-- Reads an optional wire text: a missing or empty text is the empty text for text types and
nothing for the others. -/
def fromWireOptional (t : DataType) : Option String → Except WireError Value
  | none => .ok (if t.kind == .text then .text "" else .none)
  | some s => if s.isEmpty then .ok (if t.kind == .text then .text "" else .none) else t.fromWire s

def asDouble : Value → Except Rejection Double
  | .int n => match Double.ofInt? n with
    | some x => .ok x
    | none => .error .tooLargeForDouble
  | .double x => .ok x
  | _ => .error .invalid

/-- Checks a caller's value against the data type, normalising integers to doubles for real
types and texts to URLs for `uri`. -/
def validate (t : DataType) (v : Value) : Except Rejection Value :=
  match t.integerBounds? with
  | some (lo, hi) =>
    match v with
    | .int n => if lo ≤ n ∧ n ≤ hi then .ok (.int n) else .error .invalid
    | _ => .error .invalid
  | none =>
    match t.kind with
    | .real => do
      let x ← asDouble v
      if t == .r4 && (!x.isFinite || x.exceedsFloat32) then throw .invalid
      return .double x
    | .text =>
      match v with
      | .text s => if t == .char && s.length != 1 then .error .invalid else .ok (.text s)
      | _ => .error .invalid
    | .truth =>
      match v with
      | .bool b => .ok (.bool b)
      | _ => .error .invalid
    | .url =>
      match v with
      | .url u => .ok (.url u)
      | .text s => match Url.split s with
        | .ok u => .ok (.url u)
        | .error _ => .error .invalid
      | _ => .error .invalid
    | .integer => .error .invalid

end DataType

def Value.wireText : Value → String
  | .int n => intText n
  | .double x => x.text
  | .bool b => if b then "1" else "0"
  | .url u => u.render
  | v => v.display

end UpnpBinding
