import UpnpBinding.Scpd
import UpnpBinding.Xml.Reader
import UpnpBinding.Number.Reading
import UpnpBinding.Text.Basic
/-!
Reading a service description from a document. The root element must be called `scpd`. Elements
are matched by local name, in any namespace or none, and texts are taken stripped of blanks,
except the default value and the allowed values, which are kept as written.

The version numbers default to 1 and 0 when absent or empty. A state variable needs a name and a
data type; it is evented when its `sendEvents` attribute, or else its `sendEventsAttribute`
child, says `yes`. An action needs a name; each argument needs a name, a direction `in` or
`out`, and a related state variable that the description declares. Names of state variables and
of actions must be unique.
-/
namespace UpnpBinding

/-- Why a document is not a service description. -/
inductive ScpdError where
  | unreadable (e : Xml.ReadError)
  | invalidRoot (tag : String)
  | invalidSpecVersion (e : ReadError)
  | missing (field owner : String)
  | duplicateStateVariable (name : String)
  | duplicateAction (name : String)
  | unexpectedDirection (owner direction : String)
  | unresolvedStateVariable (action argument name : String)
  deriving Inhabited

def ScpdError.message : ScpdError → String
  | .unreadable e =>
    match e with
    | .entityDeclared .. => "Forbidden XML in SCPD: " ++ e.message
    | _ => e.message
  | .invalidRoot tag => "Invalid document root: " ++ tag
  | .invalidSpecVersion e => "Invalid specVersion: " ++ e.message
  | .missing field owner => "Missing " ++ field ++ " for " ++ owner
  | .duplicateStateVariable name => "Duplicate state variable: " ++ name
  | .duplicateAction name => "Duplicate action: " ++ name
  | .unexpectedDirection owner direction =>
    "Unexpected action direction for " ++ owner ++ ": " ++ direction
  | .unresolvedStateVariable action argument name =>
    "Unexpected state variable " ++ name ++ " for argument " ++ action ++ "." ++ argument

namespace Xml.Document

/-- Whether a byte is cut from the end of a document before it is read: space, tab, carriage
return, line feed or zero. -/
def isPaddingByte (b : UInt8) : Bool :=
  b == 0x20 || b == 0x09 || b == 0x0D || b == 0x0A || b == 0

def paddedEnd (b : ByteArray) : Nat → Nat
  | 0 => 0
  | n + 1 => if isPaddingByte (b.get! n) then paddedEnd b n else n + 1

def trimEnd : Document → Document
  | .text t => .text (Text.dropRightWhile Text.isDocumentPadding t)
  | .bytes b => .bytes (b.extract 0 (paddedEnd b b.size))

end Xml.Document

namespace ScpdReader

open Xml

def strippedText? (e : Element) (field : String) : Option String :=
  (e.childText? field).map Text.trimBlank

def requiredText (e : Element) (field owner : String) : Except ScpdError String :=
  match strippedText? e field with
  | some t => if t.isEmpty then .error (.missing field owner) else .ok t
  | none => .error (.missing field owner)

/-- A version number: the stripped text of `field` read as an integer, or `fallback` when the
text is absent or empty. -/
def versionNumber (e : Element) (field : String) (fallback : Int) : Except ScpdError Int :=
  match strippedText? e field with
  | some t =>
    if t.isEmpty then .ok fallback
    else
      match readInteger t with
      | .ok n => .ok n
      | .error err => .error (.invalidSpecVersion err)
  | none => .ok fallback

def specVersion (root : Element) : Except ScpdError SpecVersion :=
  match root.child? "specVersion" with
  | none => .ok ⟨1, 0⟩
  | some v => do
    let major ← versionNumber v "major" 1
    let minor ← versionNumber v "minor" 0
    return ⟨major, minor⟩

def nested (e : Element) (outer inner : String) : List Element :=
  (e.childrenNamed outer).flatMap (fun c => c.childrenNamed inner)

def stateVariable (e : Element) : Except ScpdError StateVariable := do
  let name ← requiredText e "name" "state variable"
  let dataType ← requiredText e "dataType" ("state variable " ++ name)
  let sendEvents := match e.attribute? "sendEvents" with
    | some v => v == "yes"
    | none => strippedText? e "sendEventsAttribute" == some "yes"
  let range := (e.child? "allowedValueRange").map fun r =>
    (⟨strippedText? r "minimum", strippedText? r "maximum", strippedText? r "step"⟩ : AllowedRange)
  return {
    name, dataType, sendEvents
    multicast := e.attribute? "multicast" == some "yes"
    defaultValue := e.childText? "defaultValue"
    allowedRange := range
    allowedValues := (nested e "allowedValueList" "allowedValue").filterMap (·.text) }

/-- The items that `read` makes of `es`, in document order after those in `acc` (last first).
Names must be unique: the first item whose name `nameOf` gives is already taken refuses the list
with `duplicate`. -/
def readUnique (read : Element → Except ScpdError β) (nameOf : β → String)
    (duplicate : String → ScpdError) (acc : List β) : List Element → Except ScpdError (List β)
  | [] => .ok acc.reverse
  | e :: rest => do
    let v ← read e
    if acc.any (nameOf · == nameOf v) then throw (duplicate (nameOf v))
    readUnique read nameOf duplicate (v :: acc) rest

def stateVariables (es : List Element) : Except ScpdError (List StateVariable) :=
  readUnique stateVariable (·.name) .duplicateStateVariable [] es

def argument (action : String) (e : Element) : Except ScpdError Argument := do
  let name ← requiredText e "name" ("argument of action " ++ action)
  let owner := "argument " ++ action ++ "." ++ name
  let word ← requiredText e "direction" owner
  let direction ← match Direction.ofText? word with
    | some d => pure d
    | none => throw (.unexpectedDirection owner word)
  let related ← requiredText e "relatedStateVariable" owner
  return ⟨name, direction, related⟩

def action (e : Element) : Except ScpdError Action := do
  let name ← requiredText e "name" "action"
  let arguments ← (nested e "argumentList" "argument").mapM (argument name)
  return ⟨name, arguments⟩

def actions (es : List Element) : Except ScpdError (List Action) :=
  readUnique action (·.name) .duplicateAction [] es

def unresolved (d : Scpd) : Option ScpdError :=
  d.actions.findSome? fun a =>
    (a.arguments.find? (fun arg => !d.hasStateVariable arg.relatedStateVariable)).map
      fun arg => .unresolvedStateVariable a.name arg.name arg.relatedStateVariable

end ScpdReader

def Scpd.ofElement (root : Xml.Element) : Except ScpdError Scpd := do
  if root.tag.localName != "scpd" then throw (.invalidRoot root.tag.text)
  let version ← ScpdReader.specVersion root
  let stateVars ← ScpdReader.stateVariables
    (ScpdReader.nested root "serviceStateTable" "stateVariable")
  let acts ← ScpdReader.actions (ScpdReader.nested root "actionList" "action")
  let d : Scpd := ⟨version, stateVars, acts⟩
  match ScpdReader.unresolved d with
  | some err => throw err
  | none => return d

def Scpd.read (doc : Xml.Document) : Except ScpdError Scpd :=
  match doc.trimEnd.read with
  | .ok root => Scpd.ofElement root
  | .error e => .error (.unreadable e)

end UpnpBinding
