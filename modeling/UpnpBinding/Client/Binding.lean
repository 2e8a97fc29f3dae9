import UpnpBinding.Client.Request
import UpnpBinding.Event.PropertySet
import UpnpBinding.Url
/-!
Service bindings: a service definition bound to a device. The control and event URLs are the
definition's paths resolved against the device URL. A binding prepares and reads the envelopes of
its actions, calls them through a requester, and keeps the last observed value of each evented
state variable, all nothing at first.

A call sends one POST to the control URL and reads the `<action>Response` element of the answer;
the HTTP status is not looked at. A notification updates the evented values: each property gives
the value of the first evented variable it carries; an empty value of a type other than text is
passed over; a value that cannot be read drops the whole notification, as does a body that is no
property set.
-/
namespace UpnpBinding

/-- A service definition bound to a device. -/
structure Binding where
  definition : ServiceDefinition
  deviceUrl : String
  controlUrl : String
  eventUrl : String
  evented : List (String × Value)
  deriving Inhabited

def serviceShortName (serviceType : String) : String :=
  let parts := Text.splitAt ':' serviceType
  if parts.length ≥ 2 then Text.lower (parts.getD (parts.length - 2) "") else serviceType

def namesLiteral (names : List String) : String :=
  "[" ++ Text.joinWith ", " (names.map Text.literal) ++ "]"

namespace Binding

def make (d : ServiceDefinition) (deviceUrl : String) : Except UrlError Binding := do
  let controlUrl ← Url.join deviceUrl d.controlPath
  let eventUrl ← Url.join deviceUrl d.eventPath
  return ⟨d, deviceUrl, controlUrl, eventUrl, d.evented.map fun f => (f.name, .none)⟩

def serviceName (b : Binding) : String := b.definition.serviceName

def serviceType (b : Binding) : String := b.definition.serviceType

def text (b : Binding) : String :=
  "<UpnpServiceBinding(" ++ b.serviceName ++ ", " ++ b.deviceUrl ++ ")>"

def actionNames (b : Binding) : List String := b.definition.actions.map (·.name)

def action? (b : Binding) (name : String) : Option ActionDefinition := b.definition.action? name

def eventedValue? (b : Binding) (name : String) : Option Value := Value.lookupIn b.evented name

def createRequest (b : Binding) (a : ActionDefinition) (request : Option (List (String × Value)))
    (kwargs : List (String × Value)) :
    Except CallError (String × List (String × String) × String) := do
  let req ← a.requestValue request kwargs
  let args ← a.arguments req
  let ns ← req.namespaceOr b.serviceType
  return (b.controlUrl, Soap.headers b.serviceType a.name, Soap.envelope a.name ns args)

def parseRequest (a : ActionDefinition) (body : Xml.Document) : Except CallError RequestValue := do
  match Soap.findInEnvelope body a.name with
  | .error e => throw (.unreadableEnvelope e)
  | .ok none => throw (.missingAction a.name)
  | .ok (some el) => a.requestFromValues (Soap.elementValues el) (Soap.elementNamespace el)

def parseResponse (b : Binding) (a : ActionDefinition) (body : Xml.Document) :
    Except CallError (List (String × Value)) := do
  match Soap.findInEnvelope body a.responseElement with
  | .error e => throw (.unreadableEnvelope e)
  | .ok none => throw (.unexpectedResponse (Text.lower b.serviceName) a.name)
  | .ok (some el) => a.responseValue (Soap.elementValues el)

def call (b : Binding) (send : Requester) (a : ActionDefinition)
    (request : Option (List (String × Value))) (kwargs : List (String × Value)) :
    List HttpRequest × Except CallError (List (String × Value)) :=
  let prepared : Except CallError HttpRequest := do
    let req ← a.requestValue request kwargs
    let args ← a.arguments req
    let ns ← req.namespaceOr b.serviceType
    return ⟨"POST", b.controlUrl, Soap.headers b.serviceType a.name, some (Soap.envelope a.name ns args)⟩
  match prepared with
  | .error e => ([], .error e)
  | .ok r =>
    let result : Except CallError (List (String × Value)) :=
      match send r with
      | .error e => .error (.transport e)
      | .ok response =>
        match Soap.findInEnvelope (.text response.body) a.responseElement with
        | .error e => .error (.unreadableEnvelope e)
        | .ok none => .error (.unexpectedResponse (serviceShortName b.serviceType) a.name)
        | .ok (some el) => a.responseValue (Soap.elementValues el)
    ([r], result)

/-- The value of the first evented variable a property carries, if any: none when the property
carries no tracked variable or an empty value of a type other than text. -/
def propertyChange (b : Binding) (p : Property) : Except EventError (Option (String × Value)) :=
  match b.definition.evented.find? (fun f => p.any (·.1 == f.name)) with
  | none => .ok none
  | some f =>
    let raw := ((p.find? (·.1 == f.name)).map Prod.snd).getD ""
    if raw.isEmpty && f.dataType.kind != .text then .ok none
    else
      match f.fromWire (some raw) with
      | .ok v => .ok (some (f.name, v))
      | .error _ => .error (.invalidValue f.name raw)

def changes (b : Binding) (body : Xml.Document) : List (String × Value) :=
  match PropertySet.read body with
  | .error _ => []
  | .ok props =>
    match props.filterMapM b.propertyChange with
    | .ok cs => cs
    | .error _ => []

def handleEvent (b : Binding) (body : Xml.Document) : Binding × List (String × Value) :=
  let cs := b.changes body
  ({ b with evented := cs.foldl (fun acc c => acc.map fun e => if e.1 == c.1 then c else e) b.evented },
    cs)

/-- The calls a notification makes to the event callback: one, with the changes, when there are
any. -/
def eventCalls (cs : List (String × Value)) : List (List (String × Value)) :=
  if cs.isEmpty then [] else [cs]

end Binding

def ActionDefinition.text (a : ActionDefinition) : String := "<UpnpBoundAction(" ++ a.name ++ ")>"

def ActionDefinition.literal (a : ActionDefinition) : String :=
  "<UpnpBoundAction(" ++ a.name ++ ")(" ++ namesLiteral (a.inFields.map (·.name)) ++ ") -> " ++
    namesLiteral (a.outFields.map (·.name)) ++ ">"

end UpnpBinding
