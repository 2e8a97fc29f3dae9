import UpnpBinding.Definition
import UpnpBinding.DataType.Wire
import UpnpBinding.Value
import UpnpBinding.Soap.Envelope
/-!
HTTP exchanges with a device, and the requests and responses of actions as values. A requester
sends a request (method, URL, headers, optional body) and gives a response (status, headers,
body) or fails; a response table answers each request by its method and URL and fails for any
other request.

A request value is an instance of the action's request record, made from keyword values, or any
value with attributes named after the in-arguments. Before it is sent, each in-argument's value
is checked against its field's data type and written as wire text; a missing attribute counts as
nothing, which no type takes. A response value is an instance of the response record: each
out-field given is read from its wire text (empty text is nothing, or empty text for text types),
and the others are nothing.
-/
namespace UpnpBinding

/-- A request sent to a device. -/
structure HttpRequest where
  method : String
  url : String
  headers : List (String × String)
  body : Option String
  deriving Inhabited

/-- A response of a device. -/
structure HttpResponse where
  status : Nat
  headers : List (String × String)
  body : String
  deriving Inhabited

/-- Why a request got no response. -/
inductive TransportError where
  | unknownRequest (method url : String)
  | unreachable (url : String)
  deriving Inhabited

def TransportError.message : TransportError → String
  | .unknownRequest m u =>
    Text.literal ("Request not in response map: (" ++ Text.literal m ++ ", " ++ Text.literal u ++ ")")
  | .unreachable u => "Cannot connect to " ++ u

abbrev Requester := HttpRequest → Except TransportError HttpResponse

abbrev ResponseTable := List ((String × String) × HttpResponse)

/-- The requester that answers from a response table: the last response for the request's
method and URL. -/
def ResponseTable.requester (t : ResponseTable) : Requester := fun r =>
  match t.reverse.find? (fun e => e.1 == (r.method, r.url)) with
  | some e => .ok e.2
  | none => .error (.unknownRequest r.method r.url)

end UpnpBinding

namespace UpnpBinding

/-- A request value: an instance of a request record, or any value with attributes. -/
inductive RequestValue where
  | record (values : List (String × Value))
  | object (attributes : List (String × Value))
  deriving Inhabited

def RequestValue.attribute? : RequestValue → String → Option Value
  | .record vs, n => Value.lookupIn vs n
  | .object vs, n => Value.lookupIn vs n

def RequestValue.entries : RequestValue → List (String × Value)
  | .record vs => vs
  | .object vs => vs

/-- Why preparing, sending or reading an action call fails. -/
inductive CallError where
  | mixedRequest
  | unexpectedKeyword (action typeName keyword : String)
  | unexpectedField (typeName keyword : String)
  | invalidValue (name : String) (value : Value)
  | tooLargeForDouble
  | namespaceNotText (value : Value)
  | unreadableEnvelope (e : EnvelopeError)
  | missingAction (action : String)
  | unexpectedResponse (service action : String)
  | invalidResponseValue (name : String) (value : Option String)
  | transport (e : TransportError)
  deriving Inhabited

def CallError.message : CallError → String
  | .mixedRequest => "Give either a request or keyword arguments"
  | .unexpectedKeyword a t k =>
    "Invalid arguments for " ++ a ++ ": " ++ t ++ ".__new__() got an unexpected keyword argument '" ++
      k ++ "'"
  | .unexpectedField t k => t ++ ".__new__() got an unexpected keyword argument '" ++ k ++ "'"
  | .invalidValue n v => "Invalid value for " ++ n ++ ": '" ++ v.display ++ "'"
  | .tooLargeForDouble => "int too large to convert to float"
  | .namespaceNotText v =>
    match v with
    | .bytes _ => "a bytes-like object is required, not 'str'"
    | _ => "'" ++ v.typeName ++ "' object has no attribute 'replace'"
  | .unreadableEnvelope e => e.message
  | .missingAction a => "Envelope does not carry " ++ a
  | .unexpectedResponse s a => "unexpected response from service calling " ++ s ++ "." ++ a ++ "()"
  | .invalidResponseValue n v => "Invalid value in response for " ++ n ++ ": '" ++ v.getD "None" ++ "'"
  | .transport e => e.message

def Field.fromWire (f : Field) (text : Option String) : Except WireError Value :=
  f.dataType.fromWireOptional text

/-- An instance of a record type from keyword values: each field takes the value of the keyword
that names its parameter, or its default; the error is the first keyword that names no
parameter. -/
def RecordType.instantiate (r : RecordType) (kwargs : List (String × Value)) :
    Except String (List (String × Value)) :=
  match kwargs.find? (fun kv => !r.parameters.contains kv.1) with
  | some (k, _) => .error k
  | none =>
    .ok (r.fields.map fun f =>
      (f, ((Value.lookupIn kwargs (Text.Normalization.nfkc f)).orElse fun _ =>
        Value.lookupIn r.defaults f).getD .none))

def RequestValue.namespaceOr (req : RequestValue) (serviceType : String) : Except CallError String :=
  match req.attribute? "xmlns" with
  | some v =>
    if !v.truthy then .ok serviceType
    else
      match v with
      | .text s => .ok s
      | _ => .error (.namespaceNotText v)
  | none => .ok serviceType

namespace ActionDefinition

/-- The request value from a request value or from keyword values, not both. Keyword values
must give every in-argument, and name only fields of the request record. -/
def requestValue (a : ActionDefinition) (request : Option (List (String × Value)))
    (kwargs : List (String × Value)) : Except CallError RequestValue :=
  match request with
  | some attrs => if kwargs.isEmpty then .ok (.object attrs) else .error .mixedRequest
  | none =>
    match a.inFields.find? (fun f => !kwargs.any (·.1 == f.name)) with
    | some f => .error (.invalidValue f.name .none)
    | none =>
      match a.request.instantiate kwargs with
      | .ok vs => .ok (.record vs)
      | .error k => .error (.unexpectedKeyword a.name a.request.name k)

/-- The wire texts of the in-arguments of a request value, in order, each checked against its
data type. -/
def arguments (a : ActionDefinition) (req : RequestValue) :
    Except CallError (List (String × String)) :=
  a.inFields.mapM fun f =>
    match req.attribute? f.name with
    | none => .error (.invalidValue f.name .none)
    | some v =>
      match f.dataType.validate v with
      | .ok checked => .ok (f.name, checked.wireText)
      | .error .invalid => .error (.invalidValue f.name v)
      | .error .tooLargeForDouble => .error .tooLargeForDouble

def responseValue (a : ActionDefinition) (values : List (String × Option String)) :
    Except CallError (List (String × Value)) := do
  let given ← a.outFields.filterMapM fun f =>
    match values.find? (·.1 == f.name) with
    | none => pure none
    | some (_, text) =>
      match f.fromWire text with
      | .ok v => pure (some (f.name, v))
      | .error _ => throw (.invalidResponseValue f.name text)
  match a.response.instantiate given with
  | .ok vs => return vs
  | .error k => throw (.unexpectedField a.response.name k)

/-- The request value from the texts of in-arguments received in an envelope in namespace `ns`:
each in-field is read from its text, and a namespace is kept as the `xmlns` field. -/
def requestFromValues (a : ActionDefinition) (values : List (String × Option String))
    (ns : Option String) : Except CallError RequestValue := do
  let given ← a.inFields.mapM fun f =>
    let text := (values.find? (·.1 == f.name)).bind Prod.snd
    match f.fromWire text with
    | .ok v => pure (f.name, v)
    | .error _ => throw (.invalidValue f.name (match text with | some t => .text t | none => .none))
  let withNs := match ns with
    | some n => if n.isEmpty then given else given ++ [("xmlns", .text n)]
    | none => given
  match a.request.instantiate withNs with
  | .ok vs => return .record vs
  | .error k => throw (.unexpectedField a.request.name k)

end ActionDefinition

end UpnpBinding
