import UpnpBinding.DataType
import UpnpBinding.Record
import UpnpBinding.Scpd
import UpnpBinding.Services
/-!
Service definitions. A definition gives a client of a service everything it needs: for each
action its typed fields (an argument with the state variable that types it), the value of its
SOAPAction header, its request record (the in-fields, then `xmlns` defaulting to the service
type) and its response record (the out-fields, each defaulting to nothing); and the evented
fields, one for each state variable that sends events.

A definition is made from a service description as a whole or not at all: the first argument
whose state variable is undeclared, the first data type without a mapping, or the first record
type that cannot be made stops it. Actions are taken in document order, each with its in-fields,
then its out-fields, its request record and its response record; the evented state variables
come last.
-/
namespace UpnpBinding

/-- A typed field: a name and the state variable that gives its type. -/
structure Field where
  name : String
  stateVariable : StateVariable
  dataType : DataType
  deriving Inhabited

/-- The definition of one action. -/
structure ActionDefinition where
  name : String
  inFields : List Field
  outFields : List Field
  request : RecordType
  response : RecordType
  deriving Inhabited

namespace ActionDefinition

def inField? (a : ActionDefinition) (name : String) : Option Field :=
  a.inFields.find? (·.name == name)

def outField? (a : ActionDefinition) (name : String) : Option Field :=
  a.outFields.find? (·.name == name)

def responseElement (a : ActionDefinition) : String := a.name ++ "Response"

end ActionDefinition

/-- The definition of a service binding. -/
structure ServiceDefinition where
  serviceName : String
  serviceType : String
  controlPath : String
  eventPath : String
  actions : List ActionDefinition
  evented : List Field
  deriving Inhabited

namespace ServiceDefinition

def action? (d : ServiceDefinition) (name : String) : Option ActionDefinition :=
  d.actions.find? (·.name == name)

def soapAction (d : ServiceDefinition) (actionName : String) : String :=
  d.serviceType ++ "#" ++ actionName

def eventedField? (d : ServiceDefinition) (name : String) : Option Field :=
  d.evented.find? (·.name == name)

def allFields (d : ServiceDefinition) : List Field :=
  d.evented ++ d.actions.flatMap (fun a => a.inFields ++ a.outFields)

end ServiceDefinition

/-- Why a definition cannot be made from a service description. -/
inductive DefinitionError where
  | unresolved (action argument name : String)
  | dataType (e : DataTypeError)
  | record (typeName : String) (e : RecordError)
  | duplicateParameter (name : String)
  deriving Inhabited

def DefinitionError.message : DefinitionError → String
  | .unresolved a arg n => "Unexpected state variable " ++ n ++ " for argument " ++ a ++ "." ++ arg
  | .dataType e => e.message
  | .record t e => "Cannot create type " ++ t ++ ": " ++ e.message
  | .duplicateParameter n => (RecordError.duplicateParameter n).message

namespace Definition

def field (name : String) (sv : StateVariable) : Except DefinitionError Field :=
  match DataType.ofName (some sv.dataType) with
  | .ok t => .ok ⟨name, sv, t⟩
  | .error e => .error (.dataType e)

def argumentField (scpd : Scpd) (action : Action) (arg : Argument) : Except DefinitionError Field :=
  match scpd.stateVariable? arg.relatedStateVariable with
  | some sv => field arg.name sv
  | none => .error (.unresolved action.name arg.name arg.relatedStateVariable)

def record (name : String) (fields : List String) (defaults : List Value) :
    Except DefinitionError RecordType :=
  match RecordType.make name fields defaults with
  | .ok r => .ok r
  | .error (.duplicateParameter n) => .error (.duplicateParameter n)
  | .error e => .error (.record name e)

def action (scpd : Scpd) (serviceType : String) (a : Action) :
    Except DefinitionError ActionDefinition := do
  let inFields ← a.inArguments.mapM (argumentField scpd a)
  let outFields ← a.outArguments.mapM (argumentField scpd a)
  let request ← record (a.name ++ "Args") (inFields.map (·.name) ++ ["xmlns"]) [.text serviceType]
  let response ← record (a.name ++ "Response") (outFields.map (·.name))
    (outFields.map fun _ => .none)
  return ⟨a.name, inFields, outFields, request, response⟩

def putAction (acc : List ActionDefinition) (a : ActionDefinition) : List ActionDefinition :=
  if acc.any (·.name == a.name) then acc.map (fun b => if b.name == a.name then a else b)
  else acc ++ [a]

end Definition

/-- The definition of a service from its description. An absent or empty service type stands
for the standard one of the service name. -/
def ServiceDefinition.ofScpd (scpd : Scpd) (serviceName controlPath eventPath : String)
    (serviceType : Option String) : Except DefinitionError ServiceDefinition := do
  let st := match serviceType with
    | some t => if t.isEmpty then serviceTypeOf serviceName else t
    | none => serviceTypeOf serviceName
  let actions ← scpd.actions.foldlM
    (fun acc a => do return Definition.putAction acc (← Definition.action scpd st a)) []
  let evented ← scpd.eventedStateVariables.mapM (fun sv => Definition.field sv.name sv)
  return ⟨serviceName, st, controlPath, eventPath, actions, evented⟩

end UpnpBinding
