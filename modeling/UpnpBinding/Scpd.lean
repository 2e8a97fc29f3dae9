/-!
Service descriptions. A service description lists the state variables of a service and its
actions. A state variable has a name, a data type name, whether it is evented and multicast, an
optional default, and optional allowed values or range, all kept as text. An action has a name
and arguments in document order; each argument goes in or out and is tied to a state variable.
-/
namespace UpnpBinding

/-- The range a state variable's values are allowed in, as text. -/
structure AllowedRange where
  minimum : Option String
  maximum : Option String
  step : Option String
  deriving DecidableEq, Inhabited

/-- A state variable of a service. -/
structure StateVariable where
  name : String
  dataType : String
  sendEvents : Bool
  multicast : Bool
  defaultValue : Option String
  allowedRange : Option AllowedRange
  allowedValues : List String
  deriving DecidableEq, Inhabited

/-- Whether an argument is passed to an action or returned by it. -/
inductive Direction where
  | input
  | output
  deriving DecidableEq, Inhabited

def Direction.text : Direction → String
  | .input => "in"
  | .output => "out"

def Direction.ofText? : String → Option Direction
  | "in" => some .input
  | "out" => some .output
  | _ => none

/-- An argument of an action. -/
structure Argument where
  name : String
  direction : Direction
  relatedStateVariable : String
  deriving DecidableEq, Inhabited

/-- An action of a service. -/
structure Action where
  name : String
  arguments : List Argument
  deriving DecidableEq, Inhabited

namespace Action

def inArguments (a : Action) : List Argument :=
  a.arguments.filter (·.direction == .input)

def outArguments (a : Action) : List Argument :=
  a.arguments.filter (·.direction == .output)

end Action

/-- The version of the device architecture a description follows. -/
structure SpecVersion where
  major : Int
  minor : Int
  deriving DecidableEq, Inhabited

/-- A service description. -/
structure Scpd where
  specVersion : SpecVersion
  stateVariables : List StateVariable
  actions : List Action
  deriving Inhabited

namespace Scpd

def stateVariable? (d : Scpd) (name : String) : Option StateVariable :=
  d.stateVariables.find? (·.name == name)

def hasStateVariable (d : Scpd) (name : String) : Bool :=
  d.stateVariables.any (·.name == name)

def action? (d : Scpd) (name : String) : Option Action :=
  d.actions.find? (·.name == name)

def eventedStateVariables (d : Scpd) : List StateVariable :=
  d.stateVariables.filter (·.sendEvents)

end Scpd

end UpnpBinding
