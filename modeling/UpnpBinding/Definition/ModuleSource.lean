import UpnpBinding.Definition
import UpnpBinding.Name.SnakeCase
import UpnpBinding.Text.Alnum
import UpnpBinding.Text.Basic
/-!
The source of a client module for a service definition. The module holds the service's
constants, a table of the state variables that the definition uses (in order of first use:
the actions' fields, then the evented ones), a request and a response record class per action
(the request fields carry comments with their allowed range and values), the definition as a
table, and a service class with one call method per action and one property per evented field.

Names in the module are made usable: the class name keeps only the word characters of the service
name and is prefixed with `Service` when that leaves nothing or starts with a digit; a member
name is the snake case of an action or field name, with `_value` added when it would hide a
member that the service class already has.
-/
namespace UpnpBinding

def optionalLiteral : Option String → String
  | some s => Text.literal s
  | none => "None"

def tupleLiteral : List String → String
  | [] => "()"
  | [s] => "(" ++ Text.literal s ++ ",)"
  | ss => "(" ++ Text.joinWith ", " (ss.map Text.literal) ++ ")"

def boolLiteral (b : Bool) : String := if b then "True" else "False"

def AllowedRange.literal (r : AllowedRange) : String :=
  "AllowedValueRange(minimum=" ++ optionalLiteral r.minimum ++ ", maximum=" ++
    optionalLiteral r.maximum ++ ", step=" ++ optionalLiteral r.step ++ ")"

def StateVariable.literal (sv : StateVariable) : String :=
  "StateVariable(name=" ++ Text.literal sv.name ++ ", data_type=" ++ Text.literal sv.dataType ++
    ", send_events=" ++ boolLiteral sv.sendEvents ++ ", multicast=" ++ boolLiteral sv.multicast ++
    ", default_value=" ++ optionalLiteral sv.defaultValue ++ ", allowed_value_range=" ++
    (match sv.allowedRange with | some r => r.literal | none => "None") ++
    ", allowed_values=" ++ tupleLiteral sv.allowedValues ++ ")"

namespace ModuleSource

def indent : String := "    "

def indentBy (n : Nat) : String := String.join (List.replicate n indent)

/-- The members that a service class has besides the generated ones: those it sets on each
instance, the attributes and methods of the class itself, and `mro`, which every class has
from the type of classes. Names with two leading underscores are left out: member names never
have them. -/
def classMembers : List String :=
  ["requester", "on_event", "definition", "service_name", "service_type", "device_url",
    "control_url", "event_url", "actions", "has_action", "action", "async_call_action",
    "evented_value", "evented_values", "handle_event", "_parse_event", "mro"]

/-- A name usable as (part of) a class name: its word characters, prefixed with `Service` when
that leaves nothing or starts with a digit. -/
def className (name : String) : String :=
  let kept := name.toList.filter Text.isWordChar
  match kept with
  | [] => "Service"
  | c :: _ => if Text.isDigitLike c then "Service" ++ String.ofList kept else String.ofList kept

def memberName (name : String) (pre : String) : String :=
  let member := pre ++ Name.snakeCase name
  if classMembers.contains member then member ++ "_value" else member

def allowedComments (f : Field) : List String :=
  let sv := f.stateVariable
  let show_ := fun (o : Option String) => o.getD "None"
  let range := match sv.allowedRange with
    | some r => ["# Allowed Range: " ++ show_ r.minimum ++ " -> " ++ show_ r.maximum ++
        " step: " ++ show_ r.step]
    | none => []
  range ++ sv.allowedValues.map ("# Allowed Value: " ++ ·)

def typeHint (f : Field) : String := f.dataType.typeName

def requestClass (a : ActionDefinition) : List String :=
  ["class " ++ a.name ++ "Args(NamedTuple):", indent ++ "\"\"\"Arguments for " ++ a.name ++ ".\"\"\"",
    ""] ++
  a.inFields.flatMap (fun f =>
    (allowedComments f).map (indent ++ ·) ++ [indent ++ f.name ++ ": " ++ typeHint f]) ++
  [indent ++ "xmlns: str = SERVICE_TYPE"]

def responseClass (a : ActionDefinition) : List String :=
  ["class " ++ a.name ++ "Response(NamedTuple):",
    indent ++ "\"\"\"Response of " ++ a.name ++ ".\"\"\""] ++
  (if a.outFields.isEmpty then [] else [""]) ++
  a.outFields.map (fun f => indent ++ f.name ++ ": Optional[" ++ typeHint f ++ "] = None")

def fieldEntries (keyword : String) (fields : List Field) (ind : String) : List String :=
  if fields.isEmpty then [ind ++ keyword ++ "=(),"]
  else
    [ind ++ keyword ++ "=("] ++
    fields.map (fun f => ind ++ indent ++ "FieldDefinition(" ++ Text.literal f.name ++
      ", _STATE_VARIABLES[" ++ Text.literal f.stateVariable.name ++ "]),") ++
    [ind ++ "),"]

def definitionTable (d : ServiceDefinition) : List String :=
  let ind := indentBy 3
  ["DEFINITION = ServiceBindingDefinition(", indent ++ "service_name=SERVICE_NAME,",
    indent ++ "service_type=SERVICE_TYPE,", indent ++ "control_path=CONTROL_PATH,",
    indent ++ "event_path=EVENT_PATH,", indent ++ "actions=\x7b"] ++
  d.actions.flatMap (fun a =>
    [indentBy 2 ++ Text.literal a.name ++ ": ActionDefinition(",
      ind ++ "name=" ++ Text.literal a.name ++ ","] ++
    fieldEntries "in_fields" a.inFields ind ++ fieldEntries "out_fields" a.outFields ind ++
    [ind ++ "request_type=" ++ a.name ++ "Args,", ind ++ "response_type=" ++ a.name ++ "Response,",
      indentBy 2 ++ "),"]) ++
  [indent ++ "\x7d,"] ++ fieldEntries "evented" d.evented indent ++ [")"]

def serviceClass (d : ServiceDefinition) (name : String) : List String :=
  ["class " ++ name ++ "(UpnpServiceBinding):",
    indent ++ "\"\"\"" ++ d.serviceName ++ " service binding.\"\"\"", "",
    indent ++ "def __init__(", indentBy 2 ++ "self, requester: UpnpRequester, device_url: str",
    indent ++ ") -> None:", indentBy 2 ++ "\"\"\"Initialize.\"\"\"",
    indentBy 2 ++ "super().__init__(DEFINITION, requester, device_url)"] ++
  d.actions.flatMap (fun a =>
    ["", indent ++ "async def " ++ memberName a.name "async_" ++ "(",
      indentBy 2 ++ "self, args: " ++ a.name ++ "Args",
      indent ++ ") -> " ++ a.name ++ "Response:",
      indentBy 2 ++ "\"\"\"Call " ++ a.name ++ ".\"\"\"",
      indentBy 2 ++ "response: " ++ a.name ++ "Response = (",
      indentBy 3 ++ "await self.async_call_action(" ++ Text.literal a.name ++ ", args)",
      indentBy 2 ++ ")", indentBy 2 ++ "return response"]) ++
  d.evented.flatMap (fun f =>
    ["", indent ++ "@property",
      indent ++ "def " ++ memberName f.name "" ++ "(self) -> Optional[" ++ typeHint f ++ "]:",
      indentBy 2 ++ "\"\"\"Last observed value of " ++ f.name ++ ".\"\"\"",
      indentBy 2 ++ "return self.evented_value(" ++ Text.literal f.name ++ ")"])

def addFirstUse (acc : List StateVariable) (sv : StateVariable) : List StateVariable :=
  if acc.any (·.name == sv.name) then acc else acc ++ [sv]

def usedStateVariables (d : ServiceDefinition) : List StateVariable :=
  let fields := d.actions.flatMap (fun a => a.inFields ++ a.outFields) ++ d.evented
  (fields.map (·.stateVariable)).foldl addFirstUse []

end ModuleSource

open ModuleSource in
def ServiceDefinition.moduleSource (d : ServiceDefinition) : String :=
  let name := className d.serviceName ++ "Service"
  let usesUri := d.allFields.any (·.stateVariable.dataType == "uri")
  let lines :=
    ["# -*- coding: utf-8 -*-", "\"\"\"" ++ d.serviceName ++ " service binding.", "",
      "Generated by async_upnp_bindgen, do not edit.", "\"\"\"", "",
      "from typing import NamedTuple, Optional"] ++
    (if usesUri then ["from urllib.parse import SplitResult"] else []) ++
    ["", "from async_upnp_bindgen.binding import (", indent ++ "ActionDefinition,",
      indent ++ "FieldDefinition,", indent ++ "ServiceBindingDefinition,", ")",
      "from async_upnp_bindgen.client import UpnpRequester, UpnpServiceBinding",
      "from async_upnp_bindgen.scpd import (  # noqa: F401", indent ++ "AllowedValueRange,",
      indent ++ "StateVariable,", ")", "",
      "SERVICE_NAME = " ++ Text.literal d.serviceName,
      "SERVICE_TYPE = " ++ Text.literal d.serviceType,
      "CONTROL_PATH = " ++ Text.literal d.controlPath,
      "EVENT_PATH = " ++ Text.literal d.eventPath, "", "_STATE_VARIABLES = \x7b"] ++
    (usedStateVariables d).map (fun sv => indent ++ Text.literal sv.name ++ ": " ++ sv.literal ++ ",") ++
    ["\x7d"] ++
    d.actions.flatMap (fun a => ["", ""] ++ requestClass a ++ ["", ""] ++ responseClass a) ++
    ["", ""] ++ definitionTable d ++ ["", ""] ++ serviceClass d name
  Text.joinWith "\n" lines ++ "\n"

end UpnpBinding
