import UpnpBinding.Definition
import UpnpBinding.JsonValue
/-!
The description of a service definition, a JSON document for people to read: the service's
name, type and paths, each action with its SOAPAction and its in- and out-arguments, and the
evented fields. A field is described by its name, data type, value type and state variable,
and by the state variable's allowed values and allowed range when it has them.
-/
namespace UpnpBinding

def AllowedRange.description (r : AllowedRange) : JsonValue :=
  .obj [("minimum", .ofOption r.minimum), ("maximum", .ofOption r.maximum),
    ("step", .ofOption r.step)]

def Field.description (f : Field) : JsonValue :=
  let sv := f.stateVariable
  let allowed := if sv.allowedValues.isEmpty then []
    else [("allowed_values", .arr (sv.allowedValues.map .str))]
  let range := match sv.allowedRange with
    | some r => [("allowed_value_range", r.description)]
    | none => []
  .obj ([("name", .str f.name), ("data_type", .str sv.dataType),
    ("python_type", .str f.dataType.typeName), ("state_variable", .str sv.name)] ++ allowed ++ range)

def ServiceDefinition.description (d : ServiceDefinition) : JsonValue :=
  .obj [("service_name", .str d.serviceName), ("service_type", .str d.serviceType),
    ("control_path", .str d.controlPath), ("event_path", .str d.eventPath),
    ("actions", .obj (d.actions.map fun a =>
      (a.name, .obj [("soap_action", .str (d.soapAction a.name)),
        ("in_arguments", .arr (a.inFields.map Field.description)),
        ("out_arguments", .arr (a.outFields.map Field.description))]))),
    ("evented", .arr (d.evented.map Field.description))]

end UpnpBinding
