import UpnpBinding.Cli.Parse
import UpnpBinding.Cli.Files
import UpnpBinding.Client.Factory
import UpnpBinding.Definition.Description
import UpnpBinding.Definition.ModuleSource
/-!
The `upnp-bindgen` command line. It has three commands:

* `generate NAME CONTROL EVENT SCPD [--service_type TYPE]` writes the module source of the
  binding that the description file `SCPD` gives;
* `describe SCPD [--name NAME]` writes the definition of that binding as JSON, with the paths
  `/Control` and `/Event`;
* `call-action DEVICE SERVICE/ACTION [ARGUMENT=VALUE ...]` binds a known service of the device,
  calls one of its actions and writes the call and its response as JSON. Each `Argument=value`
  word is cut at its first `=`; a name given twice keeps its first place and its last value;
  every name must be an in-argument, every value readable as its argument's type (as wire text,
  so an empty value is read too), and every in-argument given.

`--pprint` indents the JSON by four spaces. A run ends with an exit code and what it wrote:
0 when it is done, 1 when the input does not fit (the reason written out), 2 for words that do
not fit the command line (its usage and the error on the error output). The failures that the
command line does not expect end the run as they are.
-/
namespace UpnpBinding

/-- The values of `Argument=value` words, by name: a name given again keeps its place and takes
the new value; a word without `=` is refused. -/
def argumentWords : List String → Except String (List (String × String))
  | [] => .ok []
  | w :: rest =>
    match Text.splitFirst? '=' w with
    | none => .error ("Invalid argument value: " ++ w ++ "\nUse: Argument=value\n")
    | some (k, v) => do
      let later ← argumentWords rest
      return putFirst k v later
where
  putFirst (k v : String) (later : List (String × String)) : List (String × String) :=
    if later.any (·.1 == k) then
      (k, ((later.find? (·.1 == k)).map Prod.snd).getD v) :: later.filter (·.1 != k)
    else (k, v) :: later

/-- The values of an action's in-arguments read from `Argument=value` words, in the order first
given, or the text to show when the words do not fit. -/
def ActionDefinition.readArguments (a : ActionDefinition) (words : List String) :
    Except String (List (String × Value)) := do
  let pairs ← argumentWords words
  let values ← pairs.mapM fun (k, v) =>
    match a.inField? k with
    | none =>
      .error ("Unknown argument: " ++ k ++ "\nAvailable arguments: " ++
        ",".intercalate (a.inFields.map (·.name)) ++ "\n")
    | some f =>
      match f.dataType.fromWire v with
      | .ok x => .ok (k, x)
      | .error _ => .error ("Invalid value for " ++ k ++ ": " ++ v ++ "\n")
  let missing := a.inFields.filter fun f => !values.any (·.1 == f.name)
  if missing.isEmpty then return values
  else throw ("Missing in-arguments\nKnown in-arguments:\n" ++
    "\n".intercalate (missing.map fun f => "  " ++ f.name) ++ "\n")

end UpnpBinding

namespace UpnpBinding

def CallError.isReported : CallError → Bool
  | .tooLargeForDouble | .namespaceNotText _ | .transport (.unknownRequest ..) => false
  | .unexpectedField .. => false
  | .unreadableEnvelope (.unreadable (.codec _)) => false
  | _ => true

def Value.toJson? : Value → Except String JsonValue
  | .none => .ok .null
  | .bool b => .ok (.bool b)
  | .int n => .ok (.int n)
  | .double x => .ok (.double x)
  | .text s => .ok (.str s)
  | .url u => .ok (.str u.render)
  | .bytes _ => .error "bytes"
  | .list items => .arr <$> toJsonItems items
  | .dict entries => .obj <$> toJsonEntries entries
where
  toJsonItems : List Value → Except String (List JsonValue)
    | [] => .ok []
    | v :: rest => do return (← Value.toJson? v) :: (← toJsonItems rest)
  toJsonEntries : List (String × Value) → Except String (List (String × JsonValue))
    | [] => .ok []
    | (k, v) :: rest => do return (k, ← Value.toJson? v) :: (← toJsonEntries rest)

end UpnpBinding

namespace UpnpBinding.Cli

/-- What a run can see: the files it reads, by path, and the requester of its HTTP requests. -/
structure Environment where
  readFile : String → Except FileError ByteArray
  send : Requester

/-- How a run ends: its exit code and what it wrote to the output and the error output. -/
structure Exit where
  code : Nat
  stdout : String
  stderr : String
  deriving Inhabited

/-- A failure that the command line does not expect, which ends the run as it is. -/
inductive Crash where
  | schema (e : SchemaError)
  | factory (e : FactoryError)
  | call (e : CallError)
  | unserializable (typeName : String)
  | noActionWord
  | nullInPath
  deriving Inhabited

def Crash.message : Crash → String
  | .schema e => e.message
  | .factory e => e.message
  | .call e => e.message
  | .unserializable t => "Object of type " ++ t ++ " is not JSON serializable"
  | .noActionWord => "list index out of range"
  | .nullInPath => "embedded null byte"

def helpOption : OptionSpec := ⟨["-h", "--help"], "help", .help, "show this help message and exit"⟩

def programName : String := "upnp-bindgen"

def positional (name help : String) : PositionalSpec := ⟨name, .one, some help, none⟩

def generateParser : ParserSpec where
  prog := programName ++ " generate"
  description := none
  options := [helpOption, ⟨["--service_type"], "service_type", .value "SERVICE_TYPE" false .none,
    "Service type, default urn:schemas-upnp-org:service:NAME:1"⟩]
  positionals := [positional "name" "Service name, e.g., RenderingControl",
    positional "control" "Control path, relative to the device URL",
    positional "event" "Event path, relative to the device URL",
    positional "scpd" "Path to SCPD XML file"]

def describeParser : ParserSpec where
  prog := programName ++ " describe"
  description := none
  options := [helpOption, ⟨["--name"], "name", .value "NAME" false (.text "Service"), "Service name"⟩]
  positionals := [positional "scpd" "Path to SCPD XML file"]

def callActionParser : ParserSpec where
  prog := programName ++ " call-action"
  description := none
  options := [helpOption]
  positionals := [positional "device" "Device URL, e.g., http://192.168.0.10:1400/",
    ⟨"call-action", .oneOrMore, some "service/action param1=val1 param2=val2", none⟩]

def commandHelp : List (String × String) :=
  [("generate", "Generate Python source for a service binding"),
    ("describe", "Describe a service binding"), ("call-action", "Call an action")]

def mainParser : ParserSpec where
  prog := programName
  description := some "upnp_bindgen"
  options := [helpOption, ⟨["--debug"], "debug", .flag, "Show debug messages"⟩,
    ⟨["--debug-traffic"], "debug_traffic", .flag, "Show network traffic"⟩,
    ⟨["--pprint"], "pprint", .flag, "Pretty-print (indent) JSON output"⟩,
    ⟨["--timeout"], "timeout", .value "TIMEOUT" true (.int 5), "Timeout for connection"⟩]
  positionals := [⟨"command", .command commandHelp, none, some "Command"⟩]

def program : Program :=
  ⟨mainParser, [("generate", generateParser), ("describe", describeParser),
    ("call-action", callActionParser)]⟩

def sortTexts (xs : List String) : List String := xs.mergeSort fun a b => !decide (b < a)

def userError (text : String) : Except Crash Exit := .ok ⟨1, text, ""⟩

/-- The definition in the description file at `path`, or the exit when the file cannot be read
or gives no definition; `what` names the command's work in the message. -/
def readDefinitionFile (env : Environment) (path : String) (what : String)
    (make : Xml.Document → Except SchemaError ServiceDefinition) :
    Except Crash (Except Exit ServiceDefinition) :=
  if path.contains '\x00' then .error .nullInPath else
  match env.readFile path with
  | .error e => .ok (.error ⟨1, "", "Unable to read " ++ path ++ ": " ++ e.message ++ "\n"⟩)
  | .ok bytes =>
    match make (.bytes bytes) with
    | .ok d => .ok (.ok d)
    | .error e =>
      if !e.isBindingError then .error (.schema e)
      else .ok (.error ⟨1, "", "Unable to " ++ what ++ ": " ++ e.message ++ "\n"⟩)

def generate (env : Environment) (ns : Namespace) : Except Crash Exit := do
  let name := (ns.text? "name").getD ""
  let made ← readDefinitionFile env ((ns.text? "scpd").getD "") ("generate " ++ name) fun doc =>
    ServiceDefinition.read doc name ((ns.text? "control").getD "") ((ns.text? "event").getD "")
      (ns.text? "service_type")
  match made with
  | .ok d => return ⟨0, d.moduleSource, ""⟩
  | .error exit => return exit

def describe (env : Environment) (ns : Namespace) (indent : Option Nat) : Except Crash Exit := do
  let path := (ns.text? "scpd").getD ""
  let made ← readDefinitionFile env path ("describe " ++ path) fun doc =>
    ServiceDefinition.read doc ((ns.text? "name").getD "") "/Control" "/Event" none
  match made with
  | .ok d => return ⟨0, JsonValue.dump d.description indent ++ "\n", ""⟩
  | .error exit => return exit

/-- The JSON report of a call: when (always at time zero), the service type, the action, and
the values sent and received. -/
def callReport (b : Binding) (action : String) (sent received : List (String × Value)) :
    Except Crash JsonValue := do
  let entries := fun (vs : List (String × Value)) =>
    vs.mapM fun (k, v) => match Value.toJson? v with
      | .ok j => .ok (k, j)
      | .error t => .error (Crash.unserializable t)
  return .obj [("timestamp", .double (Double.zero false)), ("service_type", .str b.serviceType),
    ("action", .str action), ("in_parameters", .obj (← entries sent)),
    ("out_parameters", .obj (← entries received))]

def callBound (env : Environment) (b : Binding) (a : ActionDefinition) (words : List String)
    (indent : Option Nat) : Except Crash Exit := do
  match a.readArguments words with
  | .error text => userError text
  | .ok args =>
    match (b.call env.send a none args).2 with
    | .error e =>
      if e.isReported then userError ("Error calling action: " ++ e.message ++ "\n")
      else throw (Crash.call e)
    | .ok received =>
      return ⟨0, JsonValue.dump (← callReport b a.name args received) indent ++ "\n", ""⟩

def callAction (env : Environment) (ns : Namespace) (indent : Option Nat) : Except Crash Exit :=
  match ns.texts "call-action" with
  | [] => .error .noActionWord
  | first :: words =>
    match Text.splitFirst? '/' first with
    | none => userError "Use: Service/Action Argument=value\n"
    | some (service, action) =>
      match KnownService.find? service with
      | none =>
        userError ("Unknown service: " ++ service ++ "\nAvailable services:\n" ++
          "\n".intercalate ((sortTexts (KnownService.all.map (·.name))).map ("  " ++ ·)) ++ "\n")
      | some _ =>
        match (Factory.empty.bind env.send ((ns.text? "device").getD "") service none).2.2 with
        | .error (.schema e) =>
          if !e.isBindingError then .error (.factory (.schema e))
          else userError ("Unable to create binding for " ++ service ++ ": " ++ e.message ++ "\n")
        | .error e =>
          if e.isBindingError then userError ("Error calling action: " ++ e.message ++ "\n")
          else .error (.factory e)
        | .ok b =>
          match b.action? action with
          | none =>
            userError ("Unknown action: " ++ action ++ "\nAvailable actions:\n" ++
              "\n".intercalate ((sortTexts b.actionNames).map ("  " ++ ·)) ++ "\n")
          | some a => callBound env b a words indent

def run (env : Environment) (args : List String) : Except Crash Exit :=
  match program.parse args with
  | .error (.help text) => .ok ⟨0, text, ""⟩
  | .error (.error usage prog message) => .ok ⟨2, "", usage ++ prog ++ ": error: " ++ message ++ "\n"⟩
  | .ok ns =>
    let indent := if ns.flag "pprint" then some 4 else none
    match ns.text? "command" with
    | some "generate" => generate env ns
    | some "describe" => describe env ns indent
    | some "call-action" => callAction env ns indent
    | _ => .ok ⟨0, "", ""⟩

def inputFiles (args : List String) : List String :=
  match program.parse args with
  | .ok ns =>
    match ns.text? "command" with
    | some "generate" | some "describe" => (ns.text? "scpd").toList
    | _ => []
  | .error _ => []

end UpnpBinding.Cli
