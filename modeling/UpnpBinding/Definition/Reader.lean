import UpnpBinding.Definition
import UpnpBinding.Scpd.Reader
/-!
Service definitions read from documents: the document is read as a service description, and
the definition is made from that. A failure of either step refuses the service as a whole.
-/
namespace UpnpBinding

/-- Why a document gives no service definition. -/
inductive SchemaError where
  | scpd (e : ScpdError)
  | definition (e : DefinitionError)
  deriving Inhabited

def SchemaError.message : SchemaError → String
  | .scpd e => e.message
  | .definition e => e.message

/-- Whether a description error is a binding error: every one but an encoding that the document
names without a usable code page, and a record type whose constructor cannot be made, which are
failures of the runtime underneath. -/
def SchemaError.isBindingError : SchemaError → Bool
  | .scpd (.unreadable (.codec _)) => false
  | .definition (.duplicateParameter _) => false
  | _ => true

def ServiceDefinition.read (doc : Xml.Document) (serviceName controlPath eventPath : String)
    (serviceType : Option String) : Except SchemaError ServiceDefinition :=
  match Scpd.read doc with
  | .error e => .error (.scpd e)
  | .ok scpd =>
    match ServiceDefinition.ofScpd scpd serviceName controlPath eventPath serviceType with
    | .ok d => .ok d
    | .error e => .error (.definition e)

end UpnpBinding
