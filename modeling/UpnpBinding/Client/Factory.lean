import UpnpBinding.Client.Binding
import UpnpBinding.Definition.Reader
/-!
Making bindings for known services. A definition made from a description takes the endpoints and
service type of the known service of its name unless both paths are given; an empty one falls
back too. Fetching a description gets it from the device with a GET, which must answer 200.
Definitions made from fetched descriptions are kept per service and description URL, so that
one service on one device is fetched once. Making bindings for several services goes on past
a service that fails with a binding error, and stops at any other failure.
-/
namespace UpnpBinding

/-- Why a binding cannot be made. -/
inductive FactoryError where
  | unknownService (name : String)
  | schema (e : SchemaError)
  | status (code : Nat)
  | url (e : UrlError)
  | transport (e : TransportError)
  deriving Inhabited

def FactoryError.message : FactoryError → String
  | .unknownService n => "Unknown service: " ++ n
  | .schema e => e.message
  | .status code => "Did not receive HTTP 200 but " ++ toString code
  | .url e => e.message
  | .transport e => e.message

/-- Whether a factory error is a binding error, one that making bindings for several services
reports under the service's name and goes on past: an unknown service, a description that gives
no definition, a status other than 200, and a device that cannot be reached. -/
def FactoryError.isBindingError : FactoryError → Bool
  | .unknownService _ | .status _ | .transport (.unreachable _) => true
  | .schema e => e.isBindingError
  | .url _ | .transport (.unknownRequest ..) => false

/-- A maker of bindings, with the definitions it has made from fetched descriptions. -/
structure Factory where
  cache : List ((String × String) × ServiceDefinition)
  deriving Inhabited

namespace Factory

def empty : Factory := ⟨[]⟩

def resolve (name : String) : Except FactoryError KnownService :=
  match KnownService.find? name with
  | some s => .ok s
  | none => .error (.unknownService name)

def orElse (s fallback : String) : String := if s.isEmpty then fallback else s

/-- The definition of service `name` from the document of its description. Unless both paths are
given, the known service's endpoints and type fill in what is absent or empty. -/
def createDefinition (doc : Xml.Document) (name : String) (controlPath eventPath : Option String)
    (serviceType : Option String) : Except FactoryError ServiceDefinition := do
  let (cp, ep, st) ← match controlPath, eventPath with
    | some c, some e => pure (c, e, serviceType)
    | _, _ => do
      let s ← resolve name
      pure (orElse (controlPath.getD "") s.controlPath, orElse (eventPath.getD "") s.eventPath,
        some (orElse (serviceType.getD "") s.serviceType))
  match ServiceDefinition.read doc name cp ep st with
  | .ok d => return d
  | .error e => throw (.schema e)

def createBinding (doc : Xml.Document) (deviceUrl name : String) (controlPath eventPath : Option String)
    (serviceType : Option String) : Except FactoryError Binding := do
  let d ← createDefinition doc name controlPath eventPath serviceType
  match Binding.make d deviceUrl with
  | .ok b => return b
  | .error e => throw (.url e)

def fetch (send : Requester) (url : String) : List HttpRequest × Except FactoryError String :=
  let r : HttpRequest := ⟨"GET", url, [], none⟩
  match send r with
  | .error e => ([r], .error (.transport e))
  | .ok resp => ([r], if resp.status == 200 then .ok resp.body else .error (.status resp.status))

/-- A binding of the known service `name` to the device at `deviceUrl`, its description fetched
from `scpdPath` (by default the known one) unless it was fetched before. -/
def bind (f : Factory) (send : Requester) (deviceUrl name : String) (scpdPath : Option String) :
    Factory × List HttpRequest × Except FactoryError Binding :=
  match resolve name with
  | .error e => (f, [], .error e)
  | .ok s =>
    match Url.join deviceUrl (orElse (scpdPath.getD "") s.scpdPath) with
    | .error e => (f, [], .error (.url e))
    | .ok scpdUrl =>
      let key := (s.name, scpdUrl)
      let made : Factory × List HttpRequest × Except FactoryError ServiceDefinition :=
        match f.cache.find? (·.1 == key) with
        | some (_, d) => (f, [], .ok d)
        | none =>
          let (sent, body) := fetch send scpdUrl
          match body.bind fun text => createDefinition (.text text) s.name none none none with
          | .ok d => (⟨f.cache ++ [(key, d)]⟩, sent, .ok d)
          | .error e => (f, sent, .error e)
      let (f', sent, d) := made
      (f', sent, d.bind fun d =>
        match Binding.make d deviceUrl with
        | .ok b => .ok b
        | .error e => .error (.url e))

/-- Bindings of several known services, one after the other: the bindings made and the binding
errors, both by service name, or the first other error. -/
def bindAll (f : Factory) (send : Requester) (deviceUrl : String) (names : List String) :
    Factory × List HttpRequest ×
      Except FactoryError (List (String × Binding) × List (String × FactoryError)) :=
  let step := fun (acc : Factory × List HttpRequest × List (String × Except FactoryError Binding))
      (name : String) =>
    let (f, sent, results) := acc
    let (f', more, r) := f.bind send deviceUrl name none
    (f', sent ++ more, results ++ [(name, r)])
  let (f', sent, results) := names.foldl step (f, [], [])
  let collect := fun (acc : Except FactoryError (List (String × Binding) × List (String × FactoryError)))
      (entry : String × Except FactoryError Binding) => do
    let (bs, es) ← acc
    match entry.2 with
    | .ok b => return (putBinding bs entry.1 b, es)
    | .error e =>
      if e.isBindingError then return (bs, putError es entry.1 e) else throw e
  (f', sent, results.foldl collect (.ok ([], [])))
where
  putBinding (bs : List (String × Binding)) (n : String) (b : Binding) : List (String × Binding) :=
    if bs.any (·.1 == n) then bs.map (fun e => if e.1 == n then (n, b) else e) else bs ++ [(n, b)]
  putError (es : List (String × FactoryError)) (n : String) (e : FactoryError) :
      List (String × FactoryError) :=
    if es.any (·.1 == n) then es.map (fun x => if x.1 == n then (n, e) else x) else es ++ [(n, e)]

end Factory

end UpnpBinding
