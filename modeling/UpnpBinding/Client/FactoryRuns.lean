import UpnpBinding.Client.Factory
/-!
Runs of a factory. A factory serves calls one after another: making a definition or a binding
from a description the caller gives, which leaves its kept definitions alone, and making a
binding of a known service from its fetched description, which may keep one more.

Making bindings for several services at once starts one task per service. A task resolves its
service and looks for a kept definition; finding none, it sends the GET of the description and
stops until the answer comes. Resumed, it makes the definition, keeps it and binds it. The tasks
may be resumed in any order. When all have finished, their bindings and binding errors are
gathered by service name in the order of the names, and the first other error is raised.
-/
namespace UpnpBinding

namespace Factory

/-- A call on a factory. -/
inductive Step where
  | define (doc : Xml.Document) (name : String) (controlPath eventPath serviceType : Option String)
  | bindDescribed (doc : Xml.Document) (deviceUrl name : String)
      (controlPath eventPath serviceType : Option String)
  | bindKnown (deviceUrl name : String) (scpdPath : Option String)

/-- What a call makes. -/
inductive Made where
  | definition (d : ServiceDefinition)
  | binding (b : Binding)

abbrev Served := Step × List HttpRequest × Except FactoryError Made

def exec (f : Factory) (send : Requester) :
    Step → Factory × List HttpRequest × Except FactoryError Made
  | .define doc name cp ep st => (f, [], (createDefinition doc name cp ep st).map .definition)
  | .bindDescribed doc u name cp ep st => (f, [], (createBinding doc u name cp ep st).map .binding)
  | .bindKnown u name p =>
    let (f', sent, r) := f.bind send u name p
    (f', sent, r.map .binding)

def run (f : Factory) (send : Requester) (steps : List Step) : Factory × List Served :=
  steps.foldl (fun acc s =>
    let (f', sent, r) := acc.1.exec send s
    (f', acc.2 ++ [(s, sent, r)])) (f, [])

def bound (d : ServiceDefinition) (deviceUrl : String) : Except FactoryError Binding :=
  match Binding.make d deviceUrl with
  | .ok b => .ok b
  | .error e => .error (.url e)

/-- A task making the binding of one service among several made at once. -/
inductive Task where
  | start (name : String)
  | fetching (name : String) (s : KnownService) (url : String) (body : Except FactoryError String)
  | finished (name : String) (result : Except FactoryError Binding)

namespace Task

def advance (f : Factory) (send : Requester) (deviceUrl : String) :
    Task → Factory × List HttpRequest × Task
  | .start name =>
    match resolve name with
    | .error e => (f, [], .finished name (.error e))
    | .ok s =>
      match Url.join deviceUrl (orElse "" s.scpdPath) with
      | .error e => (f, [], .finished name (.error (.url e)))
      | .ok url =>
        match f.cache.find? (·.1 == (s.name, url)) with
        | some (_, d) => (f, [], .finished name (bound d deviceUrl))
        | none =>
          let (sent, body) := fetch send url
          (f, sent, .fetching name s url body)
  | .fetching name s url body =>
    match body.bind fun text => createDefinition (.text text) s.name none none none with
    | .ok d => (⟨f.cache ++ [((s.name, url), d)]⟩, [], .finished name (bound d deviceUrl))
    | .error e => (f, [], .finished name (.error e))
  | .finished name r => (f, [], .finished name r)

def result? : Task → Option (String × Except FactoryError Binding)
  | .finished name r => some (name, r)
  | _ => none

end Task

/-- The bindings and binding errors of finished tasks, by service name in the order of the names,
or the first other error. -/
def collect (results : List (String × Except FactoryError Binding)) :
    Except FactoryError (List (String × Binding) × List (String × FactoryError)) :=
  results.foldl (fun acc entry => do
    let (bs, es) ← acc
    match entry.2 with
    | .ok b => return (bindAll.putBinding bs entry.1 b, es)
    | .error e =>
      if e.isBindingError then return (bs, bindAll.putError es entry.1 e) else throw e)
    (.ok ([], []))

/-- Resumes tasks in the order `schedule` gives, an index of a finished task or past the end
doing nothing: the factory after, the requests sent, and the tasks. -/
def interleave (f : Factory) (send : Requester) (deviceUrl : String) (tasks : List Task)
    (schedule : List Nat) : Factory × List HttpRequest × List Task :=
  schedule.foldl (fun acc i =>
    match acc.2.2[i]? with
    | some t =>
      let (f', more, t') := t.advance acc.1 send deviceUrl
      (f', acc.2.1 ++ more, acc.2.2.set i t')
    | none => acc) (f, [], tasks)

/-- Bindings of the known services `names` made at once, their tasks resumed in the order
`schedule` gives: when every task has finished, the factory after, the requests sent, and the
bindings and binding errors or the first other error. -/
def gather (f : Factory) (send : Requester) (deviceUrl : String) (names : List String)
    (schedule : List Nat) :
    Option (Factory × List HttpRequest ×
      Except FactoryError (List (String × Binding) × List (String × FactoryError))) :=
  let (f', sent, tasks) := interleave f send deviceUrl (names.map .start) schedule
  (tasks.mapM Task.result?).map fun results => (f', sent, collect results)

end Factory

end UpnpBinding
