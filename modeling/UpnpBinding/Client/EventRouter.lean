import UpnpBinding.Client.Binding
import UpnpBinding.CaselessDict
/-!
Routing event notifications to bindings. Bindings are registered under the path of their event
URL; a later registration for the same path takes its place. A notification is checked before it
is routed: without `NT` or `NTS` headers (in any case) it is a bad request; with values other
than `upnp:event` and `upnp:propchange` its precondition fails; with no binding for its path it
is not found; otherwise the binding takes in its body, which may be dropped, and it is accepted.
-/
namespace UpnpBinding

/-- The outcome of a notification, as an HTTP status. -/
inductive NotifyStatus where
  | ok
  | badRequest
  | notFound
  | preconditionFailed
  deriving DecidableEq, Inhabited

def NotifyStatus.code : NotifyStatus → Nat
  | .ok => 200
  | .badRequest => 400
  | .notFound => 404
  | .preconditionFailed => 412

/-- Registered bindings, by event path; a binding is known by its number. -/
structure EventRouter where
  routes : List (String × Nat)
  deriving Inhabited

namespace EventRouter

def empty : EventRouter := ⟨[]⟩

def register (r : EventRouter) (eventUrl : String) (id : Nat) : Except UrlError EventRouter := do
  let path ← Url.pathOf eventUrl
  return ⟨if r.routes.any (·.1 == path) then r.routes.map (fun e => if e.1 == path then (path, id) else e)
    else r.routes ++ [(path, id)]⟩

def unregister (r : EventRouter) (eventUrl : String) (id : Nat) : Except UrlError EventRouter := do
  let path ← Url.pathOf eventUrl
  return ⟨r.routes.filter (fun e => !(e.1 == path && e.2 == id))⟩

def bindingFor (r : EventRouter) (target : String) : Except UrlError (Option Nat) := do
  let path ← Url.pathOf target
  return (r.routes.find? (·.1 == path)).map Prod.snd

/-- A call made on the router: register or unregister the binding with the given number. -/
inductive Call where
  | register (id : Nat)
  | unregister (id : Nat)
  deriving DecidableEq

/-- Make `call`, the event URL of binding `id` being `eventUrl id`. A call whose URL does not
split raises before it changes anything. -/
def apply (eventUrl : Nat → String) (r : EventRouter) : Call → EventRouter
  | .register id =>
    match r.register (eventUrl id) id with
    | .ok r' => r'
    | .error _ => r
  | .unregister id =>
    match r.unregister (eventUrl id) id with
    | .ok r' => r'
    | .error _ => r

def run (eventUrl : Nat → String) (calls : List Call) : EventRouter :=
  calls.foldl (apply eventUrl) empty

def headerFault (headers : CaselessDict) : Option NotifyStatus :=
  if !headers.contains "NT" || !headers.contains "NTS" then some .badRequest
  else
    let is := fun (k v : String) =>
      match headers.get k with
      | .ok x => x.equal (.text v)
      | .error _ => false
    if !is "NT" "upnp:event" || !is "NTS" "upnp:propchange" then some .preconditionFailed
    else none

/-- Take in a notification for `target` with `headers` and `body`: its outcome and the
bindings, the one it is routed to updated. -/
def notify (r : EventRouter) (bindings : Array Binding) (target : String) (headers : CaselessDict)
    (body : Xml.Document) : Except UrlError (NotifyStatus × Array Binding) := do
  match headerFault headers with
  | some s => return (s, bindings)
  | none =>
    match ← r.bindingFor target with
    | none => return (.notFound, bindings)
    | some id =>
      match bindings[id]? with
      | some b => return (.ok, bindings.set! id (b.handleEvent body).1)
      | none => return (.notFound, bindings)

end EventRouter

end UpnpBinding
