import UpnpBinding.Client.Binding
import UpnpBinding.Proofs.Monadic
/-!
Calling an action agrees with preparing its request and reading its response. A call prepares
the same URL, headers and envelope as `Binding.createRequest`, sends them once as a POST, and
reads the reply as `Binding.parseResponse` does. The one difference is the service named in an
unexpected-response error: a call names it by its service type, reading names it by its
service name.
-/
namespace UpnpBinding

def CallError.withService (s : String) : CallError → CallError
  | .unexpectedResponse _ a => .unexpectedResponse s a
  | e => e

namespace ActionDefinition

theorem responseValue_error {a : ActionDefinition} {values : List (String × Option String)}
    {e : CallError} (h : a.responseValue values = .error e) :
    (∃ n t, e = .invalidResponseValue n t) ∨ ∃ t k, e = .unexpectedField t k := by
  unfold responseValue at h
  simp only [bind, Except.bind] at h
  split at h
  · rename_i hg
    cases h
    obtain ⟨f, _, hf⟩ := exists_of_filterMapM_eq_error hg
    split at hf
    · cases hf
    · split at hf
      · cases hf
      · cases hf
        exact .inl ⟨_, _, rfl⟩
  · split at h
    · cases h
    · cases h
      exact .inr ⟨_, _, rfl⟩

theorem responseValue_withService (a : ActionDefinition) (values : List (String × Option String))
    (s : String) :
    (a.responseValue values).mapError (CallError.withService s) = a.responseValue values := by
  cases h : a.responseValue values with
  | ok r => rfl
  | error e =>
    rcases responseValue_error h with ⟨n, t, rfl⟩ | ⟨t, k, rfl⟩ <;> rfl

end ActionDefinition

namespace Binding

/-- A call fails before sending anything exactly when preparing its request fails, with the
same error. Otherwise it sends the prepared request once, as a POST; a transport error comes back
as it is, and a reply is read as `parseResponse` reads it, except that an unexpected response
names the service by the short name of its type. -/
theorem call_refines_builders (b : Binding) (send : Requester) (a : ActionDefinition)
    (request : Option (List (String × Value))) (kwargs : List (String × Value)) :
    b.call send a request kwargs =
      match b.createRequest a request kwargs with
      | .error e => ([], .error e)
      | .ok (url, headers, body) =>
        let r : HttpRequest := ⟨"POST", url, headers, some body⟩
        ([r], match send r with
          | .error e => .error (.transport e)
          | .ok reply =>
            (b.parseResponse a (.text reply.body)).mapError
              (CallError.withService (serviceShortName b.serviceType))) := by
  unfold call createRequest parseResponse
  cases a.requestValue request kwargs with
  | error e => rfl
  | ok req =>
    cases ha : a.arguments req with
    | error e => simp [ha, bind, Except.bind]
    | ok args =>
      cases hn : req.namespaceOr b.serviceType with
      | error e => simp [ha, hn, bind, Except.bind]
      | ok ns =>
        simp only [ha, hn, bind, Except.bind, pure, Except.pure]
        cases send ⟨"POST", b.controlUrl, Soap.headers b.serviceType a.name,
            some (Soap.envelope a.name ns args)⟩ with
        | error e => rfl
        | ok reply =>
          dsimp only
          cases Soap.findInEnvelope (.text reply.body) a.responseElement with
          | error e => rfl
          | ok el =>
            cases el with
            | none => rfl
            | some el =>
              -- reading the values of the response element reports no unexpected response
              exact congrArg (fun r => (_, r))
                (ActionDefinition.responseValue_withService a _ _).symm

end Binding

def echoVariable : StateVariable := ⟨"V", "string", false, false, none, none, []⟩

def echoAction : ActionDefinition :=
  ⟨"Echo", [⟨"A", echoVariable, .string⟩], [],
    ⟨"EchoArgs", ["A", "xmlns"], [("xmlns", .text "urn:x:Other:1")]⟩, ⟨"EchoResponse", [], []⟩⟩

def otherBinding : Binding :=
  ⟨⟨"Echo", "urn:x:Other:1", "/Control", "/Event", [echoAction], []⟩, "http://sonos:1400/",
    "http://sonos:1400/Control", "http://sonos:1400/Event", []⟩

/-- On a reply that is no envelope, a call of `Echo` and a reading of the reply report different
messages: the call names the service `other`, after its type, and the reading names it `echo`,
after its name. -/
theorem call_names_service_by_type :
    ((otherBinding.call (fun _ => .ok ⟨200, [], "<a/>"⟩) echoAction none
        [("A", .text "v")]).2.mapError CallError.message matches
      .error "unexpected response from service calling other.Echo()") ∧
    ((otherBinding.parseResponse echoAction (.text "<a/>")).mapError CallError.message matches
      .error "unexpected response from service calling echo.Echo()") := by
  decide +kernel

end UpnpBinding
