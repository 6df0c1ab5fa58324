import AccessGate.Gate.Decision
import AccessGate.Identifiers

/-!
# The gate before a handler — requests in, responses out

Every request is decided on first. A request that the decision is not about, or that passes, goes on to
the handler, which is told the profiles of one that passed; any other request is answered with the
action. A session id that was issued goes back in a cookie, and the response bears a request id. When no
decision can be made the answer is a bare server error.
-/

namespace AccessGate

/-- A response. -/
structure Response where
  status : Nat
  headers : Http.Headers
  body : String
  deriving DecidableEq, Repr, Inhabited

namespace Response

/-- A response with nothing but its status. -/
def bare (status : Nat) : Response := ⟨status, [], ""⟩

/-- A response with a text. -/
def text (status : Nat) (body : String) : Response :=
  ⟨status, [("content-type", "text/plain; charset=utf-8")], body⟩

/-- Append a field. -/
def append (r : Response) (name value : String) : Response :=
  { r with headers := r.headers ++ [(name, value)] }

/-- Set a field in place of all of its name. -/
def set (r : Response) (name value : String) : Response :=
  { r with headers := (r.headers.filter fun f => f.1 != name) ++ [(name, value)] }

/-- The status of a code, or that of a server error for a number that is no code. -/
def statusOf (code : UInt16) : Nat :=
  if 100 ≤ code.toNat ∧ code.toNat ≤ 999 then code.toNat else 500

/-- The response to an action. A location must be a header value. -/
def ofAction : Action → Response
  | .ok => bare 200
  | .redirect location =>
    if Http.isHeaderValue location then (bare 302).append "location" location else bare 500
  | .render body code => text (statusOf code) body
  | .status code => bare (statusOf code)

end Response

/-- What the handler is told of a request that passed. -/
structure Admission where
  profiles : ProfileSet
  requestId : String
  deriving DecidableEq

/-- What answers requests that may go on. -/
abbrev Handler := Request → Option Admission → Response

/-- A gate in front of a handler. -/
structure Middleware where
  gate : Gate
  config : Config
  parameters : Parameters

namespace Middleware

/-- Put a gate before a handler; the configuration must pass its check. -/
def ofConfig (config : Config) : Except Error Middleware :=
  config.check.map fun _ => ⟨Gate.ofSettings config.settings, config, default⟩

/-- The cookie that takes a session id back to the caller. -/
def cookieText (name id : String) (secure : Bool) : String :=
  name ++ "=" ++ id ++ "; Path=/; HttpOnly; SameSite=Lax" ++ if secure then "; Secure" else ""

/-- Give back the session id of a context, if it was issued during the request. -/
def withCookie (settings : Settings) (c : Context) (r : Response) : Response :=
  match c.sessionIssued, c.session with
  | true, some id =>
    let cookie := cookieText settings.cookie id c.request.isSecure
    if Http.isHeaderValue cookie then r.append "set-cookie" cookie else r
  | _, _ => r

/-- The response to an outcome. -/
def respond (handler : Handler) (request : Request) (requestId : String) : Outcome → Response
  | .bypassed => handler request none
  | .granted grant => handler request (some ⟨grant.profiles, requestId⟩)
  | .action a => .ofAction a

/-- Process a request. -/
def process (m : Middleware) (now : Instant) (handler : Handler) (request : Request) :
    Plan Response := do
  let requestId := requestIdOf (← Plan.random requestIdOctets .done)
  let settings := m.config.settings
  let (result, context) ←
    m.gate.decide (some m.config) m.parameters now (Context.ofCookie request settings.cookie)
  match result with
  | .error _ => return .bare 500
  | .ok outcome =>
    let response := respond handler request requestId outcome
    return (withCookie settings context response).set "x-request-id" requestId

end Middleware

end AccessGate
