import AccessGate.Config.Basic
import AccessGate.Session.Scopes

/-!
# Decisions — may this request pass?

A decision goes through fixed stages. The matchers say whether it is about the request at all. The
clients that take part are resolved. Who the visitor is comes from an earlier decision of the same
request, else from the direct clients, else from the session; when nobody is known, the first indirect
client says what to do. The authorizers judge the profiles, and profiles that pass are remembered.

Fresh profiles never go under a session id that the caller presented: the session is moved to a new id
first.
-/

namespace AccessGate

/-- What one use of the gate asks for. A missing or blank list means all clients, no authorizer and no
    matcher. -/
structure Parameters where
  clients : Option String
  authorizers : Option String
  matchers : Option String
  /-- Overrides the setting. -/
  multiProfile : Option Bool
  /-- Handed on to whoever is told of a grant. -/
  extra : Dict Json
  deriving DecidableEq, Inhabited

/-- What whoever is told of a grant receives. -/
structure Grant where
  /-- The context as it stood when the request passed. -/
  context : Context
  profiles : ProfileSet
  extra : Dict Json
  loadedFromSession : Bool
  deriving DecidableEq

/-- The outcome of a decision. -/
inductive Outcome where
  | granted (grant : Grant)
  | action (action : Action)
  /-- The decision is not about this request. -/
  | bypassed
  deriving DecidableEq

/-- The collaborators of a decision. Each of them may be taken away, and then no decision can be
    made. -/
structure Gate where
  /-- The request parameter that the resolution of clients reads. -/
  clientParameter : Option String
  checksAuthorizers : Bool
  checksMatchers : Bool
  deriving DecidableEq, Repr

namespace Gate

/-- The gate of settings. -/
def ofSettings (s : Settings) : Gate := ⟨some s.clientParameter, true, true⟩

/-- How a gate is shown. -/
def describe (g : Gate) : String :=
  "SecurityLogic \x7b client_finder: " ++ toString g.clientParameter.isSome
    ++ ", authorization_checker: " ++ toString g.checksAuthorizers
    ++ ", matching_checker: " ++ toString g.checksMatchers ++ " \x7d"

/-- How the direct clients went. -/
inductive DirectResult where
  | profiles (profiles : ProfileSet)
  | action (action : Action)
  deriving DecidableEq

/-- Ask the direct clients in order. The first profile is enough unless several are wanted; an action
    ends the round and discards what was found before. -/
def askDirect (now : Instant) (multi : Bool) : List Client → ProfileSet → Turn DirectResult
  | [], found => pure (.profiles found)
  | client :: rest, found =>
    if client.isIndirect then askDirect now multi rest found
    else do
      match ← client.authenticate now with
      | .produced profile =>
        let found := found.insert client.name profile
        if multi then askDirect now multi rest found else pure (.profiles found)
      | .absent => askDirect now multi rest found
      | .action a => pure (.action a)

/-- What the first indirect client wants done. Scripts are not redirected unless they may be, and where
    the visitor wanted to go is remembered for a request that can be repeated. -/
def askIndirect (settings : Settings) (client : Client) : Turn (Attempt ProfileSet) := do
  Turn.note (.redirect client.name)
  let action ← Turn.ofExcept (client.redirect (← Turn.context))
  if action.location?.isNone then return .action action
  let request := (← Turn.context).request
  if request.isScripted && !settings.redirectScripts then return .action .unauthorized
  if settings.saveRequestedUrl && (request.method == "GET" || request.method == "HEAD") then
    Scopes.saveRequestedUrl request.url
  return .action action

/-- The profiles of the session, else what the first indirect client wants done. -/
def askSession (now : Instant) (settings : Settings) (indirect : Option Client) :
    Turn (Attempt ProfileSet) := do
  Scopes.setLoaded true
  let profiles ← Scopes.loadSession now
  if !profiles.isEmpty then return .produced profiles
  match indirect with
  | none => return .absent
  | some client => askIndirect settings client

/-- Who the visitor is. -/
def authenticate (now : Instant) (settings : Settings) (multi : Bool) (clients : List Client) :
    Turn (Attempt ProfileSet) := do
  if clients.isEmpty then
    Scopes.setLoaded true
    return .absent
  let earlier ← Scopes.loadRequest now
  if !earlier.isEmpty then
    Scopes.setLoaded ((← Turn.context).loaded?.getD false)
    return .produced earlier
  match ← askDirect now multi clients .empty with
  | .action a =>
    Scopes.setLoaded false
    return .action a
  | .profiles found =>
    if !found.isEmpty then
      Scopes.setLoaded false
      return .produced found
    let indirect := clients.find? Client.isIndirect
    if indirect.isNone && !settings.saveDirect then
      Scopes.setLoaded false
      return .absent
    askSession now settings indirect

/-- Remember profiles that passed. -/
def remember (settings : Settings) (profiles : ProfileSet) : Turn Bool := do
  let loaded := (← Turn.context).loaded?.getD false
  let toSession := loaded || settings.saveDirect
  if toSession && !loaded then Scopes.renewSession
  Scopes.save profiles toSession
  return loaded

/-- A part that must be there. -/
def require {α : Type} (part : String) (value : Option α) : Turn α :=
  match value with
  | some a => pure a
  | none => Turn.fail (.config (.missing part))

/-- Decide on a request. -/
def decide (g : Gate) (config : Option Config) (p : Parameters) (now : Instant) : Turn Outcome := do
  let config ← require "config" config
  let clients ← require "clients" config.clients
  let parameter ← require "clientFinder" g.clientParameter
  require "authorizationChecker" (if g.checksAuthorizers then some () else none)
  require "matchingChecker" (if g.checksMatchers then some () else none)
  if !(← Matcher.check config.matchers p.matchers) then return .bypassed
  let multi := p.multiProfile.getD config.settings.multiProfile
  let current ← Turn.ofExcept (clients.resolve parameter (← Turn.context).request p.clients)
  match ← authenticate now config.settings multi current with
  | .action a => return .action a
  | .absent => return .action .unauthorized
  | .produced profiles =>
    match ← Authorizer.check config.authorizers p.authorizers profiles with
    | .denied => return .action .forbidden
    | .action a => return .action a
    | .allowed =>
      let loaded ← remember config.settings profiles
      return .granted ⟨← Turn.context, profiles, p.extra, loaded⟩

end Gate

/-- What became of a request that was decided on for a host. -/
inductive Disposition (α : Type) where
  /-- What the host made of the grant. -/
  | granted (value : α)
  /-- What the host made of the action. -/
  | action (value : α)
  | bypassed
  deriving DecidableEq, Repr

/-- Decide, and let the host answer the grant or the action. A host that cannot answer actions is
    refused before anything is decided. -/
def Gate.perform {α : Type} (g : Gate) (config : Option Config) (p : Parameters) (now : Instant)
    (onGrant : Grant → α) (onAction : Option (Action → Context → α)) : Turn (Disposition α) := do
  let adapt ← require "httpActionAdapter" onAction
  match ← g.decide config p now with
  | .bypassed => return .bypassed
  | .granted grant => return .granted (onGrant grant)
  | .action a => return .action (adapt a (← Turn.context))

end AccessGate
