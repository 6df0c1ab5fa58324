import AccessGate.Identifiers
import AccessGate.Profile.Set
import AccessGate.Session.Plan

/-!
# Scopes — profiles in the request and in the session

Profiles are kept in two places. Those of the request are an attribute of its context and are gone with
it; those of the session are a value in the store under the session id of the context. Both are kept in
their wire form, and stale profiles are dropped whenever they are read.
-/

namespace AccessGate

/-- The name of the profile set, as an attribute and as a session value. -/
def profilesKey : String := "warden.user_profiles"

/-- The attribute that says whether the accepted profiles came from the session. -/
def loadedKey : String := "warden.load_profiles_from_session"

/-- The session value that holds the URL to come back to. -/
def requestedUrlKey : String := "warden.requested_url"

namespace Context

/-- Did the accepted profiles come from the session, if that is decided? -/
def loaded? (c : Context) : Option Bool := (c.attribute? loadedKey).bind Json.bool?

/-- The profiles that a decision noted in the request, if they can be read. -/
def profiles? (c : Context) : Option ProfileSet := (c.attribute? profilesKey).bind ProfileSet.ofJson?

end Context

namespace Scopes

/-- The session id, issued now if there is none. -/
def ensureSession : Turn String := do
  match (← Turn.context).session with
  | some id => pure id
  | none =>
    let id := sessionIdOf (← Turn.random sessionIdOctets)
    Turn.change fun c => c.issueSession id
    pure id

/-- Take a new session id; answers the one before. -/
def replaceSession : Turn (Option String) := do
  let id := sessionIdOf (← Turn.random sessionIdOctets)
  let before := (← Turn.context).session
  Turn.change fun c => c.issueSession id
  pure before

/-- The profiles of the session. -/
def loadSession (now : Instant) : Turn ProfileSet := do
  match (← Turn.context).session with
  | none => pure .empty
  | some id =>
    match ← Turn.store (.get id profilesKey) with
    | none => pure .empty
    | some value => return (← Turn.ofJson (ProfileSet.ofJson? value)).unexpired now

/-- The profiles of the request. -/
def loadRequest (now : Instant) : Turn ProfileSet := do
  match (← Turn.context).attribute? profilesKey with
  | none => pure .empty
  | some value => return (← Turn.ofJson (ProfileSet.ofJson? value)).unexpired now

/-- The profiles of the request, and over them those of the session when they are asked for. -/
def loadAll (now : Instant) (withSession : Bool) : Turn ProfileSet := do
  let request ← loadRequest now
  if withSession then return request.merge (← loadSession now) else return request

/-- Keep a set in the request, and in the session when asked to. -/
def save (profiles : ProfileSet) (toSession : Bool) : Turn Unit := do
  Turn.change fun c => c.setAttribute profilesKey profiles.toJson
  if toSession then
    let id ← ensureSession
    Turn.store (.set id profilesKey profiles.toJson)

/-- Keep one profile: beside the others, or alone. -/
def saveProfile (now : Instant) (client : String) (profile : Profile) (toSession multi : Bool) :
    Turn Unit := do
  let base ← if multi then loadAll now toSession else pure .empty
  save (base.insert client profile) toSession

/-- Take the profile of a client out of both scopes. A scope without it is not written. -/
def remove (now : Instant) (client : String) : Turn Unit := do
  let request ← loadRequest now
  if request.contains client then
    Turn.change fun c => c.setAttribute profilesKey (request.erase client).toJson
  match (← Turn.context).session with
  | none => pure ()
  | some id =>
    let session ← loadSession now
    if session.contains client then
      Turn.store (.set id profilesKey (session.erase client).toJson)

/-- Take every profile out of both scopes. -/
def removeAll : Turn Unit := do
  Turn.change fun c => c.removeAttribute profilesKey
  match (← Turn.context).session with
  | none => pure ()
  | some id => Turn.store (.remove id profilesKey)

/-- Is there a profile? -/
def isAuthenticated (now : Instant) (withSession : Bool) : Turn Bool :=
  return !(← loadAll now withSession).isEmpty

/-- Note where the accepted profiles came from. -/
def setLoaded (loaded : Bool) : Turn Unit :=
  Turn.change fun c => c.setAttribute loadedKey (.bool loaded)

/-- Move the session to a new id, unless its id was issued during this request already. -/
def renewSession : Turn Unit := do
  if (← Turn.context).sessionIssued then pure ()
  else
    match ← replaceSession with
    | none => pure ()
    | some before =>
      let id ← ensureSession
      Turn.store (.renew before id)

/-- Keep the URL to come back to after the login. -/
def saveRequestedUrl (url : String) : Turn Unit := do
  let id ← ensureSession
  Turn.store (.set id requestedUrlKey (.str url))

end Scopes

end AccessGate
