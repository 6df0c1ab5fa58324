import AccessGate.Action
import AccessGate.Credentials.Basic
import AccessGate.Profile.Basic
import AccessGate.Session.Plan

/-!
# Clients — ways in which a visitor can be known

A direct client looks for credentials in the request and builds a profile from them. An indirect client
sends the visitor to a login page, whose way back fills the session; it has an action for that. What the
steps of a client answer is up to the client.
-/

namespace AccessGate

/-- Does a client answer from the request, or through a login page? -/
inductive ClientKind where
  | direct
  | indirect
  deriving DecidableEq, Repr

namespace ClientKind

/-- The name of the kind. -/
def name : ClientKind → String
  | .direct => "direct"
  | .indirect => "indirect"

/-- The kind of a name. -/
def ofName? (s : String) : Option ClientKind :=
  if s = "direct" then some .direct else if s = "indirect" then some .indirect else none

/-- Read a wire form: the name, or an object with the name as its only member and null as its value. -/
def ofJson? : Json → Option ClientKind
  | .str s => ofName? s
  | .obj [(s, .null)] => ofName? s
  | _ => none

end ClientKind

/-- A way to know a visitor. -/
structure Client where
  name : String
  kind : ClientKind
  /-- Look for credentials. -/
  fetch : Instant → Context → Except Error (Attempt Credentials)
  /-- Build a profile from credentials. -/
  build : Instant → Credentials → Context → Except Error (Attempt Profile)
  /-- What to do with a visitor who is not known yet. -/
  redirect : Context → Except Error Action := fun _ => .ok .unauthorized

namespace Client

/-- Does the client need a login page? -/
def isIndirect (c : Client) : Bool := c.kind = .indirect

/-- Look for credentials, then build a profile; the profile bears the client's name. -/
def authenticate (c : Client) (now : Instant) : Turn (Attempt Profile) := do
  Turn.note (.fetch c.name)
  match ← Turn.ofExcept (c.fetch now (← Turn.context)) with
  | .absent => return .absent
  | .action a => return .action a
  | .produced credentials =>
    Turn.note (.build c.name)
    let outcome ← Turn.ofExcept (c.build now credentials (← Turn.context))
    return outcome.map fun p => p.withClientName c.name

/-- The client of visitors whom nobody knows. -/
def anonymous : Client where
  name := "AnonymousClient"
  kind := .direct
  fetch _ _ := .ok (.produced (.custom .null))
  build _ _ _ := .ok (.produced .anonymous)

end Client

end AccessGate
