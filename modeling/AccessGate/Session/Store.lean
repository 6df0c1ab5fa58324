import AccessGate.Data.Dict
import AccessGate.Error
import AccessGate.Json.Basic
import AccessGate.Time.Instant

/-!
# The session store — values under session ids, each session with a deadline

Writing to a session or moving it sets its deadline anew. A session whose deadline has passed answers
nothing; it is dropped when it is moved or cleaned up and emptied when it is written to. Moving the
deadline out of the calendar cannot be done, and a store of which it is asked fails.
-/

namespace AccessGate

/-- One session: its values and the last instant at which it lives. -/
structure Session where
  values : Dict Json
  deadline : Instant
  deriving DecidableEq

/-- Does the session live at an instant? -/
def Session.isLive (s : Session) (now : Instant) : Bool := !s.deadline.before now

/-- A step on a session store. -/
inductive StoreStep where
  | get (id key : String)
  | set (id key : String) (value : Json)
  | remove (id key : String)
  | destroy (id : String)
  | renew (old new : String)
  deriving DecidableEq

/-- The name of what a step does. -/
def StoreStep.verb : StoreStep → String
  | .get _ _ => "get"
  | .set _ _ _ => "set"
  | .remove _ _ => "remove"
  | .destroy _ => "destroy"
  | .renew _ _ => "renew"

/-- What a step answers: a look-up the value, every other step nothing. -/
def StoreStep.Answer : StoreStep → Type
  | .get _ _ => Option Json
  | _ => Unit

/-- Sessions by id. -/
structure MemoryStore where
  sessions : Dict Session
  deriving DecidableEq

namespace MemoryStore

/-- The store without sessions. -/
def empty : MemoryStore := ⟨.empty⟩

instance : Inhabited MemoryStore := ⟨empty⟩

/-- How long a session lives when the host does not say. -/
def defaultLifetime : Lifetime := .ofMinutes 30

/-- A session that lives. -/
def live? (m : MemoryStore) (now : Instant) (id : String) : Option Session :=
  (m.sessions.get? id).filter fun s => s.isLive now

/-- A value of a session that lives. -/
def get? (m : MemoryStore) (now : Instant) (id key : String) : Option Json :=
  (m.live? now id).bind fun s => s.values.get? key

/-- The keys of a session that lives. -/
def keys (m : MemoryStore) (now : Instant) (id : String) : List String :=
  match m.live? now id with
  | some s => s.values.keys
  | none => []

/-- Write a value. A session that is missing or has ended starts empty. -/
def set? (m : MemoryStore) (lifetime : Lifetime) (now : Instant) (id key : String) (value : Json) :
    Option MemoryStore :=
  (now.add? lifetime).map fun deadline =>
    let values := ((m.live? now id).map Session.values).getD .empty
    ⟨m.sessions.insert id ⟨values.insert key value, deadline⟩⟩

/-- Take a value away; the deadline stays. -/
def remove (m : MemoryStore) (id key : String) : MemoryStore :=
  match m.sessions.get? id with
  | some s => ⟨m.sessions.insert id { s with values := s.values.erase key }⟩
  | none => m

/-- Drop a session. -/
def destroy (m : MemoryStore) (id : String) : MemoryStore := ⟨m.sessions.erase id⟩

/-- Move a session to another id. One that has ended is dropped; so is one whose new deadline the
    calendar does not have, and then the step fails. -/
def renew (m : MemoryStore) (lifetime : Lifetime) (now : Instant) (old new : String) :
    Except Error Unit × MemoryStore :=
  match m.sessions.get? old with
  | none => (.ok (), m)
  | some s =>
    let rest := m.destroy old
    if !s.isLive now then (.ok (), rest)
    else
      match now.add? lifetime with
      | none => (.error .calendar, rest)
      | some deadline => (.ok (), ⟨rest.sessions.insert new { s with deadline := deadline }⟩)

/-- Drop every session that has ended, and say how many there were. -/
def cleanup (m : MemoryStore) (now : Instant) : Nat × MemoryStore :=
  let kept := m.sessions.filter fun _ s => s.isLive now
  (m.sessions.size - kept.size, ⟨kept⟩)

/-- The number of sessions, those that have ended included. -/
def size (m : MemoryStore) : Nat := m.sessions.size

/-- Do one step. -/
def apply (lifetime : Lifetime) (now : Instant) (m : MemoryStore) :
    (step : StoreStep) → Except Error step.Answer × MemoryStore
  | .get id key => (.ok (m.get? now id key), m)
  | .set id key value =>
    match m.set? lifetime now id key value with
    | some m' => (.ok (), m')
    | none => (.error .calendar, m)
  | .remove id key => (.ok (), m.remove id key)
  | .destroy id => (.ok (), m.destroy id)
  | .renew old new => m.renew lifetime now old new

end MemoryStore

end AccessGate
