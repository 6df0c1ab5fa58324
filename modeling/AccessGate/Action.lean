import AccessGate.Json.Record

/-!
# Actions — the answers that end a request, and the outcomes of single steps

An action is what the host is told to send: the content it has, a redirect, a rendered text or a bare
status. A client's step produces a value, finds nothing, or asks for an action; an authorizer allows,
denies, or asks for an action.
-/

namespace AccessGate

/-- What the host answers. -/
inductive Action where
  | ok
  | redirect (location : String)
  | render (body : String) (status : UInt16)
  | status (code : UInt16)
  deriving DecidableEq, Repr

namespace Action

/-- Nobody is known. -/
def unauthorized : Action := .status 401

/-- Somebody is known who may not pass. -/
def forbidden : Action := .status 403

/-- The status code of the answer. -/
def code : Action → UInt16
  | .ok => 200
  | .redirect _ => 302
  | .render _ code => code
  | .status code => code

/-- Where a redirect leads. -/
def location? : Action → Option String
  | .redirect location => some location
  | _ => none

/-- A short description: the status code, and the target of a redirect. -/
def describe : Action → String
  | .redirect location => "302 -> " ++ location
  | other => toString other.code.toNat

/-- A status in JSON. -/
def readStatus (value : Json) : Option UInt16 := (value.natBelow? 65536).map UInt16.ofNat

/-- The wire form. A bare status has no members that a kind's name could join, so it has none. -/
def toJson? : Action → Option Json
  | .ok => some (.obj [("type", .str "ok")])
  | .redirect location => some (.obj [("location", .str location), ("type", .str "redirect")])
  | .render body code =>
    some (.obj [("body", .str body), ("status", .int code.toNat), ("type", .str "render_content")])
  | .status _ => none

/-- Read a wire form. -/
def ofJson? (value : Json) : Option Action :=
  match value.tagged? with
  | some ("ok", .obj _) => some .ok
  | some ("ok", .arr []) => some .ok
  | some ("redirect", fields) => do
    let r ← fields.record? ["location"]
    return .redirect (← r.required "location" Json.text?)
  | some ("render_content", fields) => do
    let r ← fields.record? ["body", "status"]
    return .render (← r.required "body" Json.text?) (← r.required "status" readStatus)
  | _ => none

end Action

/-- The outcome of one step of a client. Nothing found is a normal outcome and no error. -/
inductive Attempt (α : Type) where
  | produced (value : α)
  | absent
  | action (action : Action)
  deriving DecidableEq, Repr

namespace Attempt

variable {α β : Type}

/-- Change the produced value. -/
def map (f : α → β) : Attempt α → Attempt β
  | .produced value => .produced (f value)
  | .absent => .absent
  | .action a => .action a

/-- Was a value produced? -/
def isProduced : Attempt α → Bool
  | .produced _ => true
  | _ => false

/-- A value that may be missing, as an outcome. -/
def ofOption : Option α → Attempt α
  | some value => .produced value
  | none => .absent

end Attempt

/-- The answer of an authorizer. -/
inductive Verdict where
  | allowed
  | denied
  | action (action : Action)
  deriving DecidableEq, Repr

/-- The answer of an authorizer that only says yes or no. -/
def Verdict.ofBool (b : Bool) : Verdict := if b then .allowed else .denied

end AccessGate
