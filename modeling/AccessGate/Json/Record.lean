import AccessGate.Json.Basic

/-!
# Records and tagged values — two shapes of JSON that data types take

A record is written as an object and may also be read from a list of its fields in order. A value of
one of several kinds carries the kind's name: as the member `type` beside its own members, or in front
of its fields.
-/

namespace AccessGate.Json

variable {α : Type}

/-- A record that was read: whether by position, and its fields by name. -/
structure Record where
  positional : Bool
  get? : String → Option Json

/-- Read a record with the given fields: unknown members of an object are passed over, a list must not
    be longer than the fields. -/
def record? (fields : List String) : Json → Option Record
  | .obj members => some ⟨false, fun name => members.lookup name⟩
  | .arr items =>
    if items.length ≤ fields.length then some ⟨true, fun name => (fields.zip items).lookup name⟩
    else none
  | _ => none

/-- A field that must be there. -/
def Record.required (r : Record) (name : String) (read : Json → Option α) : Option α :=
  (r.get? name).bind read

/-- A field that stands for a default when it is missing. -/
def Record.withDefault (r : Record) (name : String) (default : α) (read : Json → Option α) :
    Option α :=
  match r.get? name with
  | some value => read value
  | none => some default

/-- A value or null. -/
def orNull (read : Json → Option α) : Json → Option (Option α)
  | .null => some none
  | value => (read value).map some

/-- A field that may be null, and missing from an object but not from a list. -/
def Record.optional (r : Record) (name : String) (read : Json → Option α) : Option (Option α) :=
  match r.get? name with
  | some value => orNull read value
  | none => if r.positional then none else some none

/-- The name of the kind, and the value without it. -/
def tagged? : Json → Option (String × Json)
  | .obj members =>
    match members.lookup "type" with
    | some (.str tag) => some (tag, .obj (members.filter fun m => m.1 != "type"))
    | _ => none
  | .arr (.str tag :: fields) => some (tag, .arr fields)
  | _ => none

/-- An object whose members are put one after the other. -/
def ofMembers (members : List (String × Json)) : Json := .obj (sortMembers members)

end AccessGate.Json
