import AccessGate.Data.Dict
import AccessGate.Json.Record
import AccessGate.Time.Text

/-!
# Profiles — who somebody is

A profile is an identity that a client has established: an id, and what is known and granted. A profile
with an end is stale after that instant, not at it.
-/

namespace AccessGate

/-- An established identity. -/
structure Profile where
  id : String
  /-- The client that established it. -/
  clientName : Option String
  attributes : Dict Json
  roles : NameSet
  permissions : NameSet
  rememberMe : Bool
  /-- The last instant at which the profile holds. -/
  expiresAt : Option Instant
  deriving DecidableEq

namespace Profile

/-- The id of a visitor whom nobody knows. -/
def anonymousId : String := "anonymous"

/-- An identity of which only the id is known. -/
def ofId (id : String) : Profile :=
  ⟨id, none, .empty, .empty, .empty, false, none⟩

/-- The visitor whom nobody knows. -/
def anonymous : Profile := ofId anonymousId

/-- Is this the visitor whom nobody knows? -/
def isAnonymous (p : Profile) : Bool := p.id == anonymousId

/-- Grant a role. -/
def withRole (p : Profile) (role : String) : Profile := { p with roles := p.roles.insert role }

/-- Grant several roles. -/
def withRoles (p : Profile) (roles : List String) : Profile :=
  { p with roles := roles.foldl NameSet.insert p.roles }

/-- Grant a permission. -/
def withPermission (p : Profile) (permission : String) : Profile :=
  { p with permissions := p.permissions.insert permission }

/-- Note an attribute. -/
def withAttribute (p : Profile) (name : String) (value : Json) : Profile :=
  { p with attributes := p.attributes.insert name value }

/-- Note the client that established the identity. -/
def withClientName (p : Profile) (name : String) : Profile := { p with clientName := some name }

/-- Set the last instant at which the profile holds. -/
def withExpiry (p : Profile) (t : Instant) : Profile := { p with expiresAt := some t }

/-- Is a role granted? -/
def hasRole (p : Profile) (role : String) : Bool := p.roles.contains role

/-- Is one of the roles granted? -/
def hasAnyRole (p : Profile) (roles : List String) : Bool := roles.any p.hasRole

/-- Are all of the roles granted? -/
def hasAllRoles (p : Profile) (roles : List String) : Bool := roles.all p.hasRole

/-- Is a permission granted? -/
def hasPermission (p : Profile) (permission : String) : Bool := p.permissions.contains permission

/-- Is the profile stale at an instant? -/
def isExpired (p : Profile) (now : Instant) : Bool :=
  match p.expiresAt with
  | some t => t.before now
  | none => false

/-- The fields of the wire form, in the order of its list shape. -/
def fields : List String :=
  ["id", "client_name", "attributes", "roles", "permissions", "remember_me", "expires_at"]

/-- A set of texts as a JSON list. -/
def namesToJson (s : NameSet) : Json := .arr (s.names.map .str)

/-- A set of texts from a JSON list. -/
def readNames (value : Json) : Option NameSet := value.texts?.map NameSet.ofList

/-- Attributes from a JSON object. -/
def readAttributes : Json → Option (Dict Json)
  | .obj members => some (.ofList members)
  | _ => none

/-- An instant from a JSON text. -/
def readInstant (value : Json) : Option Instant := value.text?.bind Instant.read?

/-- The wire form. The client and the end are members only when they are set. -/
def toJson (p : Profile) : Json :=
  .obj <|
    [("attributes", .obj p.attributes.entries)]
      ++ (match p.clientName with
        | some name => [("client_name", .str name)]
        | none => [])
      ++ (match p.expiresAt with
        | some t => [("expires_at", .str t.write)]
        | none => [])
      ++ [("id", .str p.id), ("permissions", namesToJson p.permissions),
        ("remember_me", .bool p.rememberMe), ("roles", namesToJson p.roles)]

/-- Read a wire form: an object, or a list of the fields in order. Only the id must be there. -/
def ofJson? (value : Json) : Option Profile := do
  let r ← value.record? fields
  let id ← r.required "id" Json.text?
  let clientName ← r.withDefault "client_name" none (Json.orNull Json.text?)
  let attributes ← r.withDefault "attributes" .empty readAttributes
  let roles ← r.withDefault "roles" .empty readNames
  let permissions ← r.withDefault "permissions" .empty readNames
  let rememberMe ← r.withDefault "remember_me" false Json.bool?
  let expiresAt ← r.withDefault "expires_at" none (Json.orNull readInstant)
  return ⟨id, clientName, attributes, roles, permissions, rememberMe, expiresAt⟩

end Profile

end AccessGate
