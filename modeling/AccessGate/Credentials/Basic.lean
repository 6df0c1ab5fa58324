import AccessGate.Json.Record

/-!
# Credentials — what a client finds in a request before it knows who sent it
-/

namespace AccessGate

/-- Evidence of who sent a request. -/
inductive Credentials where
  | token (token : String)
  | password (username password : String)
  /-- Evidence of a kind that only the client knows. -/
  | custom (value : Json)
  deriving BEq, Repr

namespace Credentials

/-- The wire form: the members of the kind beside its name. A custom value brings its own members, and
    one of the name `type` takes the place of the kind's name; a value that has no members has no form. -/
def toJson? : Credentials → Option Json
  | .token text => some (.obj [("token", .str text), ("type", .str "token")])
  | .password user secret =>
    some (.obj [("password", .str secret), ("type", .str "username_password"),
      ("username", .str user)])
  | .custom .null => some (.obj [("type", .str "custom")])
  | .custom (.obj members) => some (Json.ofMembers (("type", .str "custom") :: members))
  | .custom _ => none

/-- Read a wire form. A custom value keeps every member but the kind's name. -/
def ofJson? (value : Json) : Option Credentials :=
  match value.tagged? with
  | some ("token", fields) => do
    let r ← fields.record? ["token"]
    return .token (← r.required "token" Json.text?)
  | some ("username_password", fields) => do
    let r ← fields.record? ["username", "password"]
    return .password (← r.required "username" Json.text?) (← r.required "password" Json.text?)
  | some ("custom", fields) => some (.custom fields)
  | _ => none

end Credentials

end AccessGate
