import AccessGate.Credentials.ApiKeyText
import AccessGate.Credentials.Basic
import AccessGate.Digest.Compare
import AccessGate.Profile.Basic

/-!
# Registered API keys

A key stands for a user with roles. Registering a key again replaces what it stands for. A presented key
is looked up by its digest, which is compared without telling where it differs.
-/

namespace AccessGate

/-- What a key stands for. -/
structure ApiKeyHolder where
  user : String
  roles : NameSet
  deriving DecidableEq

/-- Holders by the digests of their keys. -/
structure ApiKeys where
  holders : Dict ApiKeyHolder
  deriving DecidableEq

namespace ApiKeys

/-- No key is registered. -/
def empty : ApiKeys := ⟨.empty⟩

/-- Register a key; a text that is no key is refused. -/
def register (k : ApiKeys) (key user : String) (roles : List String) : Except Error ApiKeys :=
  match ApiKeyText.check key with
  | .ok _ => .ok ⟨k.holders.insert (ApiKeyText.digest key) ⟨user, .ofList roles⟩⟩
  | .error fault => .error (.token (.key fault))

/-- Is a key registered? -/
def isRegistered (k : ApiKeys) (key : String) : Bool := k.holders.contains (ApiKeyText.digest key)

/-- Take a key back. -/
def revoke (k : ApiKeys) (key : String) : ApiKeys := ⟨k.holders.erase (ApiKeyText.digest key)⟩

/-- The number of registered keys. -/
def size (k : ApiKeys) : Nat := k.holders.size

/-- The holder of a presented key. -/
def holder? (k : ApiKeys) (key : String) : Option ApiKeyHolder :=
  if ApiKeyText.isValid key then
    let digest := ApiKeyText.digest key
    (k.holders.entries.find? fun e => Digest.secureCompare digest e.1).map Prod.snd
  else none

/-- The profile of the holder of presented credentials. -/
def profile? (k : ApiKeys) : Credentials → Option Profile
  | .token key => (k.holder? key).map fun h =>
    ((Profile.ofId h.user).withRoles h.roles.names).withAttribute "auth_method" (.str "api_key")
  | _ => none

end ApiKeys

end AccessGate
