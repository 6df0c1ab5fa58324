import AccessGate.Digest.Sha256
import AccessGate.Encoding.Base64
import AccessGate.Error
import AccessGate.Http.Token

/-!
# The text of API keys — how keys look, and how they are kept

A key starts with `wdn_` and goes on with letters, digits, `-` and `_`; it has 20 to 200 octets. Keys
are kept as their digests only.
-/

namespace AccessGate.ApiKeyText

/-- What every key starts with. -/
def start : String := "wdn_"

/-- May a character stand in a key? -/
def isKeyChar (c : Char) : Bool := Http.isAlnum c || c == '-' || c == '_'

/-- Check the text of a key; of several faults the first in this order is told. -/
def check (key : String) : Except KeyFault Unit :=
  match start.toList.isPrefixOf? key.toList with
  | none => .error .wrongStart
  | some rest =>
    if key.utf8ByteSize < 20 then .error .tooShort
    else if key.utf8ByteSize > 200 then .error .tooLong
    else if rest.all isKeyChar then .ok ()
    else .error .badCharacter

/-- Is a text a key? -/
def isValid (key : String) : Bool :=
  match check key with
  | .ok _ => true
  | .error _ => false

/-- The digest under which a key is kept. -/
def digest (key : String) : String :=
  Encoding.Base64.standardText (Digest.sha256 (Text.octets key))

/-- The key made of random octets. -/
def ofOctets (octets : List UInt8) : String := start ++ Encoding.Base64.urlText octets

/-- The number of random octets in a key. -/
def octetCount : Nat := 32

end AccessGate.ApiKeyText
