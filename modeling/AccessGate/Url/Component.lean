import AccessGate.Encoding.Percent

/-!
# Components of URLs — which characters are escaped where

A component of a URL holds visible ASCII characters only. Each component has signs of its own that would
end it or mislead a reader; these and all other characters are written as percent escapes of their
octets. An escape that is there already is kept as it is.
-/

namespace AccessGate.Url

/-- A character that may stand in a component as it is, unless the component escapes it. -/
def isVisible (c : Char) : Bool := 0x20 ≤ c.toNat && c.toNat ≤ 0x7E

/-- The signs that a fragment escapes. -/
def fragmentSigns : List Char := [' ', '"', '<', '>', '\x60']

/-- The signs that a query escapes; the web's own schemes escape one more. -/
def querySigns (special : Bool) : List Char :=
  [' ', '"', '#', '<', '>'] ++ if special then ['\x27'] else []

/-- The signs that a path escapes. -/
def pathSigns : List Char := fragmentSigns ++ ['#', '?', '\x7b', '\x7d']

/-- The signs that a user name or a password escapes. -/
def userSigns : List Char := pathSigns ++ ['/', ':', ';', '=', '@', '[', '\\', ']', '^', '|']

/-- One character of a component that escapes the given signs. -/
def encodeChar (signs : List Char) (c : Char) : List Char :=
  if isVisible c && !signs.contains c then [c]
  else (Text.octets (String.singleton c)).flatMap Encoding.escape

/-- The text of a component. -/
def encode (signs : List Char) (s : List Char) : List Char := s.flatMap (encodeChar signs)

end AccessGate.Url
