/-!
# Characters of the request line and of header fields
-/

namespace AccessGate.Http

/-- An ASCII letter or digit. -/
def isAlnum (c : Char) : Bool :=
  ('a' ≤ c && c ≤ 'z') || ('A' ≤ c && c ≤ 'Z') || ('0' ≤ c && c ≤ '9')

/-- A character of a token: letters, digits and some signs. -/
def isTokenChar (c : Char) : Bool := isAlnum c || "!#$%&'*+-.^_\x60|~".toList.contains c

/-- A token has at least one character. Methods and header names are tokens. -/
def isToken (s : String) : Bool := !s.isEmpty && s.toList.all isTokenChar

/-- May a character stand in a header value? -/
def isValueChar (c : Char) : Bool := (0x20 ≤ c.toNat && c.toNat != 0x7F) || c == '\t'

/-- May a text be a header value? -/
def isHeaderValue (s : String) : Bool := s.toList.all isValueChar

/-- A character of a header value that can be read as text. -/
def isReadableChar (c : Char) : Bool := (0x20 ≤ c.toNat && c.toNat < 0x7F) || c == '\t'

/-- Can a header value be read as text? -/
def isReadable (s : String) : Bool := s.toList.all isReadableChar

end AccessGate.Http
