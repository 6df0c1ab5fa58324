import AccessGate.Http.Token
import AccessGate.Text.Blank
import AccessGate.Text.Fold

/-!
# Header fields and cookies

The fields of a request are kept in the order in which they came, with their names in small letters. A
value may hold characters outside ASCII; such a value is kept, but reads as missing.
-/

namespace AccessGate.Http

/-- Header fields in order, names in small letters. -/
abbrev Headers := List (String × String)

namespace Headers

/-- Append a field, unless its name or its value is malformed. -/
def append? (h : Headers) (name value : String) : Option Headers :=
  if isToken name && name.utf8ByteSize ≤ 65535 && isHeaderValue value then
    some (h ++ [(Text.lower name, value)])
  else none

/-- Append a field; a malformed one is passed over. -/
def append (h : Headers) (name value : String) : Headers := (h.append? name value).getD h

/-- Every value of a field, in order. -/
def all (h : Headers) (name : String) : List String :=
  (h.filter fun f => f.1 == Text.lower name).map Prod.snd

/-- The first value of a field, if it can be read as text. -/
def get? (h : Headers) (name : String) : Option String :=
  (h.all name).head?.filter isReadable

end Headers

/-- The name and the value on both sides of the first `=`. -/
def cookiePair? (segment : List Char) : Option (List Char × List Char) :=
  let pair := Text.trimChars segment
  let name := pair.takeWhile (· != '=')
  match pair.drop name.length with
  | '=' :: value => some (name, value)
  | _ => none

/-- The pairs of a `Cookie` field, in order. -/
def cookiePairs (field : String) : List (List Char × List Char) :=
  (field.toList.splitOn ';').filterMap cookiePair?

/-- The value of a cookie: that of the first pair with its name, if it is not empty. -/
def cookie? (h : Headers) (name : String) : Option String :=
  match (((h.all "cookie").filter isReadable).flatMap cookiePairs).find? fun p =>
      String.ofList p.1 == name with
  | some (_, value) =>
    let text := Text.trimChars value
    if text.isEmpty then none else some (String.ofList text)
  | none => none

end AccessGate.Http
