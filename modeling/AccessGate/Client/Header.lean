import AccessGate.Client.Basic
import AccessGate.Text.Quoted

/-!
# Header clients — credentials in a header field

The value of a field counts when it starts with a given text; what follows, without the blanks around
it, is a token. Several clients can share a field by different starts.
-/

namespace AccessGate

/-- How a header client finds its token. -/
structure HeaderClient where
  name : String
  field : String
  /-- What the value must start with. -/
  start : String

namespace HeaderClient

/-- The token in a value. -/
def token? (start value : String) : Option String := do
  let rest ← start.toList.isPrefixOf? value.toList
  let token := Text.trimChars rest
  if token.isEmpty then none else some (String.ofList token)

/-- Look for a token. -/
def fetch (h : HeaderClient) (c : Context) : Attempt Credentials :=
  .ofOption (((c.request.header? h.field).bind (token? h.start)).map .token)

/-- The client whose tokens are validated by a given authority: no profile is no error. -/
def client (h : HeaderClient) (validate : Instant → Credentials → Option Profile) : Client where
  name := h.name
  kind := .direct
  fetch _ c := .ok (h.fetch c)
  build now credentials _ := .ok (.ofOption (validate now credentials))

/-- How a header client is shown. -/
def describe (h : HeaderClient) : String :=
  "HeaderClient \x7b name: " ++ Text.quoted h.name ++ ", header_name: " ++ Text.quoted h.field
    ++ ", prefix: " ++ Text.quoted h.start ++ " \x7d"

end HeaderClient

end AccessGate
