import AccessGate.Data.Dict
import AccessGate.Encoding.Form
import AccessGate.Http.Headers
import AccessGate.Http.Uri
import AccessGate.Json.Basic

/-!
# Request contexts — one request and what is noted about it

A context holds what the caller sent, which never changes, and beside it the attributes that decisions
note and the session id. An id that the gate issued during the request is marked as issued, so that it
is never mistaken for one that the caller presented.
-/

namespace AccessGate

/-- What the caller sent. -/
structure Request where
  method : String
  uri : Http.Uri
  headers : Http.Headers
  /-- The parameters in order: those of the query, then those that the host adds. -/
  parameters : List (String × String)
  deriving DecidableEq, Repr, Inhabited

namespace Request

/-- A request with the parameters of its query. -/
def ofTarget (method : String) (uri : Http.Uri) (headers : Http.Headers) : Request :=
  ⟨method, uri, headers, (uri.query.map Encoding.Form.read).getD []⟩

/-- The path. -/
def path (r : Request) : String := r.uri.path

/-- The first value of a parameter. -/
def parameter? (r : Request) (name : String) : Option String := r.parameters.lookup name

/-- The first value of a header field, if it can be read as text. -/
def header? (r : Request) (name : String) : Option String := r.headers.get? name

/-- The URL of the request: its own if it has a scheme, else one built from the `Host` field, else the
    path and the query. -/
def url (r : Request) : String :=
  if r.uri.scheme.isSome then r.uri.text
  else
    match r.header? "host" with
    | some host => (r.header? "x-forwarded-proto").getD "http" ++ "://" ++ host ++ r.uri.pathAndQuery
    | none => r.uri.pathAndQuery

/-- Did the request come over a secure connection, to the gate or to a proxy before it? -/
def isSecure (r : Request) : Bool :=
  if r.uri.scheme = some "https" then true
  else
    match r.header? "x-forwarded-proto" with
    | some proto => Text.sameName proto "https"
    | none =>
      match r.header? "x-forwarded-ssl" with
      | some ssl => Text.sameName ssl "on"
      | none => false

/-- Was the request made by a script on a page, which cannot follow a login redirect? -/
def isScripted (r : Request) : Bool :=
  (match r.header? "x-requested-with" with
    | some value => Text.sameName value "XMLHttpRequest"
    | none => false)
    || match r.parameter? "is_ajax_request" with
      | some value => Text.sameName value "true"
      | none => false

end Request

/-- A request and what is noted about it. -/
structure Context where
  request : Request
  attributes : Dict Json
  session : Option String
  /-- Was the session id issued during this request? -/
  sessionIssued : Bool
  deriving DecidableEq, Inhabited

namespace Context

/-- A context with nothing noted. -/
def ofRequest (request : Request) (session : Option String) : Context :=
  ⟨request, .empty, session, false⟩

/-- The context of a request whose session id stands in a cookie. -/
def ofCookie (request : Request) (cookie : String) : Context :=
  ofRequest request (Http.cookie? request.headers cookie)

/-- Note an attribute. -/
def setAttribute (c : Context) (name : String) (value : Json) : Context :=
  { c with attributes := c.attributes.insert name value }

/-- Forget an attribute. -/
def removeAttribute (c : Context) (name : String) : Context :=
  { c with attributes := c.attributes.erase name }

/-- An attribute. -/
def attribute? (c : Context) (name : String) : Option Json := c.attributes.get? name

/-- Take a new session id. -/
def issueSession (c : Context) (id : String) : Context :=
  { c with session := some id, sessionIssued := true }

end Context

end AccessGate
