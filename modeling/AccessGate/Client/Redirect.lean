import AccessGate.Client.Basic
import AccessGate.Url.Reader

/-!
# Redirect clients — a login page elsewhere

A redirect client knows nobody by itself. It sends the visitor to a login page, which learns from the
query which client sent the visitor and where to send the visitor back to. The way back fills the session.
-/

namespace AccessGate

/-- A client with a login page. -/
structure RedirectClient where
  name : String
  login : Url
  callback : Option String
  deriving DecidableEq, Repr

namespace RedirectClient

/-- The client of a login page, which must be a URL. -/
def ofText (name login : String) (callback : Option String) : Except Error RedirectClient :=
  match Url.read login with
  | .ok url => .ok ⟨name, url, callback⟩
  | .error fault => .error (.config (.loginUrl login fault))

/-- What the login page learns. -/
def pairs (r : RedirectClient) : List (String × String) :=
  ("client_name", r.name) :: match r.callback with
    | some url => [("callback", url)]
    | none => []

/-- Where the visitor is sent. -/
def location (r : RedirectClient) : Url := r.login.addPairs r.pairs

/-- The client: it finds nobody and redirects everybody. -/
def client (r : RedirectClient) : Client where
  name := r.name
  kind := .indirect
  fetch _ _ := .ok .absent
  build _ _ _ := .ok .absent
  redirect _ := .ok (.redirect r.location.text)

end RedirectClient

end AccessGate
