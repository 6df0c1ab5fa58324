import AccessGate.Error
import AccessGate.Http.Token
import AccessGate.Json.Record
import AccessGate.Text.Blank

/-!
# Settings — how the gate behaves

Settings have defaults, are read from JSON in which any of them may be missing, and may be overridden by
environment variables.
-/

namespace AccessGate

/-- The switches of the gate. -/
structure Settings where
  /-- The request parameter that narrows the clients. -/
  clientParameter : String := "force_client"
  /-- Keep a profile for every client that knows the visitor, not only for the first. -/
  multiProfile : Bool := false
  /-- Keep profiles of direct clients in the session too. -/
  saveDirect : Bool := false
  /-- Redirect scripts to the login page too. -/
  redirectScripts : Bool := false
  /-- Remember where the visitor wanted to go. -/
  saveRequestedUrl : Bool := true
  /-- The cookie with the session id. -/
  cookie : String := "WARDEN_SESSION"
  deriving DecidableEq, Repr, Inhabited

namespace Settings

/-- The fields of the wire form in order. -/
def fields : List String :=
  ["client_name_parameter", "multi_profile", "save_direct_profiles_in_session",
    "redirect_ajax_requests", "save_requested_url", "session_cookie_name"]

/-- The wire form. -/
def toJson (s : Settings) : Json :=
  .obj [("client_name_parameter", .str s.clientParameter), ("multi_profile", .bool s.multiProfile),
    ("redirect_ajax_requests", .bool s.redirectScripts),
    ("save_direct_profiles_in_session", .bool s.saveDirect),
    ("save_requested_url", .bool s.saveRequestedUrl), ("session_cookie_name", .str s.cookie)]

/-- Read a wire form; a missing field keeps its default. -/
def ofJson? (value : Json) : Option Settings := do
  let r ← value.record? fields
  let base : Settings := {}
  return {
    clientParameter := ← r.withDefault "client_name_parameter" base.clientParameter Json.text?
    multiProfile := ← r.withDefault "multi_profile" base.multiProfile Json.bool?
    saveDirect := ← r.withDefault "save_direct_profiles_in_session" base.saveDirect Json.bool?
    redirectScripts := ← r.withDefault "redirect_ajax_requests" base.redirectScripts Json.bool?
    saveRequestedUrl := ← r.withDefault "save_requested_url" base.saveRequestedUrl Json.bool?
    cookie := ← r.withDefault "session_cookie_name" base.cookie Json.text? }

/-- A switch in a variable; any other text than these two leaves it as it is. -/
def readSwitch (env : String → Option String) (name : String) (current : Bool) : Bool :=
  match env name with
  | some "true" => true
  | some "false" => false
  | _ => current

/-- Override settings by environment variables. -/
def override (s : Settings) (env : String → Option String) : Settings where
  clientParameter := (env "WARDEN_CLIENT_NAME_PARAMETER").getD s.clientParameter
  cookie := (env "WARDEN_SESSION_COOKIE").getD s.cookie
  multiProfile := readSwitch env "WARDEN_MULTI_PROFILE" s.multiProfile
  saveDirect := readSwitch env "WARDEN_SAVE_DIRECT_PROFILES_IN_SESSION" s.saveDirect
  redirectScripts := readSwitch env "WARDEN_REDIRECT_AJAX_REQUESTS" s.redirectScripts
  saveRequestedUrl := readSwitch env "WARDEN_SAVE_REQUESTED_URL" s.saveRequestedUrl

/-- May a character stand in the name of the session cookie? -/
def isCookieChar (c : Char) : Bool := Http.isAlnum c || c == '_' || c == '-' || c == '.'

/-- Check the settings. -/
def check (s : Settings) : Except Error Unit :=
  if Text.isBlankText s.clientParameter then .error (.config .emptyClientParameter)
  else if s.cookie.isEmpty || !s.cookie.toList.all isCookieChar then
    .error (.config (.cookieName s.cookie))
  else .ok ()

/-- The settings that environment variables give, if they pass the check. -/
def ofEnvironment (env : String → Option String) : Except Error Settings :=
  let s := override {} env
  s.check.map fun _ => s

/-- How settings are shown. -/
def describe (s : Settings) : String :=
  "EngineSettings \x7b client_name_parameter: " ++ Text.quoted s.clientParameter
    ++ ", multi_profile: " ++ toString s.multiProfile
    ++ ", save_direct_profiles_in_session: " ++ toString s.saveDirect
    ++ ", redirect_ajax_requests: " ++ toString s.redirectScripts
    ++ ", save_requested_url: " ++ toString s.saveRequestedUrl
    ++ ", session_cookie_name: " ++ Text.quoted s.cookie ++ " \x7d"

end Settings

end AccessGate
