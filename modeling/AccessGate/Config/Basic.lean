import AccessGate.Client.Registry
import AccessGate.Config.Settings
import AccessGate.Rule.Authorizer
import AccessGate.Rule.Matcher

/-!
# Configurations — all that a gate is put together from

A configuration holds the clients, the named rules and the settings. Its summary is a readable account
of it, and may come from elsewhere as JSON.
-/

namespace AccessGate

/-- The parts of a gate. -/
structure Config where
  clients : Option ClientRegistry
  authorizers : RuleRegistry Authorizer
  matchers : RuleRegistry Matcher
  settings : Settings

/-- A readable account of a configuration. -/
structure ConfigSummary where
  clients : List String
  defaultClients : Option String
  authorizers : List String
  matchers : List String
  multiProfile : Bool
  saveDirect : Bool
  redirectScripts : Bool
  clientParameter : String
  deriving DecidableEq, Repr

namespace ConfigSummary

/-- The fields of the wire form in order. -/
def fields : List String :=
  ["clients", "default_security_clients", "authorizers", "matchers", "multi_profile",
    "save_direct_profiles_in_session", "redirect_ajax_requests", "client_name_parameter"]

/-- The wire form. -/
def toJson (s : ConfigSummary) : Json :=
  .obj [("authorizers", .arr (s.authorizers.map .str)),
    ("client_name_parameter", .str s.clientParameter), ("clients", .arr (s.clients.map .str)),
    ("default_security_clients", match s.defaultClients with
      | some text => .str text
      | none => .null),
    ("matchers", .arr (s.matchers.map .str)), ("multi_profile", .bool s.multiProfile),
    ("redirect_ajax_requests", .bool s.redirectScripts),
    ("save_direct_profiles_in_session", .bool s.saveDirect)]

/-- Read a wire form. -/
def ofJson? (value : Json) : Option ConfigSummary := do
  let r ← value.record? fields
  return {
    clients := ← r.required "clients" Json.texts?
    defaultClients := ← r.optional "default_security_clients" Json.text?
    authorizers := ← r.required "authorizers" Json.texts?
    matchers := ← r.required "matchers" Json.texts?
    multiProfile := ← r.required "multi_profile" Json.bool?
    saveDirect := ← r.required "save_direct_profiles_in_session" Json.bool?
    redirectScripts := ← r.required "redirect_ajax_requests" Json.bool?
    clientParameter := ← r.required "client_name_parameter" Json.text? }

/-- Names with commas between them. -/
def listText (names : List String) : String :=
  if names.isEmpty then "-" else String.intercalate ", " names

/-- A switch. -/
def switchText (on : Bool) : String := if on then "✓ Enabled" else "✗ Disabled"

/-- The account. -/
def text (s : ConfigSummary) : String :=
  "Warden Security Configuration Summary:\n  Clients: " ++ listText s.clients
    ++ "\n  Default Clients: " ++ s.defaultClients.getD "all"
    ++ "\n  Authorizers: " ++ listText s.authorizers
    ++ "\n  Matchers: " ++ listText s.matchers
    ++ "\n  Multi-Profile: " ++ switchText s.multiProfile
    ++ "\n  Direct Profiles In Session: " ++ switchText s.saveDirect
    ++ "\n  AJAX Redirects: " ++ switchText s.redirectScripts
    ++ "\n  Client Parameter: " ++ s.clientParameter

end ConfigSummary

namespace Config

/-- Check the settings and the registry. -/
def check (c : Config) : Except Error Unit :=
  match c.settings.check with
  | .error e => .error e
  | .ok _ =>
    match c.clients with
    | some r => if r.clients.isEmpty then .error (.config .noClient) else .ok ()
    | none => .error (.config .noClient)

/-- The names of a registry in order of the alphabet. -/
def sortedNames {α : Type} (r : RuleRegistry α) : List String :=
  (NameSet.ofList (r.map Prod.fst)).names

/-- The account of a configuration. -/
def summary (c : Config) : ConfigSummary where
  clients := (c.clients.map ClientRegistry.names).getD []
  defaultClients := c.clients.bind ClientRegistry.defaults
  authorizers := sortedNames c.authorizers
  matchers := sortedNames c.matchers
  multiProfile := c.settings.multiProfile
  saveDirect := c.settings.saveDirect
  redirectScripts := c.settings.redirectScripts
  clientParameter := c.settings.clientParameter

/-- How a configuration is shown. -/
def describe (c : Config) : String :=
  "Config \x7b clients: "
    ++ (match c.clients with
      | some r => "Some(" ++ r.describe ++ ")"
      | none => "None")
    ++ ", authorizers: " ++ ClientRegistry.describeNames (sortedNames c.authorizers)
    ++ ", matchers: " ++ ClientRegistry.describeNames (sortedNames c.matchers)
    ++ ", settings: " ++ c.settings.describe ++ " \x7d"

end Config

end AccessGate
