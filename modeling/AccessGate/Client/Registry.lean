import AccessGate.Client.Basic
import AccessGate.Text.Fold
import AccessGate.Text.NameList
import AccessGate.Text.Quoted

/-!
# The client registry — which clients take part in a decision

Client names are unique up to ASCII case. A decision names its clients in a list; when it names none the
registry's own list counts, and when that is blank too every client takes part. A parameter of the
request may narrow the choice further, never widen it.
-/

namespace AccessGate

/-- Check names one after the other against those before them, the last one first. -/
def ClientRegistry.checkNames (seen : List String) : List String → Except ConfigError Unit
  | [] => .ok ()
  | name :: rest =>
    if Text.isBlankText name then .error .blankClientName
    else
      match seen.find? (Text.sameName name) with
      | some existing => .error (.duplicateClient name existing)
      | none => checkNames (name :: seen) rest

/-- The registered clients in order, and the list of names that counts when a decision has none.  There
    is no registry of clients whose names do not pass the check. -/
structure ClientRegistry where
  clients : List Client
  defaults : Option String
  checked : ClientRegistry.checkNames [] (clients.map Client.name) = .ok () := by rfl

namespace ClientRegistry

/-- Register clients; a blank or repeated name is refused. -/
def ofClients (clients : List Client) : Except Error ClientRegistry :=
  match h : checkNames [] (clients.map Client.name) with
  | .ok _ => .ok ⟨clients, none, h⟩
  | .error cause => .error (.config cause)

/-- The registered names, in order. -/
def names (r : ClientRegistry) : List String := r.clients.map Client.name

/-- The client of a name, up to ASCII case. -/
def find? (r : ClientRegistry) (name : String) : Option Client :=
  r.clients.find? fun c => Text.sameName c.name name

/-- The client of a name, or the error that there is none. -/
def lookUp (r : ClientRegistry) (name : String) : Except Error Client :=
  match r.find? name with
  | some c => .ok c
  | none => .error (.config (.unknownClient name))

/-- The clients of a list of names: that of the decision, that of the registry, or all of them. -/
def listed (r : ClientRegistry) (list : Option String) : Except Error (List Client) :=
  match Text.nonBlank list <|> Text.nonBlank r.defaults with
  | some text => (Text.names text).mapM r.lookUp
  | none => .ok r.clients

/-- Keep the clients that a parameter names. -/
def narrow (clients : List Client) (requested : Option String) : List Client :=
  match Text.nonBlank requested with
  | some text => clients.filter fun c => (Text.names text).any (Text.sameName c.name)
  | none => clients

/-- The clients that take part in a decision. -/
def resolve (r : ClientRegistry) (parameter : String) (request : Request) (list : Option String) :
    Except Error (List Client) :=
  if r.clients.isEmpty then .error (.config .noClient)
  else (r.listed list).map fun clients => narrow clients (request.parameter? parameter)

/-- How a list of names is shown. -/
def describeNames (names : List String) : String :=
  "[" ++ String.intercalate ", " (names.map Text.quoted) ++ "]"

/-- How a registry is shown. -/
def describe (r : ClientRegistry) : String :=
  "Clients \x7b clients: " ++ describeNames r.names ++ ", default_security_clients: "
    ++ (match r.defaults with
      | some text => "Some(" ++ Text.quoted text ++ ")"
      | none => "None")
    ++ " \x7d"

end ClientRegistry

end AccessGate
