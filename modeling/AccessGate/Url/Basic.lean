import AccessGate.Encoding.Form
import AccessGate.Url.Address

/-!
# URLs — where a login page is

A URL is a scheme and a path, possibly with an authority before the path and a query and a fragment after
it. Its components hold their written forms. Appending a pair to the query changes nothing else.
-/

namespace AccessGate

namespace Url

/-- A host: a name or an address. -/
inductive Host where
  | name (text : String)
  | ipv4 (address : Nat)
  | ipv6 (groups : List Nat)
  deriving DecidableEq, Repr

/-- The written form of a host. -/
def Host.text : Host → String
  | .name text => text
  | .ipv4 address => String.ofList (Ipv4.write address)
  | .ipv6 groups => String.ofList ('[' :: Ipv6.write groups ++ [']'])

/-- Who answers at a URL: possibly as whom, at which host, and at which port if it is not the usual
    one. -/
structure Authority where
  user : Option String
  host : Option Host
  port : Option Nat
  deriving DecidableEq, Repr

/-- The authority that says nothing. -/
def Authority.nobody : Authority := ⟨none, none, none⟩

/-- The written form of an authority. -/
def Authority.text (a : Authority) : String :=
  (match a.user with
    | some user => user ++ "@"
    | none => "")
    ++ ((a.host.map Host.text).getD "")
    ++ match a.port with
      | some port => ":" ++ toString port
      | none => ""

/-- A path: segments, each after a slash, or a text in which slashes have no meaning. -/
inductive Path where
  | segments (list : List String)
  | plain (text : String)
  deriving DecidableEq, Repr

/-- The written form of a path. -/
def Path.text : Path → String
  | .segments list => String.join (list.map ("/" ++ ·))
  | .plain text => text

end Url

/-- A URL. -/
structure Url where
  scheme : String
  authority : Option Url.Authority
  path : Url.Path
  query : Option String
  fragment : Option String
  deriving DecidableEq, Repr

namespace Url

/-- What stands before a path without an authority: a path that starts with an empty segment must not be
    taken for an authority. -/
def guardText : Path → String
  | .segments ("" :: _ :: _) => "/."
  | _ => ""

/-- The written form of an optional component after its sign. -/
def partText (sign : String) : Option String → String
  | some text => sign ++ text
  | none => ""

/-- The whole URL. -/
def text (u : Url) : String :=
  u.scheme ++ ":"
    ++ (match u.authority with
      | some a => "//" ++ a.text
      | none => guardText u.path)
    ++ u.path.text ++ partText "?" u.query ++ partText "#" u.fragment

/-- A query with one more pair. -/
def extendQuery (query : Option String) (pair : String × String) : String :=
  let written := String.ofList (Encoding.Form.encodePair pair)
  match query with
  | none => written
  | some text => if text.isEmpty then written else text ++ "&" ++ written

/-- Append a pair to the query. -/
def addPair (u : Url) (pair : String × String) : Url :=
  { u with query := some (extendQuery u.query pair) }

/-- Append pairs to the query. -/
def addPairs (u : Url) (pairs : List (String × String)) : Url := pairs.foldl addPair u

end Url

end AccessGate
