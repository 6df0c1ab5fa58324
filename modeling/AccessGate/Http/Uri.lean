import AccessGate.Http.Token

/-!
# Request targets — the URI of a request as it was sent

A target has one of three forms: a path with a query, a whole URL, or an authority alone. Characters
are checked and the fragment is dropped; nothing is decoded, and the path is kept as it was sent.
-/

namespace AccessGate.Http

/-- The URI of a request. Without a scheme and a path it is an authority alone. -/
structure Uri where
  scheme : Option String
  authority : Option String
  /-- The path as sent; empty when a query or nothing follows the authority. -/
  rawPath : String
  query : Option String
  deriving DecidableEq, Repr, Inhabited

namespace Uri

/-- The path `/`. -/
def root : Uri := ⟨none, none, "/", none⟩

/-- Is there a path, possibly left out? An authority alone has none. -/
def hasPath (u : Uri) : Bool := u.scheme.isSome || !u.rawPath.isEmpty

/-- The path: `/` when it was left out, empty for an authority alone. -/
def path (u : Uri) : String :=
  if u.hasPath then (if u.rawPath.isEmpty then "/" else u.rawPath) else ""

/-- A query with its question mark. -/
def queryPart (u : Uri) : String :=
  match u.query with
  | some q => "?" ++ q
  | none => ""

/-- The path and the query as sent, or `/` when there is neither. -/
def pathAndQuery (u : Uri) : String :=
  let text := u.rawPath ++ u.queryPart
  if text.isEmpty then "/" else text

/-- The whole URI. -/
def text (u : Uri) : String :=
  (match u.scheme with
    | some s => s ++ "://"
    | none => "")
    ++ (u.authority.getD "") ++ u.path ++ u.queryPart

/-- A character of a scheme. -/
def isSchemeChar (c : Char) : Bool := isAlnum c || c == '+' || c == '-' || c == '.' || c == '~'

/-- A character of a path. -/
def isPathChar (c : Char) : Bool :=
  let n := c.toNat
  n == 0x21 || n == 0x22 || (0x24 ≤ n && n ≤ 0x3B) || n == 0x3D || (0x40 ≤ n && n ≤ 0x5F)
    || (0x61 ≤ n && n ≤ 0x7E) || 0x80 ≤ n

/-- A character of a query. -/
def isQueryChar (c : Char) : Bool :=
  let n := c.toNat
  n == 0x21 || (0x24 ≤ n && n ≤ 0x3B) || n == 0x3D || (0x3F ≤ n && n ≤ 0x7E) || 0x80 ≤ n

/-- A character of an authority, other than `%`. -/
def isAuthorityChar (c : Char) : Bool := isAlnum c || "!$&'()*+,-.:;=@[]_~".toList.contains c

/-- Does a character end an authority? -/
def endsAuthority (c : Char) : Bool := c == '/' || c == '?' || c == '#'

/-- What was seen of an authority so far. -/
structure AuthorityScan where
  colons : Nat
  opened : Bool
  closed : Bool
  percent : Bool

/-- Take one more character of an authority. Colons and escapes of the user part or of an address in
    brackets do not count for what follows. -/
def AuthorityScan.step (s : AuthorityScan) (c : Char) : Option AuthorityScan :=
  if c = ':' then if s.colons ≥ 8 then none else some { s with colons := s.colons + 1 }
  else if c = '[' then if s.percent || s.opened then none else some { s with opened := true }
  else if c = ']' then
    if !s.opened || s.closed then none
    else some { s with closed := true, colons := 0, percent := false }
  else if c = '@' then some { s with colons := 0, percent := false }
  else if c = '%' then some { s with percent := true }
  else if isAuthorityChar c then some s
  else none

/-- Is a text an authority? The empty one is. -/
def isAuthority (s : List Char) : Bool :=
  match s.foldlM AuthorityScan.step ⟨0, false, false, false⟩ with
  | some scan =>
    (scan.opened == scan.closed) && scan.colons ≤ 1 && s.getLast? != some '@' && !scan.percent
  | none => false

/-- Read a path and a query; what follows a `#` is dropped. -/
def readTarget (s : List Char) : Option (String × Option String) :=
  let path := s.takeWhile fun c => c != '?' && c != '#'
  if !path.all isPathChar then none
  else
    match s.drop path.length with
    | '?' :: rest =>
      let query := rest.takeWhile (· != '#')
      if query.all isQueryChar then some (String.ofList path, some (String.ofList query)) else none
    | _ => some (String.ofList path, none)

/-- Split off a scheme with its `://`. The web's own schemes are known in any case of letters and are
    kept in small ones. The outer result is empty for a scheme that is too long. -/
def readScheme (s : List Char) : Option (Option (String × List Char)) :=
  let name := s.takeWhile isSchemeChar
  match s.drop name.length with
  | ':' :: '/' :: '/' :: rest =>
    let small := String.ofList (name.map Char.toLower)
    if small = "http" ∨ small = "https" then some (some (small, rest))
    else if name.length > 64 then none
    else some (some (String.ofList name, rest))
  | _ => some none

/-- Read the URI of a request. -/
def read? (text : String) : Option Uri :=
  if text.utf8ByteSize > 65534 then none
  else
    match text.toList with
    | [] => none
    | ['*'] => some ⟨none, none, "*", none⟩
    | '/' :: rest => (readTarget ('/' :: rest)).map fun (path, query) => ⟨none, none, path, query⟩
    | s => do
      match ← readScheme s with
      | none => if isAuthority s then some ⟨none, some text, "", none⟩ else none
      | some (scheme, rest) =>
        let authority := rest.takeWhile fun c => !endsAuthority c
        if authority.isEmpty || !isAuthority authority then none
        else
          let (path, query) ← readTarget (rest.drop authority.length)
          return ⟨some scheme, some (String.ofList authority), path, query⟩

end Uri

end AccessGate.Http
