import AccessGate.Url.Basic
import AccessGate.Url.Component
import AccessGate.Url.Domain.Basic
import AccessGate.Url.Fault

/-!
# Reading URLs

Reading is forgiving about form and strict about hosts and ports. Blanks around the text do not count,
the schemes of the web take a backslash for a slash and any number of them before the authority, and the
segments `.` and `..` of a path are resolved. A text without a scheme is no URL, for there is nothing that
it could be relative to.
-/

namespace AccessGate.Url

/-- What kind of rules a scheme follows. -/
inductive SchemeKind where
  /-- A scheme of the web, with the port that it uses when none is given. -/
  | web (port : Nat)
  | file
  | other
  deriving DecidableEq, Repr

/-- The rules of a scheme. -/
def kindOf (scheme : String) : SchemeKind :=
  if scheme = "http" ∨ scheme = "ws" then .web 80
  else if scheme = "https" ∨ scheme = "wss" then .web 443
  else if scheme = "ftp" then .web 21
  else if scheme = "file" then .file
  else .other

/-- Does the scheme take a backslash for a slash? -/
def SchemeKind.isSpecial (k : SchemeKind) : Bool := k ≠ .other

/-- Does a character part segments? -/
def SchemeKind.isSlash (k : SchemeKind) (c : Char) : Bool := c == '/' || (k.isSpecial && c == '\\')

/-- A character that does not count at the ends of a text. -/
def isEnd (c : Char) : Bool := c.toNat ≤ 0x20

/-- A character that does not count anywhere. -/
def isIgnored (c : Char) : Bool := c == '\t' || c == '\n' || c == '\r'

/-- The characters of a text that count. -/
def strip (s : List Char) : List Char :=
  (((s.dropWhile isEnd).reverse.dropWhile isEnd).reverse).filter fun c => !isIgnored c

/-- An ASCII letter. -/
def isLetter (c : Char) : Bool := ('a' ≤ c && c ≤ 'z') || ('A' ≤ c && c ≤ 'Z')

/-- A character of a scheme. -/
def isSchemeChar (c : Char) : Bool :=
  isLetter c || ('0' ≤ c && c ≤ '9') || c == '+' || c == '-' || c == '.'

/-- Read a scheme with its colon; it starts with a letter. -/
def readScheme (s : List Char) : Option (String × List Char) :=
  let name := s.takeWhile isSchemeChar
  match name, s.drop name.length with
  | first :: _, ':' :: rest =>
    if isLetter first then some (String.ofList (name.map Char.toLower), rest) else none
  | _, _ => none

/-- Split at the first of a sign. -/
def splitAtSign (sign : Char) (s : List Char) : List Char × Option (List Char) :=
  let head := s.takeWhile (· != sign)
  (head, if head.length < s.length then some (s.drop (head.length + 1)) else none)

/-- Split at the last of a sign. -/
def splitAtLastSign (sign : Char) (s : List Char) : Option (List Char × List Char) :=
  let tail := (s.reverse.takeWhile (· != sign)).reverse
  if tail.length < s.length then some (s.take (s.length - tail.length - 1), tail) else none

/-- The written form of a user name and a password. Empty ones are left out. -/
def readUser (s : List Char) : Option String :=
  let (name, password) := splitAtSign ':' s
  let password := password.getD []
  let name := encode userSigns name
  if name.isEmpty && password.isEmpty then none
  else if password.isEmpty then some (String.ofList name)
  else some (String.ofList (name ++ ':' :: encode userSigns password))

/-- The end of a host: a colon outside brackets. The switch says that a bracket is open. -/
def splitHost : Bool → List Char → List Char × List Char
  | _, [] => ([], [])
  | inBrackets, c :: rest =>
    if c = ':' ∧ inBrackets = false then ([], c :: rest)
    else
      let (host, after) := splitHost (if c = '[' then true else if c = ']' then false else inBrackets) rest
      (c :: host, after)

/-- Read an address in brackets. -/
def readBracketed (s : List Char) : Except Fault Host :=
  match s.reverse with
  | ']' :: inner =>
    match Ipv6.read? inner.reverse with
    | some groups => .ok (.ipv6 groups)
    | none => .error .ipv6
  | _ => .error .ipv6

/-- Read the host of a scheme of the web. -/
def readWebHost (s : List Char) : Except Fault Host :=
  match s with
  | '[' :: inner => readBracketed inner
  | _ =>
    match Domain.ofChars? s with
    | none => .error .domainName
    | some domain =>
      if domain.isEmpty then .error .emptyHost
      else if Ipv4.isMeant domain then
        match Ipv4.read? domain with
        | some address => .ok (.ipv4 address)
        | none => .error .ipv4
      else .ok (.name (String.ofList domain))

/-- A character that cannot stand in a host of any scheme. -/
def isBadHostChar (c : Char) : Bool := c == '\x00' || " #/:<>?@[\\]^|".toList.contains c

/-- Read the host of another scheme. -/
def readOtherHost (s : List Char) : Except Fault Host :=
  match s with
  | '[' :: inner => readBracketed inner
  | _ =>
    if s.any isBadHostChar then .error .domainCharacter else .ok (.name (String.ofList (encode [] s)))

/-- Read a port with its colon, and what follows it. -/
def readPort (usual : Option Nat) : List Char → Except Fault (Option Nat × List Char)
  | ':' :: s =>
    let digits := s.takeWhile Char.isDigit
    let rest := s.drop digits.length
    let port := (number? 10 digits).getD 0
    if port > 65535 then .error .port
    else
      match rest with
      | [] | '/' :: _ | '\\' :: _ =>
        .ok (if digits.isEmpty || some port == usual then none else some port, rest)
      | _ => .error .port
  | s => .ok (none, s)

/-- Read an authority; the result has what follows it. -/
def readAuthority (kind : SchemeKind) (s : List Char) : Except Fault (Authority × List Char) := do
  let whole := s.takeWhile fun c => !kind.isSlash c
  let path := s.drop whole.length
  let (user, place, seen) := match splitAtLastSign '@' whole with
    | some (user, place) => (readUser user, place, true)
    | none => (none, whole, false)
  if seen && whole.length == place.length + 1 && place.isEmpty && !path.isEmpty then
    throw .emptyHost
  let (host, after) := splitHost false place
  match kind with
  | .web port =>
    if host.isEmpty then throw .emptyHost
    let host ← readWebHost host
    let (port, after) ← readPort (some port) after
    return (⟨user, some host, port⟩, after ++ path)
  | _ =>
    let name ← readOtherHost host
    if host.isEmpty && (!after.isEmpty || user.isSome) then throw .emptyHost
    let (port, after) ← readPort none after
    return (⟨user, if host.isEmpty then none else some name, port⟩, after ++ path)

/-- A segment that stands for its own place. -/
def isHere (s : List Char) : Bool :=
  let s := String.ofList (s.map Char.toLower)
  s == "." || s == "%2e"

/-- A segment that stands for the place above. -/
def isAbove (s : List Char) : Bool :=
  let s := String.ofList (s.map Char.toLower)
  s == ".." || s == ".%2e" || s == "%2e." || s == "%2e%2e"

/-- A letter with a colon or a bar, which names a drive. -/
def isDrive (s : List Char) : Bool :=
  match s with
  | [letter, sign] => isLetter letter && (sign == ':' || sign == '|')
  | _ => false

/-- Go to the place above; the drive of a file stays. Places are listed last first. -/
def goUp (isFile : Bool) : List (List Char) → List (List Char)
  | [] => []
  | [place] => if isFile && isDrive place then [place] else []
  | _ :: above => above

/-- Go to a place. The first place of a file may be a drive, which is written with a colon. -/
def goDown (isFile : Bool) (places : List (List Char)) (segment : List Char) : List (List Char) :=
  if isFile && places.isEmpty && isDrive segment then [segment.take 1 ++ [':']] else segment :: places

/-- Resolve segments; the places before them are listed last first. A path that ends in a dot segment
    ends in a slash. -/
def resolve (isFile : Bool) (places : List (List Char)) : List (List Char) → List (List Char)
  | [] => places.reverse
  | [last] =>
    if isAbove last then ([] :: goUp isFile places).reverse
    else if isHere last then ([] :: places).reverse
    else (goDown isFile places last).reverse
  | segment :: rest =>
    if isAbove segment then resolve isFile (goUp isFile places) rest
    else if isHere segment then resolve isFile places rest
    else resolve isFile (goDown isFile places segment) rest

/-- Read the path that follows an authority, or that starts with a slash. Empty segments at the start of a
    file's path do not count. -/
def readPath (kind : SchemeKind) (s : List Char) : Path :=
  let inner := match s with
    | c :: rest => if kind.isSlash c then rest else s
    | [] => []
  let places := resolve (kind == .file) [] (inner.splitOnP kind.isSlash)
  let places := if kind == .file then
      match places.dropWhile List.isEmpty with
      | [] => [[]]
      | some_ => some_
    else places
  .segments (places.map fun place => String.ofList (encode pathSigns place))

/-- Read what follows a scheme of the web. -/
def readWeb (kind : SchemeKind) (s : List Char) : Except Fault (Option Authority × Path) := do
  let (authority, path) ← readAuthority kind (s.dropWhile kind.isSlash)
  return (some authority, readPath kind path)

/-- Read what follows the scheme of a file. Its host may be missing, and `localhost` is no host. -/
def readFile (s : List Char) : Except Fault (Option Authority × Path) := do
  let kind := SchemeKind.file
  match s with
  | a :: b :: rest =>
    if kind.isSlash a && kind.isSlash b then
      let place := rest.takeWhile fun c => !kind.isSlash c
      if place.isEmpty || isDrive place then return (some .nobody, readPath kind rest)
      else
        let host ← readWebHost place
        let host := if host = .name "localhost" then none else some host
        return (some { Authority.nobody with host := host }, readPath kind (rest.drop place.length))
    else return (some .nobody, readPath kind s)
  | _ => return (some .nobody, readPath kind s)

/-- Read what follows another scheme. -/
def readOther (s : List Char) : Except Fault (Option Authority × Path) := do
  match s with
  | '/' :: '/' :: rest =>
    let (authority, path) ← readAuthority .other rest
    return (some authority, if path.isEmpty then .segments [] else readPath .other path)
  | '/' :: rest => return (none, readPath .other ('/' :: rest))
  | _ => return (none, .plain (String.ofList (encode [] s)))

/-- Read a URL. -/
def read (text : String) : Except Fault Url :=
  match readScheme (strip text.toList) with
  | none => .error .noBase
  | some (scheme, rest) => do
    let (rest, fragment) := splitAtSign '#' rest
    let (rest, query) := splitAtSign '?' rest
    let kind := kindOf scheme
    let (authority, path) ← match kind with
      | .web _ => readWeb kind rest
      | .file => readFile rest
      | .other => readOther rest
    return {
      scheme
      authority
      path
      query := query.map fun s => String.ofList (encode (querySigns kind.isSpecial) s)
      fragment := fragment.map fun s => String.ofList (encode fragmentSigns s) }

end AccessGate.Url
