import AccessGate.Pattern.Property

/-!
# Character classes of patterns — escapes and brackets

Outside and inside brackets a character stands for itself, and a backslash begins an escape: a sign
without its meaning, a control, a number, a class or a test of a position. Brackets hold single
characters, ranges, classes and other brackets, and may be joined by the operators of sets.
-/

namespace AccessGate.Pattern

/-- What was read, with the number of levels to which its parts are nested. -/
structure Nested (α : Type) where
  value : α
  depth : Nat

/-- What is one level deeper. -/
def Nested.deeper {α : Type} (x : Nested α) : Nested α := { x with depth := x.depth + 1 }

/-- The levels of parts that stand side by side. Several parts make a level of their own. -/
def levelOf : List Nat → Nat
  | [] => 0
  | [depth] => depth
  | depths => depths.foldl max 0 + 1

/-- A set, with every character that differs from one of its members by case if case does not count. -/
def Flags.fold (f : Flags) (s : CharSet) : CharSet :=
  if f.ignoreCase then (if f.unicode then .anyCase s else .asciiCase s) else s

/-- One part of a pattern that is no operator. -/
inductive Atom where
  | char (c : Char) (isOctet : Bool)
  | set (s : CharSet)
  | look (l : Look)
  deriving Repr

/-- Signs that have a meaning in patterns. -/
def isMeta (c : Char) : Bool := "\\.+*?()|[]\x7b\x7d^$#&-~".toList.contains c

/-- The value of a hexadecimal digit. -/
def hexDigit? (c : Char) : Option Nat :=
  if '0' ≤ c ∧ c ≤ '9' then some (c.toNat - 48)
  else if 'a' ≤ c ∧ c ≤ 'f' then some (c.toNat - 87)
  else if 'A' ≤ c ∧ c ≤ 'F' then some (c.toNat - 55)
  else none

/-- The character of a number, if there is one. -/
def charOf? (n : Nat) : Option Char := if n.isValidChar then some (Char.ofNat n) else none

/-- Read so many hexadecimal digits. -/
def readHexDigits (f : Flags) : Nat → Nat → List Char → Option (Nat × List Char)
  | 0, acc, s => some (acc, s)
  | n + 1, acc, s =>
    match f.skip s with
    | c :: rest => (hexDigit? c).bind fun d => readHexDigits f n (acc * 16 + d) rest
    | [] => none

/-- Read hexadecimal digits up to a brace; the switch says that there was one already. -/
def readHexBrace (f : Flags) : Nat → Bool → Nat → List Char → Option (Nat × List Char)
  | 0, _, _, _ => none
  | n + 1, some?, acc, s =>
    match f.skip s with
    | '\x7d' :: rest => if some? then some (acc, rest) else none
    | c :: rest =>
      (hexDigit? c).bind fun d =>
        if acc * 16 + d < UInt32.size then readHexBrace f n true (acc * 16 + d) rest else none
    | [] => none

/-- Read a character's number after `x`, `u` or `U`. Two digits stand for an octet if they can. -/
def readHexEscape (f : Flags) (width : Nat) (s : List Char) : Option (Atom × List Char) :=
  match f.skip s with
  | '\x7b' :: rest => do
    let (n, rest) ← readHexBrace f (rest.length + 1) false 0 rest
    return (.char (← charOf? n) false, rest)
  | digits => do
    let (n, rest) ← readHexDigits f width 0 digits
    return (.char (← charOf? n) (width == 2), rest)

/-- Read a class by a property of its characters, after its letter. -/
def readProperty (f : Flags) (negated : Bool) (s : List Char) : Option (Atom × List Char) := do
  let (property, rest) ← Property.read? f s
  let chars ← if f.unicode then f.property? f.ignoreCase property else none
  return (.set (if negated then .compl chars else chars), rest)

/-- The characters of the short class escapes. -/
def shortClass (f : Flags) (c : Char) : CharSet :=
  if c = 'd' then (if f.unicode then .digit else .asciiDigit)
  else if c = 's' then (if f.unicode then .blank else .asciiBlank)
  else (if f.unicode then .word else .asciiWord)

/-- A test by its name in braces after a word edge. -/
def namedEdge? (word : CharSet) (name : String) : Option Look :=
  if name = "start" then some (.wordStart word)
  else if name = "end" then some (.wordEnd word)
  else if name = "start-half" then some (.halfStart word)
  else if name = "end-half" then some (.halfEnd word)
  else none

/-- May a character stand in the name of a test? -/
def isEdgeChar (c : Char) : Bool := ('a' ≤ c && c ≤ 'z') || ('A' ≤ c && c ≤ 'Z') || c == '-'

/-- Read the name of a test up to its brace. -/
def readEdgeName (f : Flags) : Nat → List Char → Option (List Char × List Char)
  | 0, _ => none
  | n + 1, s =>
    match s with
    | '\x7d' :: rest => some ([], rest)
    | c :: rest =>
      if isEdgeChar c then (readEdgeName f n (f.skip rest)).map fun (name, more) => (c :: name, more)
      else none
    | [] => none

/-- Read what may follow the escape of a word edge. -/
def readEdge (f : Flags) (word : CharSet) (s : List Char) : Option (Atom × List Char) :=
  match s with
  | '\x7b' :: rest =>
    match f.skip rest with
    | [] => none
    | c :: more =>
      if isEdgeChar c then do
        let (name, last) ← readEdgeName f (rest.length + 1) (c :: more)
        return (.look (← namedEdge? word (String.ofList name)), last)
      else some (.look (.wordEdge word), s)
  | _ => some (.look (.wordEdge word), s)

/-- The control that a letter stands for. -/
def controlEscape? (c : Char) : Option Char :=
  if c = 'a' then some '\x07'
  else if c = 'f' then some '\x0c'
  else if c = 't' then some '\t'
  else if c = 'n' then some '\n'
  else if c = 'r' then some '\r'
  else if c = 'v' then some '\x0b'
  else none

/-- Read an escape after its backslash. -/
def readEscape (f : Flags) : List Char → Option (Atom × List Char)
  | [] => none
  | c :: rest =>
    let word := shortClass f 'w'
    if c = 'x' then readHexEscape f 2 rest
    else if c = 'u' then readHexEscape f 4 rest
    else if c = 'U' then readHexEscape f 8 rest
    else if c = 'p' ∨ c = 'P' then readProperty f (c == 'P') rest
    else if c = 'd' ∨ c = 's' ∨ c = 'w' then some (.set (shortClass f c), rest)
    else if c = 'D' ∨ c = 'S' ∨ c = 'W' then
      if f.unicode then some (.set (.compl (shortClass f (Char.ofNat (c.toNat + 32)))), rest)
      else none
    else if isMeta c then some (.char c false, rest)
    else if c.toNat < 128 && !c.isAlphanum && c != '<' && c != '>' then some (.char c false, rest)
    else if c = 'A' then some (.look .textStart, rest)
    else if c = 'z' then some (.look .textEnd, rest)
    else if c = 'b' then readEdge f word rest
    else if c = 'B' then some (.look (.noWordEdge word), rest)
    else if c = '<' then some (.look (.wordStart word), rest)
    else if c = '>' then some (.look (.wordEnd word), rest)
    else (controlEscape? c).map fun d => (.char d false, rest)

/-- The characters of a class that has a name. -/
def namedClass? (name : String) : Option (List (Nat × Nat)) :=
  if name = "alnum" then some [(48, 57), (65, 90), (97, 122)]
  else if name = "alpha" then some [(65, 90), (97, 122)]
  else if name = "ascii" then some [(0, 127)]
  else if name = "blank" then some [(9, 9), (32, 32)]
  else if name = "cntrl" then some [(0, 31), (127, 127)]
  else if name = "digit" then some [(48, 57)]
  else if name = "graph" then some [(33, 126)]
  else if name = "lower" then some [(97, 122)]
  else if name = "print" then some [(32, 126)]
  else if name = "punct" then some [(33, 47), (58, 64), (91, 96), (123, 126)]
  else if name = "space" then some [(9, 13), (32, 32)]
  else if name = "upper" then some [(65, 90)]
  else if name = "word" then some [(48, 57), (65, 90), (95, 95), (97, 122)]
  else if name = "xdigit" then some [(48, 57), (65, 70), (97, 102)]
  else none

/-- Read a class by its name, after its first bracket. -/
def readNamedClass (f : Flags) : List Char → Option (CharSet × List Char)
  | ':' :: s => do
    let (negated, s) := match s with
      | '^' :: more => (true, more)
      | more => (false, more)
    let name := s.takeWhile (· != ':')
    let ranges ← namedClass? (String.ofList name)
    match s.drop name.length with
    | ':' :: ']' :: rest =>
      let chars := f.fold (.ranges ranges)
      return (if negated then .compl chars else chars, rest)
    | _ => none
  | _ => none

/-- Which of the characters outside ASCII are in a set: all, none, or an unknown part. -/
def highPart : CharSet → Option Bool
  | .ranges list =>
    if list.all fun r => r.2 < 128 then some false
    else if list.any fun r => r.1 ≤ 128 && 255 ≤ r.2 then some true
    else none
  | .kinds _ | .blank => none
  | .union a b =>
    if highPart a = some true ∨ highPart b = some true then some true
    else if highPart a = some false ∧ highPart b = some false then some false
    else none
  | .inter a b =>
    if highPart a = some false ∨ highPart b = some false then some false
    else if highPart a = some true ∧ highPart b = some true then some true
    else none
  | .compl a => (highPart a).map not
  | .anyCase a | .asciiCase a => highPart a

/-- A set that may stand in a pattern: without the characters of all scripts, one of ASCII only. -/
def Flags.admit? (f : Flags) (s : CharSet) : Option CharSet :=
  if f.unicode || highPart s = some false then some s else none

/-- The operators between the sets of a bracket. -/
inductive SetOperator where
  | inter
  | diff
  | symmDiff

/-- What comes of the sets before and after an operator. -/
def SetOperator.apply : SetOperator → CharSet → CharSet → CharSet
  | .inter, a, b => .inter a b
  | .diff, a, b => .diff a b
  | .symmDiff, a, b => .symmDiff a b

/-- What was read so far of a bracket: whether it is negated, what stands before the last operator, the
    characters behind that and the levels of each item of them, last first, and whether only signs were
    read that stand for themselves at the start. -/
structure Bracket where
  negated : Bool
  before : Option (SetOperator × Nested CharSet)
  found : CharSet
  depths : List Nat
  opening : Bool

namespace Bracket

/-- A bracket behind its opening. -/
def opened (negated : Bool) : Bracket := ⟨negated, none, .noChar, [], true⟩

/-- Add an item. -/
def add (b : Bracket) (x : Nested CharSet) : Bracket :=
  { b with found := .union b.found x.value, depths := x.depth :: b.depths, opening := false }

/-- Does a sign stand for itself because of its place at the start? -/
def takes (b : Bracket) (c : Char) : Bool := b.opening && (c == '-' || (c == ']' && b.depths.isEmpty))

/-- Add a sign that stands for itself. Dashes may be followed by further ones. -/
def take (b : Bracket) (c : Char) : Bracket := { b.add ⟨.single c, 0⟩ with opening := c == '-' }

/-- The characters of all that was read. -/
def chars (b : Bracket) : Nested CharSet :=
  match b.before with
  | none => ⟨b.found, levelOf b.depths⟩
  | some (operator, a) => ⟨operator.apply a.value b.found, max a.depth (levelOf b.depths) + 1⟩

/-- Go on behind an operator. -/
def join (b : Bracket) (operator : SetOperator) : Bracket :=
  ⟨b.negated, some (operator, b.chars), .noChar, [], false⟩

/-- The set of a bracket that is closed, which is one level deeper than what stands in it. -/
def close? (f : Flags) (b : Bracket) : Option (Nested CharSet) :=
  (f.admit? (if b.negated then .compl b.chars.value else b.chars.value)).map fun chars =>
    ⟨chars, b.chars.depth + 1⟩

end Bracket

/-- Read one character or class of a bracket. -/
def readItem (f : Flags) : List Char → Option (Atom × List Char)
  | '\\' :: rest => readEscape f rest
  | c :: rest => some (.char c false, rest)
  | [] => none

/-- Read one item or one range of a bracket. -/
def readRange (f : Flags) (s : List Char) : Option (CharSet × List Char) := do
  let (first, s) ← readItem f s
  let plain := match f.skip s with
    | '-' :: rest =>
      match f.skip rest with
      | ']' :: _ | '-' :: _ => true
      | _ => false
    | _ => true
  match f.skip s with
  | [] => none
  | next =>
    if plain then
      match first with
      | .char c _ =>
        if !f.unicode && c.toNat > 127 then none
        else return (f.fold (.single c), next)
      | .set chars => return (chars, next)
      | .look _ => none
    else
      let (second, rest) ← readItem f (f.skip (next.drop 1))
      match first, second with
      | .char a _, .char b _ =>
        if b < a || (!f.unicode && b.toNat > 127) then none
        else return (f.fold (.ranges [(a.toNat, b.toNat)]), rest)
      | _, _ => none

/-- Whether a bracket is negated, and what stands behind the sign for it. -/
def readNegation (f : Flags) (s : List Char) : Bool × List Char :=
  match f.skip s with
  | '^' :: rest => (true, rest)
  | s => (false, s)

/-- Read a bracket behind its opening; the number bounds the steps. -/
def readBracket (f : Flags) : Nat → Bracket → List Char → Option (Nested CharSet × List Char)
  | 0, _, _ => none
  | n + 1, b, s =>
    match f.skip s with
    | [] => none
    | c :: rest =>
      if b.takes c then readBracket f n (b.take c) rest
      else
        match c, rest with
        | ']', rest => (b.close? f).map fun chars => (chars, rest)
        | '[', rest =>
          match readNamedClass f rest with
          | some (chars, rest) =>
            (f.admit? chars).bind fun chars => readBracket f n (b.add ⟨chars, 0⟩) rest
          | none =>
            let (negated, inner) := readNegation f rest
            (readBracket f n (.opened negated) inner).bind fun (chars, rest) =>
              readBracket f n (b.add chars) rest
        | '&', '&' :: rest => readBracket f n (b.join .inter) rest
        | '-', '-' :: rest => readBracket f n (b.join .diff) rest
        | '~', '~' :: rest => readBracket f n (b.join .symmDiff) rest
        | c, rest =>
          (readRange f (c :: rest)).bind fun (chars, rest) => readBracket f n (b.add ⟨chars, 0⟩) rest

/-- Read a class after its opening bracket. -/
def readClass (f : Flags) (s : List Char) : Option (Nested CharSet × List Char) :=
  let (negated, inner) := readNegation f s
  readBracket f (s.length + 1) (.opened negated) inner

end AccessGate.Pattern
