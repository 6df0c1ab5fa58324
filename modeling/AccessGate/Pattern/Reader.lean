import AccessGate.Pattern.Class

/-!
# Reading patterns

A pattern is a choice of sequences of parts; a part may be repeated. Groups may set how their text is
read, and flags without a group hold up to the end of the group in which they stand. A text that breaks
a rule is no pattern.
-/

namespace AccessGate.Pattern

/-- What was read so far of the body of a group: the flags, the names of groups, the choices that are
    complete, and the parts of the current one, both last first. Flags that stand where a part could
    are an empty part, which cannot be repeated. -/
structure Body where
  flags : Flags
  names : List String
  choices : List (Nested Pattern)
  parts : List (Nested (Option Pattern))

/-- The sequence of parts. -/
def seqOf : List (Option Pattern) → Pattern
  | [] => .empty
  | [some p] => p
  | none :: rest => seqOf rest
  | some p :: rest => .seq p (seqOf rest)

namespace Body

/-- The current choice. -/
def choice (b : Body) : Nested Pattern :=
  ⟨seqOf (b.parts.reverse.map (·.value)), levelOf (b.parts.map (·.depth))⟩

/-- The pattern of a body. -/
def pattern (b : Body) : Nested Pattern :=
  ⟨b.choices.foldl (fun later earlier => .alt earlier.value later) b.choice.value,
    levelOf (b.choice.depth :: b.choices.map (·.depth))⟩

/-- Close the current choice. -/
def nextChoice (b : Body) : Body := { b with choices := b.choice :: b.choices, parts := [] }

/-- Add a part. -/
def push (b : Body) (p : Nested Pattern) : Body :=
  { b with parts := ⟨some p.value, p.depth⟩ :: b.parts }

/-- Add a part in which nothing is nested. -/
def pushFlat (b : Body) (p : Pattern) : Body := b.push ⟨p, 0⟩

/-- Change the flags for what follows. -/
def setFlags (b : Body) (f : Flags) : Body := { b with flags := f, parts := ⟨none, 0⟩ :: b.parts }

/-- Repeat the last part, if there is one. -/
def repeatLast (b : Body) (least : Nat) (most : Option Nat) : Option Body :=
  match b.parts with
  | ⟨some p, depth⟩ :: rest => some { b with parts := ⟨some (.many p least most), depth + 1⟩ :: rest }
  | _ => none

end Body

/-- Drop a mark after a repetition that only says which match is preferred. -/
def dropPreference : List Char → List Char
  | '?' :: rest => rest
  | s => s

/-- A mark of preference may stand apart from the bounds of a repetition. -/
def skipPreference (f : Flags) (s : List Char) : List Char :=
  match f.skip s with
  | '?' :: rest => rest
  | _ => s

/-- Read the digits of a number up to another sign; the first number bounds the steps. -/
def readDigits (f : Flags) : Nat → Nat → List Char → Option (Nat × List Char)
  | 0, _, _ | _ + 1, _, [] => none
  | n + 1, acc, c :: rest =>
    if c.isDigit then readDigits f n (acc * 10 + (c.toNat - 48)) (f.skip rest)
    else some (acc, c :: rest)

/-- Read a number between blanks. -/
def readCount (f : Flags) (s : List Char) : Option (Nat × List Char) :=
  match s.dropWhile Text.isBlank with
  | [] => none
  | c :: rest =>
    if c.isDigit then
      (readDigits f (rest.length + 1) (c.toNat - 48) (f.skip rest)).bind fun (n, rest) =>
        if n < UInt32.size then some (n, rest.dropWhile Text.isBlank) else none
    else none

/-- Read the bounds of a repetition after its brace. -/
def readBounds (f : Flags) (s : List Char) : Option (Nat × Option Nat × List Char) := do
  let (least, s) ← readCount f (f.skip s)
  match s with
  | '\x7d' :: rest => return (least, some least, rest)
  | ',' :: rest =>
    match f.skip rest with
    | '\x7d' :: rest => return (least, none, rest)
    | s =>
      let (most, s) ← readCount f s
      match s with
      | '\x7d' :: rest => if least ≤ most then return (least, some most, rest) else none
      | _ => none
  | _ => none

/-- Switch a flag. -/
def Flags.switch? (f : Flags) (on : Bool) (c : Char) : Option Flags :=
  if c = 'i' then some { f with ignoreCase := on }
  else if c = 'm' then some { f with multiLine := on }
  else if c = 's' then some { f with dotAll := on }
  else if c = 'u' then some { f with unicode := on }
  else if c = 'x' then some { f with verbose := on }
  else if c = 'R' then some { f with crlf := on }
  else if c = 'U' then some f
  else none

/-- Read flags up to the `:` or `)` that ends them. No flag and no sign may stand twice, and a sign must
    be followed by a flag. The result tells whether there were any, and the flags. -/
def readFlags (f : Flags) (seen : List Char) (on : Bool) : List Char →
    Option (Bool × Flags × List Char)
  | [] => none
  | c :: rest =>
    if c = ':' ∨ c = ')' then
      if seen.head? = some '-' then none else some (!seen.isEmpty, f, c :: rest)
    else if seen.contains c then none
    else if c = '-' then readFlags f (c :: seen) false rest
    else (f.switch? on c).bind fun f => readFlags f (c :: seen) on rest

/-- May a character stand in the name of a group? -/
def isNameChar (first : Bool) (c : Char) : Bool :=
  CharSet.alphabetic.mem c || c == '_'
    || (!first && ((CharSet.kinds Text.Category.numbers).mem c || c == '.' || c == '[' || c == ']'))

/-- Read the name of a group up to its bracket. -/
def readName (s : List Char) : Option (String × List Char) :=
  let name := s.takeWhile (· != '>')
  match name, s.drop name.length with
  | c :: more, '>' :: rest =>
    if isNameChar true c && more.all (isNameChar false) then some (String.ofList name, rest) else none
  | _, _ => none

/-- What the opening of a group says. -/
inductive Opening where
  /-- A group with its flags and, if it has one, its name. -/
  | group (flags : Flags) (name : Option String) (rest : List Char)
  /-- Flags for the rest of the group in which they stand. -/
  | flags (flags : Flags) (rest : List Char)

/-- Read the opening of a group after its parenthesis. -/
def readOpen (f : Flags) (s : List Char) : Option Opening :=
  match f.skip s with
  | '?' :: '=' :: _ | '?' :: '!' :: _ | '?' :: '<' :: '=' :: _ | '?' :: '<' :: '!' :: _ => none
  | '?' :: 'P' :: '<' :: rest => (readName rest).map fun (name, rest) => .group f (some name) rest
  | '?' :: '<' :: rest => (readName rest).map fun (name, rest) => .group f (some name) rest
  | '?' :: rest =>
    match readFlags f [] true rest with
    | some (_, g, ':' :: rest) => some (.group g none rest)
    | some (true, g, ')' :: rest) => some (.flags g rest)
    | _ => none
  | s => some (.group f none s)

/-- The pattern of a part that is no operator. -/
def Flags.part? (f : Flags) : Atom → Option Pattern
  | .char c isOctet =>
    if !f.unicode && isOctet && c.toNat > 127 then none else some (.set (f.fold (.single c)))
  | .set s => some (.set s)
  | .look l => some (.look l)

/-- The pattern of any one character. -/
def Flags.dot? (f : Flags) : Option Pattern :=
  if !f.unicode then none
  else if f.dotAll then some (.set .anyChar)
  else if f.crlf then some (.set (.compl (.union (.single '\r') (.single '\n'))))
  else some (.set (.compl (.single '\n')))

/-- The test for the sign of a start. -/
def Flags.startLook (f : Flags) : Look :=
  if f.multiLine then (if f.crlf then .crlfStart else .lineStart) else .textStart

/-- The test for the sign of an end. -/
def Flags.endLook (f : Flags) : Look :=
  if f.multiLine then (if f.crlf then .crlfEnd else .lineEnd) else .textEnd

/-- Read the body of a group up to its closing parenthesis or the end; the number bounds the steps. -/
def readBody : Nat → Body → List Char → Option (Nested Pattern × List String × List Char)
  | 0, _, _ => none
  | n + 1, b, s =>
    match b.flags.skip s with
    | [] => some (b.pattern, b.names, [])
    | ')' :: rest => some (b.pattern, b.names, ')' :: rest)
    | '|' :: rest => readBody n b.nextChoice rest
    | '(' :: rest =>
      match readOpen b.flags rest with
      | some (.flags f rest) => readBody n (b.setFlags f) rest
      | some (.group f name rest) =>
        if name.any b.names.contains then none
        else
          match readBody n ⟨f, name.toList ++ b.names, [], []⟩ rest with
          | some (p, names, ')' :: rest) => readBody n { b.push p.deeper with names := names } rest
          | _ => none
      | none => none
    | '[' :: rest => (readClass b.flags rest).bind fun (x, rest) =>
      readBody n (b.push ⟨.set x.value, x.depth⟩) rest
    | '?' :: rest => (b.repeatLast 0 (some 1)).bind fun b => readBody n b (dropPreference rest)
    | '*' :: rest => (b.repeatLast 0 none).bind fun b => readBody n b (dropPreference rest)
    | '+' :: rest => (b.repeatLast 1 none).bind fun b => readBody n b (dropPreference rest)
    | '\x7b' :: rest =>
      (readBounds b.flags rest).bind fun (least, most, rest) =>
        (b.repeatLast least most).bind fun b => readBody n b (skipPreference b.flags rest)
    | '.' :: rest => (b.flags.dot?).bind fun p => readBody n (b.pushFlat p) rest
    | '^' :: rest => readBody n (b.pushFlat (.look b.flags.startLook)) rest
    | '$' :: rest => readBody n (b.pushFlat (.look b.flags.endLook)) rest
    | '\\' :: rest =>
      (readEscape b.flags rest).bind fun (atom, rest) =>
        (b.flags.part? atom).bind fun p => readBody n (b.pushFlat p) rest
    | c :: rest => (b.flags.part? (.char c false)).bind fun p => readBody n (b.pushFlat p) rest

/-- What a library of patterns adds to their syntax: the classes of properties, and which texts of
    patterns fit into the memory that is set aside for one. -/
structure Library where
  property? : Bool → Property → Option CharSet
  fits : String → Bool

/-- The library that knows the properties in `Property.chars?` and has room for every pattern. -/
def Library.standard : Library := ⟨Property.chars?, fun _ => true⟩

/-- The body of a text of its own. -/
def start (lib : Library) : Body := ⟨{ property? := lib.property? }, [], [], []⟩

/-- The pattern that a text spells, whatever its size. -/
def parse? (lib : Library) (text : String) : Option (Nested Pattern) :=
  match readBody (text.toList.length + 1) (start lib) text.toList with
  | some (p, _, []) => some p
  | _ => none

/-- The number of levels to which the parts of a pattern may be nested. -/
def nestLimit : Nat := 250

/-- Read a pattern. It may be nested to so many levels only, and what is compiled from its text must
    fit into the memory. -/
def read? (lib : Library) (text : String) : Option Pattern :=
  (parse? lib text).bind fun p =>
    if p.depth ≤ nestLimit ∧ lib.fits text = true then some p.value else none

end AccessGate.Pattern
