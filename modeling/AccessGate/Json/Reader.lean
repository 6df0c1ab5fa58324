import AccessGate.Json.Basic

/-!
# Reading JSON text

One value with blanks around it. Numbers without a point and an exponent that fit into 64 bits are
integers. Texts must not hold bare control characters or half of a surrogate pair, and values must not
be nested more than 127 deep. The members of an object are kept as they stand, repeated names included.
-/

namespace AccessGate.Json

/-- A blank between tokens. -/
def isSpace (c : Char) : Bool := c == ' ' || c == '\n' || c == '\t' || c == '\r'

/-- Drop the blanks in front. -/
def skipSpace (s : List Char) : List Char := s.dropWhile isSpace

/-- The value of a hexadecimal digit. -/
def hexValue? (c : Char) : Option Nat :=
  if '0' ≤ c ∧ c ≤ '9' then some (c.toNat - 48)
  else if 'a' ≤ c ∧ c ≤ 'f' then some (c.toNat - 87)
  else if 'A' ≤ c ∧ c ≤ 'F' then some (c.toNat - 55)
  else none

/-- The value of four hexadecimal digits. -/
def hexFour? (a b c d : Char) : Option Nat := do
  return ((← hexValue? a) * 16 + (← hexValue? b)) * 256 + (← hexValue? c) * 16 + (← hexValue? d)

/-- The character of a one-letter escape. -/
def shortEscape? (c : Char) : Option Char :=
  if c = '"' ∨ c = '\\' ∨ c = '/' then some c
  else if c = 'b' then some '\x08'
  else if c = 'f' then some '\x0c'
  else if c = 'n' then some '\n'
  else if c = 'r' then some '\r'
  else if c = 't' then some '\t'
  else none

/-- Read one character of a text, up to its closing quote: the character and the rest, or the rest
    after the quote. -/
def readTextChar : List Char → Option (Option Char × List Char)
  | '"' :: rest => some (none, rest)
  | '\\' :: 'u' :: a :: b :: c :: d :: rest => do
    let unit ← hexFour? a b c d
    if 0xD800 ≤ unit ∧ unit < 0xDC00 then
      match rest with
      | '\\' :: 'u' :: e :: f :: g :: h :: more => do
        let low ← hexFour? e f g h
        if 0xDC00 ≤ low ∧ low < 0xE000 then
          some (some (Char.ofNat (0x10000 + (unit - 0xD800) * 1024 + (low - 0xDC00))), more)
        else none
      | _ => none
    else if 0xDC00 ≤ unit ∧ unit < 0xE000 then none
    else some (some (Char.ofNat unit), rest)
  | '\\' :: c :: rest => (shortEscape? c).map fun e => (some e, rest)
  | c :: rest => if c.toNat < 0x20 || c == '\\' then none else some (some c, rest)
  | [] => none

/-- Read the rest of a text; the number bounds its characters. -/
def readText : Nat → List Char → Option (List Char × List Char)
  | 0, _ => none
  | fuel + 1, s =>
    match readTextChar s with
    | some (none, rest) => some ([], rest)
    | some (some c, rest) => (readText fuel rest).map fun (text, more) => (c :: text, more)
    | none => none

/-- The value of decimal digits. -/
def decimalValue (digits : List Char) : Nat :=
  digits.foldl (fun acc c => acc * 10 + (c.toNat - 48)) 0

/-- Take the digits in front. -/
def spanDigits (s : List Char) : List Char × List Char :=
  (s.takeWhile Char.isDigit, s.dropWhile Char.isDigit)

/-- Read an exponent, if one follows. -/
def readExponent : List Char → Option (Option Int × List Char)
  | c :: rest =>
    if c = 'e' ∨ c = 'E' then
      let (negative, rest) := match rest with
        | '-' :: more => (true, more)
        | '+' :: more => (false, more)
        | more => (false, more)
      let (digits, rest) := spanDigits rest
      if digits.isEmpty then none
      else
        let value : Int := decimalValue digits
        some (some (if negative then -value else value), rest)
    else some (none, c :: rest)
  | [] => some (none, [])

/-- Read a number without its sign. -/
def readUnsigned (negative : Bool) (s : List Char) : Option (Json × List Char) := do
  let (whole, s) := spanDigits s
  if whole.isEmpty || (whole.head? == some '0' && whole.length > 1) then none
  else
    let (point, fraction, s) := match s with
      | '.' :: rest => (true, spanDigits rest)
      | rest => (false, [], rest)
    if point && fraction.isEmpty then none
    else
      let (exponent, s) ← readExponent s
      let magnitude : Int := decimalValue (whole ++ fraction)
      let value := if negative then -magnitude else magnitude
      let fits :=
        if negative then value != 0 && Int64.minValue.toInt ≤ value else value < UInt64.size
      if !point && exponent.isNone && fits then some (.int value, s)
      else
        let e := exponent.getD 0 - fraction.length
        if value != 0 && whole.length + exponent.getD 0 > 309 then none
        else some (.decimal value e, s)

/-- Read a number. -/
def readNumber : List Char → Option (Json × List Char)
  | '-' :: rest => readUnsigned true rest
  | s => readUnsigned false s

mutual

/-- Read a value; the first number bounds the steps, the second the nesting. -/
def readValue : Nat → Nat → List Char → Option (Json × List Char)
  | 0, _, _ => none
  | fuel + 1, depth, s =>
    match skipSpace s with
    | 'n' :: 'u' :: 'l' :: 'l' :: rest => some (.null, rest)
    | 't' :: 'r' :: 'u' :: 'e' :: rest => some (.bool true, rest)
    | 'f' :: 'a' :: 'l' :: 's' :: 'e' :: rest => some (.bool false, rest)
    | '"' :: rest =>
      (readText (rest.length + 1) rest).map fun (text, more) => (.str (String.ofList text), more)
    | '[' :: rest =>
      if depth ≤ 1 then none
      else
        match skipSpace rest with
        | ']' :: more => some (.arr [], more)
        | items => (readItems fuel (depth - 1) items).map fun (list, more) => (.arr list, more)
    | '\x7b' :: rest =>
      if depth ≤ 1 then none
      else
        match skipSpace rest with
        | '\x7d' :: more => some (.obj [], more)
        | members => (readMembers fuel (depth - 1) members).map fun (list, more) => (.obj list, more)
    | other => readNumber other

/-- Read the items of a list up to its closing bracket. -/
def readItems : Nat → Nat → List Char → Option (List Json × List Char)
  | 0, _, _ => none
  | fuel + 1, depth, s =>
    match readValue fuel depth s with
    | some (item, rest) =>
      match skipSpace rest with
      | ',' :: more => (readItems fuel depth more).map fun (items, last) => (item :: items, last)
      | ']' :: more => some ([item], more)
      | _ => none
    | none => none

/-- Read the members of an object up to its closing brace. -/
def readMembers : Nat → Nat → List Char → Option (List (String × Json) × List Char)
  | 0, _, _ => none
  | fuel + 1, depth, s =>
    match skipSpace s with
    | '"' :: rest =>
      match readText (rest.length + 1) rest with
      | some (name, rest) =>
        match skipSpace rest with
        | ':' :: rest =>
          match readValue fuel depth rest with
          | some (value, rest) =>
            let member := (String.ofList name, value)
            match skipSpace rest with
            | ',' :: more =>
              (readMembers fuel depth more).map fun (members, last) => (member :: members, last)
            | '\x7d' :: more => some ([member], more)
            | _ => none
          | none => none
        | _ => none
      | none => none
    | _ => none

end

/-- Read a JSON text. -/
def read? (text : String) : Option Json :=
  let s := text.toList
  match readValue (2 * s.length + 2) 128 s with
  | some (value, rest) => if (skipSpace rest).isEmpty then some value else none
  | none => none

end AccessGate.Json
