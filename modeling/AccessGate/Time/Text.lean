import AccessGate.Text.Blank
import AccessGate.Time.Instant

/-!
# Instants as text

Instants are written in one form, `2999-01-01T00:00:00Z`, with as many groups of three fraction digits
as they need and a sign before a year that is not four digits long. They are read from more: any offset
from universal time, a blank for the `T`, numbers without leading zeros, and blanks around the parts.
-/

namespace AccessGate.Instant

open AccessGate.Text

/-- A number with at least so many digits. -/
def padded (width n : Nat) : List Char :=
  let digits := Nat.toDigits 10 n
  List.replicate (width - digits.length) '0' ++ digits

/-- The year: four digits, or a sign and at least four. -/
def writeYear (year : Int) : List Char :=
  if 0 ≤ year ∧ year ≤ 9999 then padded 4 year.toNat
  else (if year < 0 then '-' else '+') :: padded 4 year.natAbs

/-- The fraction of a second: none, or three, six or nine digits. -/
def writeFraction (nano : Nat) : List Char :=
  if nano = 0 then []
  else if nano % 1000000 = 0 then '.' :: padded 3 (nano / 1000000)
  else if nano % 1000 = 0 then '.' :: padded 6 (nano / 1000)
  else '.' :: padded 9 nano

/-- The written form of an instant. -/
def write (t : Instant) : String :=
  let (year, month, day) := Calendar.date (t.second / 86400)
  let inDay := (t.second % 86400).toNat
  let leap := t.nano ≥ 1000000000
  let second := inDay % 60 + (if leap then 1 else 0)
  let nano := if leap then t.nano - 1000000000 else t.nano
  String.ofList <|
    writeYear year ++ '-' :: padded 2 month ++ '-' :: padded 2 day ++ 'T' :: padded 2 (inDay / 3600)
      ++ ':' :: padded 2 (inDay / 60 % 60) ++ ':' :: padded 2 second ++ writeFraction nano ++ ['Z']

/-- The value of decimal digits. -/
def digitsValue (digits : List Char) : Nat :=
  digits.foldl (fun acc c => acc * 10 + (c.toNat - '0'.toNat)) 0

/-- Read a number of at least one and at most so many digits. -/
def readNumber (most : Nat) (s : List Char) : Option (Nat × List Char) :=
  let digits := (s.take most).takeWhile Char.isDigit
  if digits.isEmpty then none else some (digitsValue digits, s.drop digits.length)

/-- Read one given character. -/
def readChar (c : Char) : List Char → Option (List Char)
  | d :: rest => if d = c then some rest else none
  | [] => none

/-- Read a year: up to four digits, or a sign and any number of them. -/
def readYear : List Char → Option (Int × List Char)
  | '-' :: rest => (readNumber rest.length rest).map fun (n, s) => (-(n : Int), s)
  | '+' :: rest => (readNumber rest.length rest).map fun (n, s) => ((n : Int), s)
  | s => (readNumber 4 s).map fun (n, s) => ((n : Int), s)

/-- Read a fraction of a second, if one follows. Digits after the ninth do not count. -/
def readFraction : List Char → Option (Nat × List Char)
  | '.' :: rest => do
    let digits := (rest.take 9).takeWhile Char.isDigit
    if digits.isEmpty then none
    else
      some (digitsValue digits * Nat.pow 10 (9 - digits.length), rest.dropWhile Char.isDigit)
  | s => some (0, s)

/-- Read the distance from universal time in seconds: `Z`, `UTC`, or a sign, two digits for hours and
    two for minutes. -/
def readOffset : List Char → Option (Int × List Char)
  | 'Z' :: rest => some (0, rest)
  | 'z' :: rest => some (0, rest)
  | 'U' :: s | 'u' :: s =>
    match s with
    | t :: c :: rest => if (t = 'T' ∨ t = 't') ∧ (c = 'C' ∨ c = 'c') then some (0, rest) else none
    | _ => none
  | sign :: h₁ :: h₂ :: s => do
    let negative ←
      if sign = '+' then some false
      else if sign = '-' ∨ sign.toNat = 0x2212 then some true
      else none
    if !(h₁.isDigit && h₂.isDigit) then none
    else
      match s.dropWhile fun c => c == ':' || isBlank c with
      | m₁ :: m₂ :: rest =>
        if m₁.isDigit && m₂.isDigit && digitsValue [m₁, m₂] < 60 then
          let seconds : Int := digitsValue [h₁, h₂] * 3600 + digitsValue [m₁, m₂] * 60
          some (if negative then -seconds else seconds, rest)
        else none
      | _ => none
  | _ => none

/-- The instant of a local date and time that is so many seconds ahead of universal time. A leap second is
    the last second of a minute and goes on, since clocks differ by whole minutes. -/
def ofLocal? (year : Int) (month day hour minute second nano : Nat) (offset : Int) : Option Instant :=
  let leap := second = 60
  if Calendar.firstYear ≤ year ∧ year ≤ Calendar.lastYear ∧ 1 ≤ month ∧ month ≤ 12 ∧ 1 ≤ day
      ∧ day ≤ Calendar.daysInMonth year month ∧ hour < 24 ∧ minute < 60 ∧ second ≤ 60
      ∧ -86400 < offset ∧ offset < 86400 then
    let there := Calendar.dayNumber year month day * 86400 + hour * 3600 + minute * 60
      + (if leap then 59 else second)
    of? (there - offset) (nano + if leap then 1000000000 else 0)
  else none

/-- Read an instant. -/
def readChars (s : List Char) : Option Instant := do
  let (year, s) ← readYear (trimStart s)
  let s ← readChar '-' (trimStart s)
  let (month, s) ← readNumber 2 (trimStart s)
  let s ← readChar '-' (trimStart s)
  let (day, s) ← readNumber 2 (trimStart s)
  let s ← match s with
    | c :: rest => if c = 'T' ∨ c = 't' ∨ c = ' ' then some rest else none
    | [] => none
  let (hour, s) ← readNumber 2 (trimStart s)
  let s ← readChar ':' (trimStart s)
  let (minute, s) ← readNumber 2 (trimStart s)
  let s ← readChar ':' (trimStart s)
  let (second, s) ← readNumber 2 (trimStart s)
  let (nano, s) ← readFraction s
  let (offset, s) ← readOffset (trimStart s)
  if (trimStart s).isEmpty then ofLocal? year month day hour minute second nano offset else none

/-- Read an instant from a text. -/
def read? (s : String) : Option Instant := readChars s.toList

end AccessGate.Instant
