/-!
# Punycode — characters of any script as letters and digits

The ASCII characters of a label come first. Each other character is written as a number, in ascending
order of the characters, that says how far the pair of the next character and its place is from the one
before. The numbers have digits in base 36, whose thresholds adapt to the sizes seen so far.
-/

namespace AccessGate.Url.Punycode

/-- The digit of a value below 36. -/
def digitChar (n : Nat) : Char := if n < 26 then Char.ofNat (97 + n) else Char.ofNat (22 + n)

/-- The value of a digit. -/
def digitValue? (c : Char) : Option Nat :=
  let n := c.toNat
  if 97 ≤ n ∧ n ≤ 122 then some (n - 97)
  else if 65 ≤ n ∧ n ≤ 90 then some (n - 65)
  else if 48 ≤ n ∧ n ≤ 57 then some (n - 22)
  else none

/-- The threshold of a digit's place. -/
def threshold (bias place : Nat) : Nat := min 26 (max 1 (place - bias))

theorem threshold_pos (bias place : Nat) : 1 ≤ threshold bias place := by
  simp only [threshold]
  omega

theorem threshold_le (bias place : Nat) : threshold bias place ≤ 26 := by
  simp only [threshold]
  omega

/-- Divide a distance until it is small, and count the divisions. -/
def shrink (delta : Nat) : Nat × Nat :=
  if delta ≤ 455 then (0, delta)
  else
    let (steps, rest) := shrink (delta / 35)
    (steps + 1, rest)
termination_by delta
decreasing_by omega

/-- The bias after a distance, when so many characters are written. -/
def adapt (delta count : Nat) (first : Bool) : Nat :=
  let delta := if first then delta / 700 else delta / 2
  let (steps, rest) := shrink (delta + delta / count)
  steps * 36 + 36 * rest / (rest + 38)

/-- The digits of a number from a place on. -/
def writeNumber (bias place n : Nat) : List Char :=
  let t := threshold bias place
  if n < t then [digitChar n]
  else digitChar (t + (n - t) % (36 - t)) :: writeNumber bias (place + 36) ((n - t) / (36 - t))
termination_by n
decreasing_by
  have h₁ := threshold_pos bias place
  have h₂ := threshold_le bias place
  exact Nat.lt_of_le_of_lt (Nat.div_le_self _ _) (by omega)

/-- What was written so far: the distance to the next character, the bias, the count of characters and
    the digits. -/
structure Writing where
  delta : Nat
  bias : Nat
  count : Nat
  digits : List Char

/-- Pass a character of the label while characters with a code point are written. -/
def Writing.pass (point basic : Nat) (w : Writing) (c : Char) : Writing :=
  if c.toNat < point then { w with delta := w.delta + 1 }
  else if c.toNat = point then
    ⟨0, adapt w.delta (w.count + 1) (w.count == basic), w.count + 1,
      w.digits ++ writeNumber w.bias 36 w.delta⟩
  else w

/-- Put a number into an ascending list, unless it is there. -/
def insertPoint (n : Nat) : List Nat → List Nat
  | [] => [n]
  | m :: rest => if n < m then n :: m :: rest else if n = m then m :: rest else m :: insertPoint n rest

/-- Write all characters of the given code points, the first of which is at least the number. -/
def writePoints (label : List Char) (basic : Nat) : Nat → Writing → List Nat → Writing
  | _, w, [] => w
  | next, w, point :: rest =>
    let w := { w with delta := w.delta + (point - next) * (w.count + 1) }
    let w := label.foldl (Writing.pass point basic) w
    writePoints label basic (point + 1) { w with delta := w.delta + 1 } rest

/-- Write a label. -/
def write (label : List Char) : List Char :=
  let basic := label.filter fun c => c.toNat < 128
  let points := (label.filter fun c => 128 ≤ c.toNat).foldl (fun l c => insertPoint c.toNat l) []
  let w := writePoints label basic.length 128 ⟨0, 72, basic.length, []⟩ points
  (if basic.isEmpty then [] else basic ++ ['-']) ++ w.digits

/-- Read a number from a place on; the weight is that of the place. -/
def readNumber (bias : Nat) : Nat → Nat → List Char → Option (Nat × List Char)
  | _, _, [] => none
  | place, weight, c :: rest =>
    match digitValue? c with
    | none => none
    | some d =>
      let t := threshold bias place
      if d < t then some (d * weight, rest)
      else (readNumber bias (place + 36) (weight * (36 - t)) rest).map fun (n, s) => (n + d * weight, s)

/-- Read the characters of a label; the first number bounds them. -/
def readChars : Nat → Nat → Nat → Nat → List Char → List Char → Option (List Char)
  | _, _, _, _, label, [] => some label
  | 0, _, _, _, _, _ => none
  | fuel + 1, point, place, bias, label, s =>
    match readNumber bias 36 1 s with
    | none => none
    | some (delta, rest) =>
      let count := label.length + 1
      let total := place + delta
      let point := point + total / count
      let place := total % count
      if point.isValidChar then
        readChars fuel point (place + 1) (adapt delta count (label.all fun c => c.toNat < 128))
          (label.take place ++ Char.ofNat point :: label.drop place) rest
      else none

/-- Read a label. -/
def read? (s : List Char) : Option (List Char) :=
  let digits := (s.reverse.takeWhile (· != '-')).reverse
  let basic := s.take (s.length - digits.length - 1)
  if basic.all fun c => c.toNat < 128 then readChars (s.length + 1) 128 0 72 basic digits else none

end AccessGate.Url.Punycode
