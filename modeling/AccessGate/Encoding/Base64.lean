/-!
# Base64 — octets as text, six bits to a character

There are two alphabets, which differ in their last two characters, and padding with `=` is used with
the first of them only. Reading takes the second alphabet without padding and refuses every text that
writing does not produce.
-/

namespace AccessGate.Encoding.Base64

/-- The characters of the values 62 and 63, and whether groups are filled up with `=`. -/
structure Alphabet where
  char62 : Char
  char63 : Char
  padded : Bool

/-- The alphabet with `+` and `/`, padded. -/
def standard : Alphabet := ⟨'+', '/', true⟩

/-- The alphabet with `-` and `_`, which may stand in a URL; not padded. -/
def urlSafe : Alphabet := ⟨'-', '_', false⟩

/-- The character of a value below 64. -/
def Alphabet.char (a : Alphabet) (n : Nat) : Char :=
  if n < 26 then Char.ofNat (65 + n)
  else if n < 52 then Char.ofNat (71 + n)
  else if n < 62 then Char.ofNat (n - 4)
  else if n = 62 then a.char62
  else a.char63

/-- The value of a character. -/
def Alphabet.value? (a : Alphabet) (c : Char) : Option Nat :=
  let n := c.toNat
  if 65 ≤ n ∧ n ≤ 90 then some (n - 65)
  else if 97 ≤ n ∧ n ≤ 122 then some (n - 71)
  else if 48 ≤ n ∧ n ≤ 57 then some (n + 4)
  else if c = a.char62 then some 62
  else if c = a.char63 then some 63
  else none

/-- The signs that fill up a group. -/
def Alphabet.fill (a : Alphabet) (n : Nat) : List Char := if a.padded then List.replicate n '=' else []

/-- Write octets, three to a group of four characters. -/
def encode (a : Alphabet) : List UInt8 → List Char
  | [] => []
  | [x] => a.char (x.toNat / 4) :: a.char (x.toNat % 4 * 16) :: a.fill 2
  | [x, y] =>
    a.char (x.toNat / 4) :: a.char (x.toNat % 4 * 16 + y.toNat / 16)
      :: a.char (y.toNat % 16 * 4) :: a.fill 1
  | x :: y :: z :: rest =>
    a.char (x.toNat / 4) :: a.char (x.toNat % 4 * 16 + y.toNat / 16)
      :: a.char (y.toNat % 16 * 4 + z.toNat / 64) :: a.char (z.toNat % 64) :: encode a rest

/-- Read values of six bits, four to a group of three octets. The bits left over must be zero. -/
def join : List Nat → Option (List UInt8)
  | [] => some []
  | [_] => none
  | [p, q] => if q % 16 = 0 then some [UInt8.ofNat (p * 4 + q / 16)] else none
  | [p, q, r] =>
    if r % 4 = 0 then
      some [UInt8.ofNat (p * 4 + q / 16), UInt8.ofNat (q % 16 * 16 + r / 4)]
    else none
  | p :: q :: r :: s :: rest =>
    (join rest).map fun more =>
      UInt8.ofNat (p * 4 + q / 16) :: UInt8.ofNat (q % 16 * 16 + r / 4)
        :: UInt8.ofNat (r % 4 * 64 + s) :: more

/-- Read a text without padding. -/
def decode? (a : Alphabet) (text : List Char) : Option (List UInt8) :=
  (text.mapM a.value?).bind join

/-- Octets in the padded alphabet. -/
def standardText (bytes : List UInt8) : String := String.ofList (encode standard bytes)

/-- Octets in the alphabet of URLs. -/
def urlText (bytes : List UInt8) : String := String.ofList (encode urlSafe bytes)

end AccessGate.Encoding.Base64
