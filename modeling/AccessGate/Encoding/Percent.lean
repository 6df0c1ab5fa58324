import AccessGate.Text.Octets

/-!
# Percent escapes — an octet as `%` and two hexadecimal digits

Escapes are written with capital digits and read with either. A `%` without two digits after it stands
for itself.
-/

namespace AccessGate.Encoding

/-- The octet of an ASCII character. -/
def octet (c : Char) : UInt8 := UInt8.ofNat c.toNat

/-- A hexadecimal digit, capital. -/
def hexDigit (n : Nat) : Char := if n < 10 then Char.ofNat (48 + n) else Char.ofNat (55 + n)

/-- The escape of an octet. -/
def escape (b : UInt8) : List Char := ['%', hexDigit (b.toNat / 16), hexDigit (b.toNat % 16)]

/-- The value of an octet that is a hexadecimal digit. -/
def hexValue? (b : UInt8) : Option Nat :=
  let n := b.toNat
  if 48 ≤ n ∧ n ≤ 57 then some (n - 48)
  else if 65 ≤ n ∧ n ≤ 70 then some (n - 55)
  else if 97 ≤ n ∧ n ≤ 102 then some (n - 87)
  else none

/-- The octet that three octets spell, if they are an escape. -/
def escaped? (b h l : UInt8) : Option UInt8 :=
  if b = octet '%' then
    match hexValue? h, hexValue? l with
    | some x, some y => some (UInt8.ofNat (x * 16 + y))
    | _, _ => none
  else none

/-- Replace every escape by its octet. -/
def unescape : List UInt8 → List UInt8
  | b :: h :: l :: more =>
    match escaped? b h l with
    | some x => x :: unescape more
    | none => b :: unescape (h :: l :: more)
  | short => short

end AccessGate.Encoding
