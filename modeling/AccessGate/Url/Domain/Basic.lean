import AccessGate.Encoding.Percent
import AccessGate.Text.Category
import AccessGate.Text.Composition
import AccessGate.Url.Domain.Mapping
import AccessGate.Url.Domain.Validity
import AccessGate.Url.Punycode

/-!
# Domain names — hosts of the web in ASCII

A domain name is written in small ASCII characters. Escapes are replaced by what they spell, characters
are mapped to their usual spelling, and a label with other characters than ASCII is written in punycode
behind `xn--`. A label that is given in punycode must spell one that would be written so.
-/

namespace AccessGate.Url.Domain

/-- Is a character in one of the ranges? -/
def isIn (ranges : List (Nat × Nat)) (c : Char) : Bool :=
  ranges.any fun r => r.1 ≤ c.toNat && c.toNat ≤ r.2

/-- The table with the spelling of a code point. -/
def spellings (n : Nat) : List (Nat × String) :=
  if n < 0x2E80 then letterSpellings
  else if n < 0xFB00 then ideographSpellings
  else if n < 0x10000 then formSpellings
  else planeSpellings

/-- The character at a distance from one in a range. -/
def shifted? (n : Nat) : Option Char :=
  (shifts.find? fun r => r.1 ≤ n && n ≤ r.2.1 && (n - r.1) % r.2.2.1 == 0).map fun r =>
    Char.ofNat ((n : Int) + r.2.2.2).toNat

/-- The usual spelling of a character, if it can stand in a domain name. -/
def spell? (c : Char) : Option (List Char) :=
  if isIn disallowed c then none
  else if isIn ignored c then some []
  else
    match shifted? c.toNat with
    | some d => some [d]
    | none => some (((spellings c.toNat).lookup c.toNat).elim [c] String.toList)

/-- Does a joiner that is not shown stand where it may, behind a mark that silences a vowel? The switch
    says whether the character before is such a mark. -/
def joinersStand : Bool → List Char → Bool
  | _, [] => true
  | silenced, c :: rest =>
    (silenced || (c.toNat != 0x200C && c.toNat != 0x200D)) && joinersStand (Text.markPlace c == 9) rest

/-- May a spelt label stand in a domain name? -/
def isLabel (label : List Char) : Bool :=
  !(label.head?.any fun c => Text.Category.marks.any (·.has c)) && joinersStand false label

/-- Is every character ASCII? -/
def isAscii (s : List Char) : Bool := s.all fun c => c.toNat < 128

/-- Is a label in its usual spelling, and not ASCII alone? -/
def isSpelt (label : List Char) : Bool :=
  !isAscii label && label.all (fun c => spell? c == some [c]) && Text.composed label == label

/-- The written form of a spelt label. -/
def writeLabel? (label : List Char) : Option (List Char) :=
  match label with
  | 'x' :: 'n' :: '-' :: '-' :: rest => do
    let inner ← Punycode.read? rest
    if isSpelt inner && isLabel inner then some label else none
  | _ =>
    if isAscii label then some label
    else if isLabel label then some ('x' :: 'n' :: '-' :: '-' :: Punycode.write label)
    else none

/-- A character that cannot stand in a written domain name. -/
def isForbidden (c : Char) : Bool :=
  c.toNat ≤ 0x20 || 0x7F ≤ c.toNat || "%#/:<>?@[\\]^|".toList.contains c

/-- The domain name of a host. -/
def ofChars? (s : List Char) : Option (List Char) := do
  let octets := Encoding.unescape (Text.octets (String.ofList s))
  let spelt ← (Text.ofOctetsLossy octets).toList.mapM spell?
  let labels := (Text.composed spelt.flatten).splitOn '.'
  if labels.any fun l => l.any fun c => c.toNat < 128 && isForbidden c then none
  else
    let name := List.intercalate ['.'] (← labels.mapM writeLabel?)
    if name.any isForbidden then none else some name

end AccessGate.Url.Domain
