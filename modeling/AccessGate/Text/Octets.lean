/-!
# Octets — the UTF-8 form of a text, and reading octets back

Limits on key lengths count octets, digests and signatures run over octets, and percent escapes spell
octets. Reading is forgiving: an ill-formed stretch becomes one replacement character, where a stretch
is as long as it could still have become a character.
-/

namespace AccessGate.Text

/-- The UTF-8 octets of a text. -/
def octets (s : String) : List UInt8 := s.toUTF8.data.toList

/-- Different texts have different octets. -/
theorem octets_inj {a b : String} : octets a = octets b ↔ a = b := by
  constructor
  · intro h
    obtain ⟨⟨⟨x⟩⟩, hx⟩ := a
    obtain ⟨⟨⟨y⟩⟩, hy⟩ := b
    simp only [octets, String.toUTF8] at h
    subst h
    rfl
  · intro h
    rw [h]

/-- The character that stands for octets that spell none. -/
def replacement : Char := Char.ofNat 0xFFFD

/-- A character begun: how many octets are owed, the bounds of the next one, and the bits so far. -/
structure Begun where
  owed : Nat
  low : Nat
  high : Nat
  bits : Nat

/-- The first octet of a character: the characters it settles, and what it begins. -/
def beginChar (b : Nat) : List Char × Option Begun :=
  if b < 0x80 then ([Char.ofNat b], none)
  else if b < 0xC2 then ([replacement], none)
  else if b < 0xE0 then ([], some ⟨1, 0x80, 0xBF, b - 0xC0⟩)
  else if b < 0xF0 then
    ([], some ⟨2, if b = 0xE0 then 0xA0 else 0x80, if b = 0xED then 0x9F else 0xBF, b - 0xE0⟩)
  else if b < 0xF5 then
    ([], some ⟨3, if b = 0xF0 then 0x90 else 0x80, if b = 0xF4 then 0x8F else 0xBF, b - 0xF0⟩)
  else ([replacement], none)

/-- One more octet. One that cannot go on gives up the character begun and starts anew. -/
def feedOctet : Option Begun → Nat → List Char × Option Begun
  | none, b => beginChar b
  | some p, b =>
    if p.low ≤ b ∧ b ≤ p.high then
      let bits := p.bits * 64 + (b - 0x80)
      if p.owed ≤ 1 then ([Char.ofNat bits], none) else ([], some ⟨p.owed - 1, 0x80, 0xBF, bits⟩)
    else
      let next := beginChar b
      (replacement :: next.1, next.2)

/-- Read the octets that follow a character begun. -/
def readOctets : Option Begun → List UInt8 → List Char
  | none, [] => []
  | some _, [] => [replacement]
  | p, b :: rest =>
    let next := feedOctet p b.toNat
    next.1 ++ readOctets next.2 rest

/-- The text that octets spell, with a replacement character for each ill-formed stretch. -/
def ofOctetsLossy (bytes : List UInt8) : String := String.ofList (readOctets none bytes)

/-- The text that octets spell, if they are well-formed. -/
def ofOctets? (bytes : List UInt8) : Option String := String.fromUTF8? ⟨bytes.toArray⟩

end AccessGate.Text
