import AccessGate.Text.CompositionTable

/-!
# Composed form — one spelling for letters with marks

The same text can be spelt with composed characters or with letters and marks. The composed form takes
every character apart, puts the marks of each letter in the order of their places, and puts together what
can be put together. Syllables of Hangul are composed by arithmetic.
-/

namespace AccessGate.Text

/-- The number of the place of a mark; zero for every other character. -/
def markPlace (c : Char) : Nat :=
  match markPlaces.find? fun r => r.1 ≤ c.toNat && c.toNat ≤ r.2.1 with
  | some (_, _, place) => place
  | none => 0

/-- Take a character apart, at most so many times. -/
def takeApart : Nat → Char → List Char
  | 0, c => [c]
  | n + 1, c =>
    let s := c.toNat - 0xAC00
    if 0xAC00 ≤ c.toNat ∧ c.toNat ≤ 0xD7A3 then
      let lead := Char.ofNat (0x1100 + s / 588)
      let vowel := Char.ofNat (0x1161 + s % 588 / 28)
      if s % 28 = 0 then [lead, vowel] else [lead, vowel, Char.ofNat (0x11A7 + s % 28)]
    else
      match compositions.find? fun e => e.2.2 == c.toNat with
      | some (a, b, _) => takeApart n (Char.ofNat a) ++ [Char.ofNat b]
      | none => [c]

/-- Put a mark behind the marks whose place is not after its own. The list has its end first. -/
def insertMark (c : Char) : List Char → List Char
  | [] => [c]
  | d :: rest => if markPlace c < markPlace d then d :: insertMark c rest else c :: d :: rest

/-- Put the marks of every letter in order. The result has its end first. -/
def orderMarks (s : List Char) : List Char :=
  s.foldl (fun done c => if markPlace c = 0 then c :: done else insertMark c done) []

/-- The character that two compose. -/
def compose? (a b : Char) : Option Char :=
  let l := a.toNat - 0x1100
  let v := b.toNat - 0x1161
  if 0x1100 ≤ a.toNat ∧ l < 19 ∧ 0x1161 ≤ b.toNat ∧ v < 21 then
    some (Char.ofNat (0xAC00 + (l * 21 + v) * 28))
  else if 0xAC00 ≤ a.toNat ∧ a.toNat ≤ 0xD7A3 ∧ (a.toNat - 0xAC00) % 28 = 0
      ∧ 0x11A8 ≤ b.toNat ∧ b.toNat ≤ 0x11C2 then
    some (Char.ofNat (a.toNat + (b.toNat - 0x11A7)))
  else
    (compositions.find? fun e => e.1 == a.toNat && e.2.1 == b.toNat).map fun e => Char.ofNat e.2.2

/-- What was composed so far: what is done, the last letter, and the marks kept behind it. Lists have
    their ends first. -/
structure Composing where
  done : List Char
  letter : Option Char
  kept : List Char

/-- Take the next character. A mark joins the letter unless one of its place or a later one is kept
    between them. -/
def Composing.step (s : Composing) (c : Char) : Composing :=
  let place := markPlace c
  let free := match s.kept with
    | [] => true
    | d :: _ => markPlace d < place
  match if free then s.letter.bind fun a => compose? a c else none with
  | some joined => { s with letter := some joined }
  | none =>
    if place = 0 then ⟨s.kept ++ s.letter.toList ++ s.done, some c, []⟩
    else { s with kept := c :: s.kept }

/-- The composed form of a text. -/
def composed (s : List Char) : List Char :=
  let ordered := (orderMarks (s.flatMap (takeApart 4))).reverse
  let last := ordered.foldl Composing.step ⟨[], none, []⟩
  (last.kept ++ last.letter.toList ++ last.done).reverse

end AccessGate.Text
