import AccessGate.Text.Blank
import AccessGate.Text.CaseTable
import AccessGate.Text.Category

/-!
# Patterns — descriptions of texts

A pattern is built from sets of characters and from tests of a position by sequence, choice and
repetition. `Pattern.Matches` says which stretches of a text a pattern describes; `Pattern.ends` lists
where the stretches end that start at a position.
-/

namespace AccessGate

/-- A set of characters. -/
inductive CharSet where
  | ranges (list : List (Nat × Nat))
  /-- The characters of some categories. -/
  | kinds (list : List Text.Category)
  | blank
  | union (a b : CharSet)
  | inter (a b : CharSet)
  | compl (a : CharSet)
  /-- The set with every character that differs from one of its members by case only. -/
  | anyCase (a : CharSet)
  /-- The set with every ASCII letter that differs from one of its members by case only. -/
  | asciiCase (a : CharSet)
  deriving Repr, Inhabited

namespace CharSet

/-- The set of one character. -/
def single (c : Char) : CharSet := .ranges [(c.toNat, c.toNat)]

/-- No character. -/
def noChar : CharSet := .ranges []

/-- The members of one set that are not members of another. -/
def diff (a b : CharSet) : CharSet := .inter a (.compl b)

/-- The members of exactly one of two sets. -/
def symmDiff (a b : CharSet) : CharSet := .union (diff a b) (diff b a)

/-- The characters that differ from a character by case only, itself included. -/
def caseVariants (c : Char) : List Char := (Text.ofCaseForm (Text.caseForm c.toNat)).map Char.ofNat

/-- The ASCII letters that differ from a character by case only, and the character. -/
def asciiVariants (c : Char) : List Char :=
  if 'A' ≤ c ∧ c ≤ 'Z' then [c, Char.ofNat (c.toNat + 32)]
  else if 'a' ≤ c ∧ c ≤ 'z' then [c, Char.ofNat (c.toNat - 32)]
  else [c]

/-- Is a character in the set? -/
def mem : CharSet → Char → Bool
  | .ranges list, c => list.any fun r => r.1 ≤ c.toNat && c.toNat ≤ r.2
  | .kinds list, c => list.any (·.has c)
  | .blank, c => Text.isBlank c
  | .union a b, c => a.mem c || b.mem c
  | .inter a b, c => a.mem c && b.mem c
  | .compl a, c => !a.mem c
  | .anyCase a, c => (caseVariants c).any a.mem
  | .asciiCase a, c => (asciiVariants c).any a.mem

/-- Every character. -/
def anyChar : CharSet := .compl noChar

/-- What spells words in any script: letters, numbers that are written as letters, and some marks. -/
def alphabetic : CharSet :=
  .union (.kinds (Text.Category.letters ++ [.letterNumber])) (.ranges Text.spellingMarks)

/-- Word characters of any script: what spells words, marks, digits, joining punctuation and joiners. -/
def word : CharSet :=
  .union alphabetic
    (.union (.kinds (Text.Category.marks ++ [.decimalNumber, .connectorSign])) (.ranges Text.joiners))

/-- Decimal digits of any script. -/
def digit : CharSet := .kinds [.decimalNumber]

/-- ASCII letters, digits and the underscore. -/
def asciiWord : CharSet := .ranges [(48, 57), (65, 90), (95, 95), (97, 122)]

/-- ASCII digits. -/
def asciiDigit : CharSet := .ranges [(48, 57)]

/-- ASCII blanks. -/
def asciiBlank : CharSet := .ranges [(9, 13), (32, 32)]

end CharSet

/-- A test of a position between two characters. -/
inductive Look where
  | textStart
  | textEnd
  | lineStart
  | lineEnd
  /-- Lines may end with a carriage return, a line feed, or both. -/
  | crlfStart
  | crlfEnd
  /-- A word character of the set stands on exactly one side. -/
  | wordEdge (word : CharSet)
  | noWordEdge (word : CharSet)
  | wordStart (word : CharSet)
  | wordEnd (word : CharSet)
  | halfStart (word : CharSet)
  | halfEnd (word : CharSet)
  deriving Repr, Inhabited

/-- Does a position pass the test, between the character before it and the one after it? -/
def Look.holds (before after : Option Char) : Look → Bool
  | .textStart => before.isNone
  | .textEnd => after.isNone
  | .lineStart => before.isNone || before == some '\n'
  | .lineEnd => after.isNone || after == some '\n'
  | .crlfStart => before.isNone || before == some '\n' || (before == some '\r' && after != some '\n')
  | .crlfEnd => after.isNone || after == some '\r' || (after == some '\n' && before != some '\r')
  | .wordEdge w => before.any w.mem != after.any w.mem
  | .noWordEdge w => before.any w.mem == after.any w.mem
  | .wordStart w => !before.any w.mem && after.any w.mem
  | .wordEnd w => before.any w.mem && !after.any w.mem
  | .halfStart w => !before.any w.mem
  | .halfEnd w => !after.any w.mem

/-- A description of texts. -/
inductive Pattern where
  | empty
  | set (s : CharSet)
  | look (l : Look)
  | seq (p q : Pattern)
  | alt (p q : Pattern)
  /-- At least so many times, and at most so many if there is a bound. -/
  | many (p : Pattern) (least : Nat) (most : Option Nat)
  deriving Repr, Inhabited

namespace Pattern

/-- The character before a position. -/
def charBefore (text : Array Char) : Nat → Option Char
  | 0 => none
  | i + 1 => text[i]?

/-- A pattern describes the stretch of a text between two positions. -/
inductive Matches (text : Array Char) : Pattern → Nat → Nat → Prop where
  | empty {i : Nat} : Matches text .empty i i
  | set {s : CharSet} {i : Nat} {c : Char} :
      text[i]? = some c → s.mem c = true → Matches text (.set s) i (i + 1)
  | look {l : Look} {i : Nat} :
      l.holds (charBefore text i) text[i]? = true → Matches text (.look l) i i
  | seq {p q : Pattern} {i j k : Nat} :
      Matches text p i j → Matches text q j k → Matches text (.seq p q) i k
  | altLeft {p q : Pattern} {i j : Nat} : Matches text p i j → Matches text (.alt p q) i j
  | altRight {p q : Pattern} {i j : Nat} : Matches text q i j → Matches text (.alt p q) i j
  | manyStop {p : Pattern} {most : Option Nat} {i : Nat} : Matches text (.many p 0 most) i i
  | manyMust {p : Pattern} {least : Nat} {most : Option Nat} {i j k : Nat} :
      most ≠ some 0 → Matches text p i j → Matches text (.many p least (most.map (· - 1))) j k →
      Matches text (.many p (least + 1) most) i k
  | manyMay {p : Pattern} {most : Option Nat} {i j k : Nat} :
      most ≠ some 0 → Matches text p i j → Matches text (.many p 0 (most.map (· - 1))) j k →
      Matches text (.many p 0 most) i k

/-- Put the members of a list that are not there yet in front. -/
def addNew (found : List Nat) : List Nat → List Nat
  | [] => found
  | i :: rest => if found.contains i then addNew found rest else addNew (i :: found) rest

/-- Step a set of positions a number of times. -/
def stepTimes (step : List Nat → List Nat) : Nat → List Nat → List Nat
  | 0, at_ => at_
  | n + 1, at_ => if at_.isEmpty then at_ else stepTimes step n (step at_)

/-- Add the positions that up to so many further steps reach. -/
def reach (step : List Nat → List Nat) : Nat → List Nat → List Nat → List Nat
  | 0, found, _ => found
  | n + 1, found, fresh =>
    let next := (step fresh).filter fun i => !found.contains i
    if next.isEmpty then found else reach step n (addNew found next) (addNew [] next)

/-- The positions at which stretches end that start at one of the given positions. -/
def ends (text : Array Char) : Pattern → List Nat → List Nat
  | .empty, at_ => at_
  | .set s, at_ => at_.filterMap fun i =>
    match text[i]? with
    | some c => if s.mem c then some (i + 1) else none
    | none => none
  | .look l, at_ => at_.filter fun i => l.holds (charBefore text i) text[i]?
  | .seq p q, at_ => q.ends text (addNew [] (p.ends text at_))
  | .alt p q, at_ => addNew (addNew [] (p.ends text at_)) (q.ends text at_)
  | .many p least most, at_ =>
    let step := fun l => addNew [] (p.ends text l)
    let start := stepTimes step least at_
    let more := match most with
      | some m => min (m - least) (text.size + 1)
      | none => text.size + 1
    if most.any (· < least) then [] else reach step more (addNew [] start) (addNew [] start)

/-- Does the pattern describe a stretch of the text, wherever it stands? -/
def occursIn (p : Pattern) (text : String) : Bool :=
  let chars := text.toList.toArray
  !(p.ends chars (List.range (chars.size + 1))).isEmpty

end Pattern

end AccessGate
