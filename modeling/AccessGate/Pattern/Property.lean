import AccessGate.Pattern.Flags
import AccessGate.Text.ScriptTable

/-!
# Properties of characters — classes that a pattern names

A class may be given by the name of a property: a category of characters, a script, or something that the
characters have in common. A name is written with or without the name of what it is a value of; case,
blanks, hyphens and a leading "is" do not count in it.
-/

namespace AccessGate.Pattern

/-- The categories that go by each name. -/
def categoryNames : List (List String × List Text.Category) :=
  [(["l", "letter"], Text.Category.letters),
   (["lc", "casedletter"], Text.Category.casedLetters),
   (["lu", "uppercaseletter"], [.upperLetter]),
   (["ll", "lowercaseletter"], [.lowerLetter]),
   (["lt", "titlecaseletter"], [.titleLetter]),
   (["lm", "modifierletter"], [.modifierLetter]),
   (["lo", "otherletter"], [.otherLetter]),
   (["m", "mark", "combiningmark"], Text.Category.marks),
   (["mn", "nonspacingmark"], [.nonspacingMark]),
   (["mc", "spacingmark"], [.spacingMark]),
   (["me", "enclosingmark"], [.enclosingMark]),
   (["n", "number"], Text.Category.numbers),
   (["nd", "decimalnumber", "digit"], [.decimalNumber]),
   (["nl", "letternumber"], [.letterNumber]),
   (["no", "othernumber"], [.otherNumber]),
   (["p", "punctuation", "punct"], Text.Category.signs),
   (["pc", "connectorpunctuation"], [.connectorSign]),
   (["pd", "dashpunctuation"], [.dashSign]),
   (["ps", "openpunctuation"], [.openSign]),
   (["pe", "closepunctuation"], [.closeSign]),
   (["pi", "initialpunctuation"], [.initialSign]),
   (["pf", "finalpunctuation"], [.finalSign]),
   (["po", "otherpunctuation"], [.otherSign]),
   (["s", "symbol"], Text.Category.symbols),
   (["sm", "mathsymbol"], [.mathSymbol]),
   (["sc", "currencysymbol"], [.currencySymbol]),
   (["sk", "modifiersymbol"], [.modifierSymbol]),
   (["so", "othersymbol"], [.otherSymbol]),
   (["z", "separator"], Text.Category.separators),
   (["zs", "spaceseparator"], [.spaceSeparator]),
   (["zl", "lineseparator"], [.lineSeparator]),
   (["zp", "paragraphseparator"], [.paragraphSeparator]),
   (["cc", "control", "cntrl"], [.control]),
   (["cf", "format"], [.format]),
   (["co", "privateuse"], [.privateUse]),
   (["assigned"], Text.Category.all)]

/-- The characters of a category or of several. -/
def category? (name : String) : Option CharSet :=
  if name = "any" then some .anyChar
  else if name = "ascii" then some (.ranges [(0, 127)])
  else if name = "cn" ∨ name = "unassigned" then some (.compl (.kinds Text.Category.all))
  else if name = "c" ∨ name = "other" then some (.compl (.kinds Text.Category.graphics))
  else (categoryNames.find? fun e => e.1.contains name).map fun e => .kinds e.2

/-- The characters of a script. Two scripts have a second short name. -/
def script? (name : String) : Option CharSet :=
  let name := if name = "qaac" then "copt" else if name = "qaai" then "zinh" else name
  (Text.scripts.find? fun e => e.1 == name || e.2.1 == name).map fun e => .ranges e.2.2

/-- The characters that have something in common. -/
def trait? (name : String) : Option CharSet :=
  if name = "alpha" ∨ name = "alphabetic" then some .alphabetic
  else if name = "lower" ∨ name = "lowercase" then
    some (.union (.kinds [.lowerLetter]) (.ranges Text.smallSigns))
  else if name = "upper" ∨ name = "uppercase" then
    some (.union (.kinds [.upperLetter]) (.ranges Text.capitalSigns))
  else if name = "wspace" ∨ name = "whitespace" ∨ name = "space" then some .blank
  else if name = "joinc" ∨ name = "joincontrol" then some (.ranges Text.joiners)
  else if name = "ahex" ∨ name = "asciihexdigit" then some (.ranges [(48, 57), (65, 70), (97, 102)])
  else if name = "hex" ∨ name = "hexdigit" then
    some (.ranges [(48, 57), (65, 70), (97, 102), (0xFF10, 0xFF19), (0xFF21, 0xFF26),
      (0xFF41, 0xFF46)])
  else none

/-- The signs of a name that count, in small letters. -/
def plainChars (name : List Char) : List Char :=
  (name.filter fun c => c.toNat < 128 && c != ' ' && c != '_' && c != '-').map Char.toLower

/-- What counts of a name. The leading "is" belongs to the name of comments in one case. -/
def plainName (name : List Char) : String :=
  match name with
  | a :: b :: rest =>
    if a.toLower = 'i' ∧ b.toLower = 's' then
      String.ofList (if plainChars rest = ['c'] then ['i', 's', 'c'] else plainChars rest)
    else String.ofList (plainChars name)
  | _ => String.ofList (plainChars name)

namespace Property

/-- Cut a text at the first place where another stands. -/
def cutAt? (sep : List Char) : List Char → Option (List Char × List Char)
  | [] => none
  | c :: rest =>
    if sep.isPrefixOf (c :: rest) then some ([], (c :: rest).drop sep.length)
    else (cutAt? sep rest).map fun (before, after) => (c :: before, after)

/-- The property of a text between braces. -/
def ofChars (s : List Char) : Property :=
  match cutAt? ['!', '='] s with
  | some (family, name) => ⟨some family, name, true⟩
  | none =>
    match (cutAt? [':'] s).or (cutAt? ['='] s) with
    | some (family, name) => ⟨some family, name, false⟩
    | none => ⟨none, s, false⟩

/-- Read a text up to its closing brace; the number bounds its length. -/
def readBraced (f : Flags) : Nat → List Char → Option (List Char × List Char)
  | 0, _ => none
  | n + 1, s =>
    match f.skip s with
    | '\x7d' :: rest => some ([], rest)
    | c :: rest => (readBraced f n rest).map fun (inner, rest) => (c :: inner, rest)
    | [] => none

/-- Read a property, which is one letter or stands between braces. -/
def read? (f : Flags) (s : List Char) : Option (Property × List Char) :=
  match f.skip s with
  | '\x7b' :: rest => (readBraced f (rest.length + 1) rest).map fun (s, rest) => (ofChars s, rest)
  | c :: rest => if c = '\\' then none else some (⟨none, [c], false⟩, rest)
  | [] => none

/-- The characters that go by the name of a property. -/
def named? (p : Property) : Option CharSet :=
  let name := plainName p.name
  match p.family.map plainName with
  | none => (trait? name).or ((category? name).or (script? name))
  | some family =>
    if family = "gc" ∨ family = "generalcategory" then category? name
    else if family = "sc" ∨ family = "script" then script? name
    else none

/-- The class of a property, if there is one of its name. The switch says that case does not count. -/
def chars? (ignoreCase : Bool) (p : Property) : Option CharSet :=
  p.named?.map fun chars =>
    let chars := if ignoreCase then .anyCase chars else chars
    if p.unequal then .compl chars else chars

end Property

end AccessGate.Pattern
