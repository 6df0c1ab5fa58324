import AccessGate.Pattern.Basic

/-!
# Flags of patterns — how the text of a pattern is read

Flags say whether case counts, what the signs of lines and of any character mean, whether classes hold
the characters of all scripts, and whether blanks and comments between the parts of a pattern count. With
them goes what the properties mean that a pattern may name.
-/

namespace AccessGate.Pattern

/-- A property of characters as it is written: what it is a value of, if that is said, its name, and
    whether the class holds what does not have it. -/
structure Property where
  family : Option (List Char)
  name : List Char
  unequal : Bool

/-- How the text of a pattern is read. -/
structure Flags where
  /-- The class of a property, if there is one of its name. The switch says that case does not count. -/
  property? : Bool → Property → Option CharSet
  ignoreCase : Bool := false
  multiLine : Bool := false
  dotAll : Bool := false
  /-- Classes hold the characters of any script; without it, those of ASCII only. -/
  unicode : Bool := true
  /-- Blanks and comments between the parts of a pattern do not count. -/
  verbose : Bool := false
  /-- A carriage return ends a line, too. -/
  crlf : Bool := false

/-- Drop blanks and comments; the switch says that a comment is open. -/
def skipComments : Bool → List Char → List Char
  | _, [] => []
  | true, c :: rest => skipComments (c != '\n') rest
  | false, c :: rest =>
    if Text.isBlank c then skipComments false rest
    else if c = '#' then skipComments true rest
    else c :: rest

/-- Drop what does not count between two parts. -/
def Flags.skip (f : Flags) (s : List Char) : List Char := if f.verbose then skipComments false s else s

end AccessGate.Pattern
