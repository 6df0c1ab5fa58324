import AccessGate.Text.Blank

/-!
# Name lists — texts such as `facebook, google`

A name list is a text of names with commas between them. Blanks around a name do not count, and neither
do segments with nothing in them, so `a,, b ,` lists `a` and `b`.
-/

namespace AccessGate.Text

/-- The names of a list, in order: its segments between commas, trimmed, without the empty ones. -/
def names (text : String) : List String :=
  ((text.toList.splitOn ',').map fun s => String.ofList (trimChars s)).filter fun n => !n.isEmpty

/-- The text itself, unless it is missing or blank. -/
def nonBlank : Option String → Option String
  | some text => if isBlankText text then none else some text
  | none => none

/-- No listed name is empty. -/
theorem ne_empty_of_mem_names {text n : String} (h : n ∈ names text) : n ≠ "" := by
  have := (List.mem_filter.1 h).2
  intro hn
  simp [hn] at this

end AccessGate.Text
