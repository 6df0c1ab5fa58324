import AccessGate.Profile.Set
import AccessGate.Text.Fold
import AccessGate.Text.NameList

/-!
# Named rules — matchers and authorizers by name

A registry lists rules under names, no name twice; the order of the list is the order in which it is
enumerated. A rule is looked up by its very name first, and by any name that is the same up to ASCII
case when there is none.
-/

namespace AccessGate

/-- Rules under names. -/
abbrev RuleRegistry (α : Type) := List (String × α)

namespace RuleRegistry

variable {α : Type}

/-- Register a rule; one of the same name is replaced. -/
def add (r : RuleRegistry α) (name : String) (rule : α) : RuleRegistry α := putInOrder name rule r

/-- The rule of a name, with the name under which it is registered. -/
def find? (r : RuleRegistry α) (name : String) : Option (String × α) :=
  List.find? (fun e => e.1 == name) r <|> List.find? (fun e => Text.sameName e.1 name) r

/-- The rules of a list of names, or the first name that has none. -/
def resolve (r : RuleRegistry α) : List String → Except String (List (String × α))
  | [] => .ok []
  | name :: rest =>
    match find? r name with
    | none => .error name
    | some rule => (resolve r rest).map (rule :: ·)

end RuleRegistry

end AccessGate
