import AccessGate.Rule.Registry
import AccessGate.Session.Plan

/-!
# Matchers — which requests a decision is about

A matcher looks at the request alone. A decision is about a request when every matcher of its list
matches; when one does not, the gate steps aside.
-/

namespace AccessGate

/-- Does a decision concern a request? -/
abbrev Matcher := Context → Except Error Bool

namespace Matcher

/-- Ask matchers in order until one does not match. -/
def askAll : List (String × Matcher) → Turn Bool
  | [] => pure true
  | (name, matcher) :: rest => do
    Turn.note (.matcher name)
    if ← Turn.ofExcept (matcher (← Turn.context)) then askAll rest else pure false

/-- Do all matchers of a list match? A blank list matches everything. Names are resolved before any
    matcher is asked. -/
def check (registry : RuleRegistry Matcher) (list : Option String) : Turn Bool :=
  match Text.nonBlank list with
  | none => pure true
  | some text =>
    match RuleRegistry.resolve registry (Text.names text) with
    | .error name => Turn.fail (.config (.unknownMatcher name))
    | .ok rules => askAll rules

/-- Match requests with one of the given methods. -/
def ofMethods (methods : List String) : Matcher := fun c => .ok (methods.contains c.request.method)

end Matcher

end AccessGate
