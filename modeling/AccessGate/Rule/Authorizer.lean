import AccessGate.Action
import AccessGate.Rule.Registry
import AccessGate.Session.Plan

/-!
# Authorizers — who may pass

An authorizer looks at the request and the whole profile set. The authorizers of a list are asked in
order, and the first answer other than yes is the answer of the list.
-/

namespace AccessGate

/-- May these profiles pass? -/
abbrev Authorizer := Context → ProfileSet → Except Error Verdict

namespace Authorizer

/-- Somebody is known. -/
def authenticated : Authorizer := fun _ s => .ok (.ofBool (s.profiles.any fun p => !p.isAnonymous))

/-- Somebody has one of the roles. -/
def anyRole (roles : List String) : Authorizer :=
  fun _ s => .ok (.ofBool (s.profiles.any fun p => p.hasAnyRole roles))

/-- Somebody has all of the roles. -/
def allRoles (roles : List String) : Authorizer :=
  fun _ s => .ok (.ofBool (s.profiles.any fun p => p.hasAllRoles roles))

/-- Ask authorizers in order until one does not allow. -/
def askAll (profiles : ProfileSet) : List (String × Authorizer) → Turn Verdict
  | [] => pure .allowed
  | (name, authorizer) :: rest => do
    Turn.note (.authorizer name)
    match ← Turn.ofExcept (authorizer (← Turn.context) profiles) with
    | .allowed => askAll profiles rest
    | verdict => pure verdict

/-- The answer of the authorizers of a list. A blank list allows. Names are resolved before any
    authorizer is asked. -/
def check (registry : RuleRegistry Authorizer) (list : Option String) (profiles : ProfileSet) :
    Turn Verdict :=
  match Text.nonBlank list with
  | none => pure .allowed
  | some text =>
    match RuleRegistry.resolve registry (Text.names text) with
    | .error name => Turn.fail (.config (.unknownAuthorizer name))
    | .ok rules => askAll profiles rules

end Authorizer

end AccessGate
