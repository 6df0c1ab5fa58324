import AccessGate.Context
import AccessGate.Session.Store

/-!
# Plans — what a decision asks of the world, step by step

A decision uses the session store, draws random octets and calls the host's components. A plan is the
tree of these steps: at each step it goes on with the answer. It says nothing about who answers, so the
same plan can be run against a store, against one that fails now and then, or one step at a time between
the steps of others.
-/

namespace AccessGate

/-- A call of a component of the host. -/
inductive Call where
  | fetch (client : String)
  | build (client : String)
  | redirect (client : String)
  | matcher (name : String)
  | authorizer (name : String)
  deriving DecidableEq, Repr

/-- How a call is shown in a log. -/
def Call.describe : Call → String
  | .fetch client => "fetch:" ++ client
  | .build client => "build:" ++ client
  | .redirect client => "redirect:" ++ client
  | .matcher name => "matcher:" ++ name
  | .authorizer name => "authorizer:" ++ name

/-- A tree of steps that ends in a value. -/
inductive Plan (α : Type) where
  | done (value : α)
  | store (step : StoreStep) (next : Except Error step.Answer → Plan α)
  | random (count : Nat) (next : List UInt8 → Plan α)
  | note (call : Call) (next : Plan α)

namespace Plan

variable {α β γ : Type}

/-- Go on with the value of a plan. -/
def bind : Plan α → (α → Plan β) → Plan β
  | .done value, f => f value
  | .store step next, f => .store step fun answer => (next answer).bind f
  | .random count next, f => .random count fun octets => (next octets).bind f
  | .note call next, f => .note call (next.bind f)

instance : Monad Plan where
  pure := .done
  bind := .bind

theorem bind_done (p : Plan α) : p.bind .done = p := by
  induction p with
  | done value => rfl
  | store step next ih => simp only [bind, ih]
  | random count next ih => simp only [bind, ih]
  | note call next ih => simp only [bind, ih]

theorem bind_assoc (p : Plan α) (f : α → Plan β) (g : β → Plan γ) :
    (p.bind f).bind g = p.bind fun a => (f a).bind g := by
  induction p with
  | done value => rfl
  | store step next ih => simp only [bind, ih]
  | random count next ih => simp only [bind, ih]
  | note call next ih => simp only [bind, ih]

instance : LawfulMonad Plan := LawfulMonad.mk' Plan (fun p => bind_done p)
  (fun _ _ => rfl) (fun p f g => bind_assoc p f g)

end Plan

/-- Who answers the steps of a plan: the lifetime of sessions, the time, the random octets of each draw,
    and the errors with which single store steps fail before they do anything. -/
structure Surroundings where
  lifetime : Lifetime
  now : Instant
  octets : Nat → Nat → List UInt8
  fails : Nat → StoreStep → Option Error

/-- What a plan changes while it runs: the store, the numbers of draws and of store steps, and the calls
    in order, the last one first. -/
structure World where
  store : MemoryStore
  draws : Nat
  steps : Nat
  calls : List Call
  deriving DecidableEq

/-- A world with a store and nothing done. -/
def World.ofStore (store : MemoryStore) : World := ⟨store, 0, 0, []⟩

/-- Run a plan. -/
def Plan.run {α : Type} (env : Surroundings) : Plan α → World → α × World
  | .done value, w => (value, w)
  | .store step next, w =>
    let w' := { w with steps := w.steps + 1 }
    match env.fails w.steps step with
    | some e => (next (.error e)).run env w'
    | none =>
      let (answer, after) := w.store.apply env.lifetime env.now step
      (next answer).run env { w' with store := after }
  | .random count next, w =>
    (next (env.octets w.draws count)).run env { w with draws := w.draws + 1 }
  | .note call next, w => next.run env { w with calls := call :: w.calls }

/-- A part of a decision: it may change the context, fail, and take steps; a failure keeps what was
    noted in the context before it. -/
abbrev Turn := ExceptT Error (StateT Context Plan)

namespace Turn

variable {α : Type}

/-- One step on the session store. -/
def store (step : StoreStep) : Turn step.Answer :=
  fun c => .store step fun answer => .done (answer, c)

/-- Random octets. -/
def random (count : Nat) : Turn (List UInt8) :=
  fun c => .random count fun octets => .done (.ok octets, c)

/-- Note a call of a component. -/
def note (call : Call) : Turn Unit := fun c => .note call (.done (.ok (), c))

/-- The context as it stands. -/
def context : Turn Context := fun c => .done (.ok c, c)

/-- Change the context. -/
def change (f : Context → Context) : Turn Unit := fun c => .done (.ok (), f c)

/-- A result that may be an error. -/
def ofExcept (result : Except Error α) : Turn α := fun c => .done (result, c)

/-- Fail. -/
def fail (e : Error) : Turn α := fun c => .done (.error e, c)

/-- A value that was read, or the error for a wrong shape. -/
def ofJson (value : Option α) : Turn α :=
  match value with
  | some a => pure a
  | none => fail .json

end Turn

end AccessGate
