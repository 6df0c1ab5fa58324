import AccessGate.Identifiers
import AccessGate.Session.Plan

/-! # Traces — what happened while a plan ran

    A plan is a tree of questions; a trace is one path through it, with the
    answer that came back at each step.  `Plan.Ends` relates a plan to EVERY
    path, whoever answered and however, so a statement about all traces holds
    over every session store, every source of random octets and every schedule
    of other requests in between.

    `Plan.trace` is the path of one run in given surroundings, and
    `ends_trace` ties the two: each run is one of the paths.  `Replays` says
    what a path does to a store in memory whose steps may also fail without
    effect. -/

namespace AccessGate

variable {α β : Type}

/-- One thing that happened while a plan ran. -/
inductive Event where
  | stored (step : StoreStep) (answer : Except Error step.Answer)
  | drawn (count : Nat) (octets : List UInt8)
  | called (call : Call)

/-- The session id that an event issued, if it drew the octets of one. -/
def Event.sessionId? : Event → Option String
  | .drawn count octets => if count = sessionIdOctets then some (sessionIdOf octets) else none
  | _ => none

/-- An event that changes no store: a look-up, a write that failed, or no step at all. -/
def Event.Idle : Event → Prop
  | .stored (.get _ _) _ => True
  | .stored (.set _ _ _) (.error _) => True
  | .stored _ _ => False
  | _ => True

/-- The session ids that were issued on a trace, in order. -/
def issuedIds (t : List Event) : List String := t.filterMap Event.sessionId?

@[simp] theorem issuedIds_append (t u : List Event) :
    issuedIds (t ++ u) = issuedIds t ++ issuedIds u := List.filterMap_append

/-- Calls leave the store alone. -/
theorem idle_called (calls : List Call) : ∀ event ∈ calls.map Event.called, event.Idle := by
  intro event he
  obtain ⟨call, -, rfl⟩ := List.mem_map.mp he
  trivial

/-- An event of calls is one of the calls. -/
theorem mem_of_called {calls : List Call} {call : Call} (h : .called call ∈ calls.map Event.called) :
    call ∈ calls := by
  obtain ⟨other, hm, heq⟩ := List.mem_map.mp h
  cases heq
  exact hm

/-- A call is no step of the store. -/
theorem not_stored_called {step : StoreStep} {answer : Except Error step.Answer}
    (calls : List Call) : .stored step answer ∉ calls.map Event.called := by
  intro h
  obtain ⟨call, -, heq⟩ := List.mem_map.mp h
  cases heq

@[simp] theorem issuedIds_called (calls : List Call) :
    issuedIds (calls.map .called) = [] := by
  induction calls with
  | nil => rfl
  | cons call rest ih => exact ih

namespace Plan

/-- A plan can end on a trace with a value. -/
def Ends : Plan α → List Event → α → Prop
  | .done value, t, a => t = [] ∧ a = value
  | .store step next, t, a =>
      ∃ answer rest, t = .stored step answer :: rest ∧ (next answer).Ends rest a
  | .random count next, t, a =>
      ∃ octets rest, t = .drawn count octets :: rest ∧ (next octets).Ends rest a
  | .note call next, t, a => ∃ rest, t = .called call :: rest ∧ next.Ends rest a

/-- A path through two plans in a row is a path through each. -/
theorem ends_bind {p : Plan α} {f : α → Plan β} {t : List Event} {b : β} :
    (p.bind f).Ends t b ↔ ∃ t₁ a t₂, t = t₁ ++ t₂ ∧ p.Ends t₁ a ∧ (f a).Ends t₂ b := by
  induction p generalizing t with
  | done value =>
      constructor
      · intro h
        exact ⟨[], value, t, rfl, ⟨rfl, rfl⟩, h⟩
      · rintro ⟨t₁, a, t₂, rfl, ⟨rfl, rfl⟩, h⟩
        exact h
  | store step next ih =>
      constructor
      · rintro ⟨answer, rest, rfl, h⟩
        obtain ⟨t₁, a, t₂, rfl, hp, hf⟩ := (ih answer).mp h
        exact ⟨.stored step answer :: t₁, a, t₂, rfl, ⟨answer, t₁, rfl, hp⟩, hf⟩
      · rintro ⟨t₁, a, t₂, rfl, ⟨answer, rest, rfl, hp⟩, hf⟩
        exact ⟨answer, rest ++ t₂, rfl, (ih answer).mpr ⟨rest, a, t₂, rfl, hp, hf⟩⟩
  | random count next ih =>
      constructor
      · rintro ⟨octets, rest, rfl, h⟩
        obtain ⟨t₁, a, t₂, rfl, hp, hf⟩ := (ih octets).mp h
        exact ⟨.drawn count octets :: t₁, a, t₂, rfl, ⟨octets, t₁, rfl, hp⟩, hf⟩
      · rintro ⟨t₁, a, t₂, rfl, ⟨octets, rest, rfl, hp⟩, hf⟩
        exact ⟨octets, rest ++ t₂, rfl, (ih octets).mpr ⟨rest, a, t₂, rfl, hp, hf⟩⟩
  | note call next ih =>
      constructor
      · rintro ⟨rest, rfl, h⟩
        obtain ⟨t₁, a, t₂, rfl, hp, hf⟩ := ih.mp h
        exact ⟨.called call :: t₁, a, t₂, rfl, ⟨t₁, rfl, hp⟩, hf⟩
      · rintro ⟨t₁, a, t₂, rfl, ⟨rest, rfl, hp⟩, hf⟩
        exact ⟨rest ++ t₂, rfl, ih.mpr ⟨rest, a, t₂, rfl, hp, hf⟩⟩

/-! ## Calls in a row -/

/-- Note calls one after the other, then go on. -/
def calling : List Call → Plan α → Plan α
  | [], p => p
  | call :: rest, p => .note call (calling rest p)

@[simp] theorem calling_bind (calls : List Call) (p : Plan α) (f : α → Plan β) :
    (calling calls p).bind f = calling calls (p.bind f) := by
  induction calls with
  | nil => rfl
  | cons call rest ih => exact congrArg (Plan.note call) ih

@[simp] theorem calling_calling (first second : List Call) (p : Plan α) :
    calling first (calling second p) = calling (first ++ second) p := by
  induction first with
  | nil => rfl
  | cons call rest ih => exact congrArg (Plan.note call) ih

/-- Calls come first, and the plan goes on behind them. -/
theorem ends_calling {calls : List Call} {p : Plan α} {t : List Event} {a : α} :
    (calling calls p).Ends t a ↔ ∃ rest, t = calls.map .called ++ rest ∧ p.Ends rest a := by
  induction calls generalizing t with
  | nil => exact ⟨fun h => ⟨t, rfl, h⟩, fun ⟨_, ht, h⟩ => ht ▸ h⟩
  | cons call rest ih =>
      constructor
      · rintro ⟨u, rfl, h⟩
        obtain ⟨v, rfl, hv⟩ := ih.mp h
        exact ⟨v, rfl, hv⟩
      · rintro ⟨v, rfl, hv⟩
        exact ⟨_, rfl, ih.mpr ⟨v, rfl, hv⟩⟩

end Plan

/-! ## The trace of a run -/

/-- Surroundings that stand still: no store step fails, and every random octet is zero. -/
def Surroundings.still (now : Instant) : Surroundings where
  lifetime := MemoryStore.defaultLifetime
  now := now
  octets _ count := List.replicate count 0
  fails _ _ := none

/-- What a store step answers in given surroundings, and the world after it. -/
def Surroundings.answer (env : Surroundings) (step : StoreStep) (w : World) :
    Except Error step.Answer × World :=
  match env.fails w.steps step with
  | some e => (.error e, { w with steps := w.steps + 1 })
  | none =>
      let (answer, after) := w.store.apply env.lifetime env.now step
      (answer, { w with steps := w.steps + 1, store := after })

namespace Plan

/-- A step of the store is answered by the surroundings, and then the plan goes on. -/
theorem run_store (env : Surroundings) (step : StoreStep)
    (next : Except Error step.Answer → Plan α) (w : World) :
    (Plan.store step next).run env w
      = (next (env.answer step w).1).run env (env.answer step w).2 := by
  rw [Plan.run, Surroundings.answer]
  cases env.fails w.steps step with
  | some e => rfl
  | none => rfl

/-- What happens while a plan runs in given surroundings. -/
def trace (env : Surroundings) : Plan α → World → List Event
  | .done _, _ => []
  | .store step next, w =>
      .stored step (env.answer step w).1
        :: (next (env.answer step w).1).trace env (env.answer step w).2
  | .random count next, w =>
      .drawn count (env.octets w.draws count)
        :: (next (env.octets w.draws count)).trace env { w with draws := w.draws + 1 }
  | .note call next, w => .called call :: next.trace env { w with calls := call :: w.calls }

/-- A run is one of the paths of its plan. -/
theorem ends_trace (env : Surroundings) (p : Plan α) (w : World) :
    p.Ends (p.trace env w) (p.run env w).1 := by
  induction p generalizing w with
  | done value => exact ⟨rfl, rfl⟩
  | store step next ih =>
      rw [run_store]
      exact ⟨_, _, rfl, ih (env.answer step w).1 (env.answer step w).2⟩
  | random count next ih => exact ⟨_, _, rfl, ih _ _⟩
  | note call next ih => exact ⟨_, rfl, ih _⟩

end Plan

/-! ## What a trace does to a store in memory -/

namespace MemoryStore

/-- An event takes a store to another: a store step does its work, or it fails
    and does nothing; no other event touches the store. -/
inductive Does (lifetime : Lifetime) (now : Instant) : MemoryStore → Event → MemoryStore → Prop
  | works (m : MemoryStore) (step : StoreStep) :
      Does lifetime now m (.stored step (m.apply lifetime now step).1)
        (m.apply lifetime now step).2
  | fails (m : MemoryStore) (step : StoreStep) (e : Error) :
      Does lifetime now m (.stored step (.error e)) m
  | drawn (m : MemoryStore) (count : Nat) (octets : List UInt8) :
      Does lifetime now m (.drawn count octets) m
  | called (m : MemoryStore) (call : Call) : Does lifetime now m (.called call) m

/-- The events of a trace take a store to another, one after the other. -/
inductive Replays (lifetime : Lifetime) (now : Instant) :
    MemoryStore → List Event → MemoryStore → Prop
  | nil (m : MemoryStore) : Replays lifetime now m [] m
  | cons {m m₁ m₂ : MemoryStore} {event : Event} {rest : List Event} :
      Does lifetime now m event m₁ → Replays lifetime now m₁ rest m₂ →
      Replays lifetime now m (event :: rest) m₂

variable {lifetime : Lifetime} {now : Instant} {m m' : MemoryStore} {t u : List Event}

/-- Without events nothing changes. -/
theorem replays_nil : Replays lifetime now m [] m' ↔ m' = m := by
  constructor
  · intro h
    cases h
    rfl
  · rintro rfl
    exact .nil _

/-- Events are done one after the other. -/
theorem replays_cons {event : Event} :
    Replays lifetime now m (event :: t) m' ↔
      ∃ m₁, Does lifetime now m event m₁ ∧ Replays lifetime now m₁ t m' := by
  constructor
  · intro h
    cases h with
    | cons hd hr => exact ⟨_, hd, hr⟩
  · rintro ⟨m₁, hd, hr⟩
    exact .cons hd hr

/-- A store step does its work, or it fails and does nothing. -/
theorem does_stored {step : StoreStep} {answer : Except Error step.Answer} :
    Does lifetime now m (.stored step answer) m' ↔
      (answer = (m.apply lifetime now step).1 ∧ m' = (m.apply lifetime now step).2) ∨
        (m' = m ∧ ∃ e, answer = .error e) := by
  constructor
  · intro h
    cases h with
    | works => exact .inl ⟨rfl, rfl⟩
    | fails _ e => exact .inr ⟨rfl, e, rfl⟩
  · rintro (⟨rfl, rfl⟩ | ⟨rfl, e, rfl⟩)
    · exact .works m step
    · exact .fails _ step e

/-- A write that is done. -/
theorem does_set {id key : String} {value : Json} :
    Does lifetime now m (.stored (.set id key value) (.ok ())) m' ↔
      m.set? lifetime now id key value = some m' := by
  rw [does_stored, apply]
  cases m.set? lifetime now id key value with
  | none =>
      constructor
      · rintro (⟨h, -⟩ | ⟨-, e, h⟩)
        · cases h
        · cases h
      · intro h
        cases h
  | some after =>
      constructor
      · rintro (⟨-, rfl⟩ | ⟨-, e, h⟩)
        · rfl
        · cases h
      · rintro ⟨⟩
        exact .inl ⟨rfl, rfl⟩

/-- Two traces in a row. -/
theorem replays_append :
    Replays lifetime now m (t ++ u) m' ↔
      ∃ m₁, Replays lifetime now m t m₁ ∧ Replays lifetime now m₁ u m' := by
  induction t generalizing m with
  | nil =>
      constructor
      · intro h
        exact ⟨m, .nil m, h⟩
      · rintro ⟨m₁, h, k⟩
        rw [replays_nil] at h
        exact h ▸ k
  | cons event rest ih =>
      constructor
      · intro h
        obtain ⟨m₁, hd, hr⟩ := replays_cons.mp h
        obtain ⟨m₂, hr₁, hr₂⟩ := ih.mp hr
        exact ⟨m₂, .cons hd hr₁, hr₂⟩
      · rintro ⟨m₂, h, k⟩
        obtain ⟨m₁, hd, hr⟩ := replays_cons.mp h
        exact .cons hd (ih.mpr ⟨m₂, hr, k⟩)

/-- Idle events leave the store as it is. -/
theorem eq_of_replays_idle (h : Replays lifetime now m t m') (hi : ∀ event ∈ t, event.Idle) :
    m' = m := by
  induction h with
  | nil => rfl
  | @cons m m₁ m₂ event rest hd _ ih =>
      obtain ⟨hevent, hrest⟩ := List.forall_mem_cons.mp hi
      rw [ih hrest]
      cases hd with
      | fails step e => rfl
      | drawn count octets => rfl
      | called call => rfl
      | works step =>
          cases step with
          | get id key => rfl
          | set id key value =>
              -- a write that works is not idle, so this one ran out of calendar
              cases hm : m.set? lifetime now id key value with
              | none => rw [apply, hm]
              | some after =>
                  rw [apply, hm] at hevent
                  exact hevent.elim
          | remove id key => exact hevent.elim
          | destroy id => exact hevent.elim
          | renew old new => exact hevent.elim

/-- What a look-up answered could be read from the start, if nothing changed the store before. -/
theorem get?_of_replays {id key : String} {value : Option Json}
    (h : Replays lifetime now m (t ++ .stored (.get id key) (.ok value) :: u) m')
    (hi : ∀ event ∈ t, event.Idle) : m.get? now id key = value := by
  obtain ⟨m₁, hbefore, hget⟩ := replays_append.mp h
  rw [← eq_of_replays_idle hbefore hi]
  obtain ⟨m₂, hd, -⟩ := replays_cons.mp hget
  rcases does_stored.mp hd with ⟨ha, -⟩ | ⟨-, e, he⟩
  · exact (Except.ok.inj ha).symm
  · cases he

end MemoryStore

/-- A run does to the store what its trace does. -/
theorem Plan.replays_trace (env : Surroundings) (p : Plan α) (w : World) :
    MemoryStore.Replays env.lifetime env.now w.store (p.trace env w) (p.run env w).2.store := by
  induction p generalizing w with
  | done value => exact .nil _
  | store step next ih =>
      rw [Plan.run_store]
      refine .cons ?_ (ih (env.answer step w).1 (env.answer step w).2)
      rw [Surroundings.answer]
      cases env.fails w.steps step with
      | some e => exact .fails _ _ _
      | none => exact .works _ _
  | random count next ih =>
      exact .cons (.drawn _ _ _) (ih (env.octets w.draws count) { w with draws := w.draws + 1 })
  | note call next ih =>
      exact .cons (.called _ _) (ih { w with calls := call :: w.calls })

end AccessGate
