import AccessGate.Proofs.Lookup
import Mathlib.Data.Set.Basic
import Mathlib.Logic.Function.Basic

/-! # Sessions end at their deadlines

    A store keeps a session that has ended until some step comes across it, and each
    step deals with it in a way of its own: a look-up hides it, a write clears it and
    goes on with it, a removal changes it unseen, a move drops it, a clean-up drops
    all there are.  `Ledger` is the store one thinks of instead.  In it a session is a
    value at each key up to a deadline, and one that has ended does not exist.

    `existing_changed` says of each step that what exists after it depends on what
    existed before it and on nothing else, and `sights_of_agree` that a store and a
    ledger which agree on what exists give the same answers ever after.  The rest is
    read off the ledger (`keepsDeadlines`). -/

namespace AccessGate

/-! ## The store one thinks of -/

/-- A session as one thinks of it. -/
structure Lease where
  values : String → Option Json
  deadline : Instant

/-- Sessions by id. -/
def Ledger : Type := String → Option Lease

/-- What can be asked of a store. -/
inductive Task where
  | step (step : StoreStep)
  | keys (id : String)
  | cleanup

/-- A task at an instant, through a clone of the store with a lifetime of its own.  A
    session that is written to or moved lives up to the deadline. -/
structure Deed where
  lifetime : Lifetime
  now : Instant
  deadline : Instant
  reaches : now.add? lifetime = some deadline
  task : Task

/-- What the holder of a store gets to see: the value at a key, or which keys there are. -/
inductive Sight where
  | value (value : Option Json)
  | keys (keys : Set String)

/-- Deeds one after the other: the clock never goes back. -/
def Ordered (h : List Deed) : Prop := h.Pairwise fun d e => e.now.before d.now = false

namespace Ledger

variable (L : Ledger)

/-- A session that has ended does not exist. -/
def existing (now : Instant) : Ledger := fun id => (L id).filter fun s => !s.deadline.before now

/-- Put a session in the place of what is at an id, or nothing. -/
def put (id : String) (s : Option Lease) : Ledger := fun other => if other = id then s else L other

/-- The values at an id. -/
def valuesAt (id : String) : String → Option Json :=
  ((L id).map Lease.values).getD fun _ => none

/-- What a task makes of the sessions that exist.  Only to write and to move set a deadline. -/
def changed (deadline : Instant) : Task → Ledger
  | .step (.get _ _) => L
  | .step (.set id key value) =>
      L.put id (some ⟨Function.update (L.valuesAt id) key (some value), deadline⟩)
  | .step (.remove id key) =>
      L.put id ((L id).map fun s => { s with values := Function.update s.values key none })
  | .step (.destroy id) => L.put id none
  | .step (.renew old new) =>
      match L old with
      | none => L
      | some s => (L.put old none).put new (some { s with deadline := deadline })
  | .keys _ => L
  | .cleanup => L

/-- What a task shows of the sessions that exist. -/
def shown : Task → Option Sight
  | .step (.get id key) => some (.value (L.valuesAt id key))
  | .keys id => some (.keys {key | (L.valuesAt id key).isSome})
  | _ => none

/-- What a deed leaves. -/
def after (d : Deed) : Ledger := (L.existing d.now).changed d.deadline d.task

/-- The answers of a history. -/
def sights (L : Ledger) : List Deed → List Sight
  | [] => []
  | d :: rest => ((L.existing d.now).shown d.task).toList ++ (L.after d).sights rest

end Ledger

namespace MemoryStore

variable (m : MemoryStore)

/-- What a task makes of a store. -/
def changed (lifetime : Lifetime) (now : Instant) : Task → MemoryStore
  | .step step => (m.apply lifetime now step).2
  | .keys _ => m
  | .cleanup => (m.cleanup now).2

/-- What a task shows of a store. -/
def shown (now : Instant) : Task → Option Sight
  | .step (.get id key) => some (.value (m.get? now id key))
  | .keys id => some (.keys {key | key ∈ m.keys now id})
  | _ => none

/-- What a deed leaves. -/
def after (d : Deed) : MemoryStore := m.changed d.lifetime d.now d.task

/-- The answers of a history. -/
def sights (m : MemoryStore) : List Deed → List Sight
  | [] => []
  | d :: rest => (m.shown d.now d.task).toList ++ (m.after d).sights rest

/-- A store as a ledger. -/
def ledger : Ledger := fun id => (m.sessions.get? id).map fun s => ⟨s.values.get?, s.deadline⟩

end MemoryStore

/-! ## What exists -/

namespace Ledger

variable {L : Ledger} {now later : Instant} {id : String}

theorem existing_apply (L : Ledger) (now : Instant) (id : String) :
    L.existing now id = (L id).filter fun s => !s.deadline.before now := rfl

/-- What exists later existed before. -/
theorem existing_existing (h : later.before now = false) :
    (L.existing now).existing later = L.existing later := by
  funext id
  rw [existing_apply, existing_apply, existing_apply]
  cases L id with
  | none => rfl
  | some s =>
      rw [Option.filter_some]
      cases hd : s.deadline.before now with
      | false => rfl
      | true =>
          have hend : s.deadline.before later = true := by
            by_contra hnot
            have hlive := Instant.not_before_trans h (Bool.not_eq_true _ ▸ hnot)
            cases hd.symm.trans hlive
          rw [Option.filter_some, hend]
          rfl

/-- What exists after an entry is what existed, with the entry if that has not ended. -/
theorem existing_put (L : Ledger) (now : Instant) (id : String) (s : Option Lease) :
    (L.put id s).existing now
      = (L.existing now).put id (s.filter fun s => !s.deadline.before now) := by
  funext other
  rw [existing_apply, put, put]
  split
  · rfl
  · rfl

/-- To put nothing where nothing is changes nothing. -/
theorem put_eq_self {s : Option Lease} (h : L id = s) : L.put id s = L := by
  funext other
  rw [put]
  split
  · next heq => rw [heq, h]
  · rfl

end Ledger

namespace MemoryStore

variable {m : MemoryStore} {now : Instant} {lifetime : Lifetime}

theorem ledger_apply (m : MemoryStore) (id : String) :
    m.ledger id = (m.sessions.get? id).map fun s => ⟨s.values.get?, s.deadline⟩ := rfl

/-- What exists at an id is what lives there. -/
theorem existing_ledger (m : MemoryStore) (now : Instant) (id : String) :
    m.ledger.existing now id = (m.live? now id).map fun s => ⟨s.values.get?, s.deadline⟩ := by
  rw [Ledger.existing_apply, ledger_apply, live?, Option.filter_map]
  rfl

/-- What can be read is what exists. -/
theorem valuesAt_existing (m : MemoryStore) (now : Instant) (id : String) :
    (m.ledger.existing now).valuesAt id = m.get? now id := by
  rw [Ledger.valuesAt, existing_ledger]
  funext key
  rw [get?]
  cases m.live? now id with
  | none => rfl
  | some s => rfl

/-- The keys are those at which something can be read. -/
theorem mem_keys_iff {id key : String} :
    key ∈ m.keys now id ↔ (m.get? now id key).isSome = true := by
  rw [keys, get?]
  cases m.live? now id with
  | none => exact iff_of_false List.not_mem_nil Bool.false_ne_true
  | some s => exact s.values.mem_keys_iff

/-- A task shows of a store what it shows of the sessions that exist. -/
theorem shown_eq (m : MemoryStore) (now : Instant) (task : Task) :
    m.shown now task = (m.ledger.existing now).shown task := by
  cases task with
  | step step =>
      cases step with
      | get id key => rw [shown, Ledger.shown, valuesAt_existing]
      | set id key value => rfl
      | remove id key => rfl
      | destroy id => rfl
      | renew old new => rfl
  | keys id =>
      have hkeys : {key | key ∈ m.keys now id} = {key | (m.get? now id key).isSome} :=
        Set.ext fun key => mem_keys_iff
      rw [shown, Ledger.shown, valuesAt_existing, hkeys]
  | cleanup => rfl

/-! ## One step -/

variable {deadline : Instant}

/-- A write enters the value with a new deadline. -/
private theorem ledger_set? {id key : String} {value : Json} {m' : MemoryStore}
    (hadd : now.add? lifetime = some deadline) (h : m.set? lifetime now id key value = some m') :
    m'.ledger = m.ledger.put id
      (some ⟨Function.update ((m.ledger.existing now).valuesAt id) key (some value), deadline⟩) := by
  funext other
  obtain ⟨deadline', hadd', hget⟩ := sessions_set? h other
  cases hadd.symm.trans hadd'
  rw [ledger_apply, hget, Ledger.put]
  by_cases ho : other = id
  · rw [if_pos ho, if_pos ho, Option.map_some, valuesAt_existing]
    congr 2
    funext k
    rw [Dict.get?_insert, Function.update_apply, get?_valuesAt]
  · rw [if_neg ho, if_neg ho]
    rfl

/-- To take a value away changes no deadline. -/
private theorem ledger_remove (m : MemoryStore) (id key : String) :
    (m.remove id key).ledger = m.ledger.put id
      ((m.ledger id).map fun s => { s with values := Function.update s.values key none }) := by
  funext other
  rw [ledger_apply, sessions_remove, Ledger.put, ledger_apply m id]
  split
  · rw [Option.map_map, Option.map_map]
    congr 1
    funext s
    have hvalues : (s.values.erase key).get? = Function.update s.values.get? key none := by
      funext k
      rw [Dict.get?_erase, Function.update_apply]
    show (⟨(s.values.erase key).get?, s.deadline⟩ : Lease) = _
    rw [hvalues]
    rfl
  · rfl

/-- To end a session strikes its entry out. -/
private theorem ledger_destroy (m : MemoryStore) (id : String) :
    (m.destroy id).ledger = m.ledger.put id none := by
  funext other
  rw [ledger_apply, destroy, Dict.get?_erase, Ledger.put]
  split
  · rfl
  · rfl

/-- Dropping ended sessions leaves what exists. -/
private theorem ledger_cleanup (m : MemoryStore) (now : Instant) :
    (m.cleanup now).2.ledger = m.ledger.existing now := by
  funext id
  rw [existing_ledger, ledger_apply, cleanup, Dict.get?_filter, live?]

/-- A move strikes one entry out and enters another. -/
private theorem ledger_renew {old new : String} {s : Session} (h : m.sessions.get? old = some s)
    (hl : s.isLive now = true) (hadd : now.add? lifetime = some deadline) :
    (m.renew lifetime now old new).2.ledger
      = (m.ledger.put old none).put new (some ⟨s.values.get?, deadline⟩) := by
  rw [renew_of_live h hl hadd]
  funext other
  rw [ledger_apply, Dict.get?_insert, Dict.get?_erase, Ledger.put, Ledger.put]
  split
  · rfl
  · split
    · rfl
    · rfl

/-- A step takes what exists to what is made of it, whatever has ended. -/
theorem existing_changed (hadd : now.add? lifetime = some deadline) (task : Task) :
    (m.changed lifetime now task).ledger.existing now
      = ((m.ledger.existing now).changed deadline task).existing now := by
  have hself : (m.ledger.existing now).existing now = m.ledger.existing now :=
    Ledger.existing_existing now.before_irrefl
  cases task with
  | keys id => exact hself.symm
  | cleanup =>
      show (m.cleanup now).2.ledger.existing now = (m.ledger.existing now).existing now
      rw [ledger_cleanup]
  | step step =>
      cases step with
      | get id key => exact hself.symm
      | set id key value =>
          obtain ⟨m', hm⟩ : ∃ m', m.set? lifetime now id key value = some m' := by
            rw [set?, hadd]
            exact ⟨_, rfl⟩
          rw [changed, apply, hm, Ledger.changed]
          show m'.ledger.existing now = _
          rw [ledger_set? hadd hm, Ledger.existing_put, Ledger.existing_put, hself]
      | remove id key =>
          show (m.remove id key).ledger.existing now = _
          rw [ledger_remove, Ledger.changed, Ledger.existing_put, Ledger.existing_put, hself,
            Ledger.existing_apply]
          -- the deadline stays, so what has ended is left out before or after
          congr 1
          rw [Option.filter_map, Option.filter_map]
          show Option.map _ (m.ledger.existing now id)
            = Option.map _ ((m.ledger.existing now).existing now id)
          rw [hself]
      | destroy id =>
          show (m.destroy id).ledger.existing now = _
          rw [ledger_destroy, Ledger.changed, Ledger.existing_put, Ledger.existing_put, hself]
      | renew old new =>
          show (m.renew lifetime now old new).2.ledger.existing now = _
          rw [Ledger.changed, existing_ledger]
          cases hold : m.sessions.get? old with
          | none =>
              rw [renew_of_none hold, live?, hold]
              exact hself.symm
          | some s =>
              cases hlive : s.isLive now with
              | false =>
                  -- a session that has ended is dropped, and does not exist either
                  have hnone : m.live? now old = none := by
                    rw [live?, hold, Option.filter_some, hlive]
                    rfl
                  rw [renew_of_ended hold hlive, ledger_destroy, Ledger.existing_put, hnone]
                  show (m.ledger.existing now).put old none = (m.ledger.existing now).existing now
                  rw [hself, Ledger.put_eq_self]
                  rw [existing_ledger, hnone]
                  rfl
              | true =>
                  have hsome : m.live? now old = some s := by
                    rw [live?, hold, Option.filter_some, hlive]
                    rfl
                  rw [ledger_renew hold hlive hadd, hsome]
                  show _ = (((m.ledger.existing now).put old none).put new
                    (some ⟨s.values.get?, deadline⟩)).existing now
                  rw [Ledger.existing_put, Ledger.existing_put, Ledger.existing_put,
                    Ledger.existing_put, hself]

end MemoryStore

/-! ## Histories -/

/-- A history goes on from an instant. -/
def Since (t : Instant) (h : List Deed) : Prop := ∀ d ∈ h, d.now.before t = false

/-- Does a deed no more than drop what has ended? -/
def Deed.tidies (d : Deed) : Bool :=
  match d.task with
  | .cleanup => true
  | _ => false

namespace Ledger

variable {L : Ledger} {value : Json} {id key : String}

/-- A value stands nowhere. -/
def Lacks (L : Ledger) (value : Json) : Prop :=
  ∀ id s, L id = some s → ∀ key, s.values key ≠ some value

theorem Lacks.existing (h : L.Lacks value) (now : Instant) : (L.existing now).Lacks value :=
  fun id s hs => h id s (Option.filter_eq_some_iff.mp hs).1

theorem Lacks.valuesAt (h : L.Lacks value) : L.valuesAt id key ≠ some value := by
  rw [Ledger.valuesAt]
  cases hs : L id with
  | none => exact nofun
  | some s => exact h id s hs key

theorem Lacks.put {s : Option Lease} (h : L.Lacks value)
    (hs : ∀ lease, s = some lease → ∀ key, lease.values key ≠ some value) :
    (L.put id s).Lacks value := by
  intro other lease hlease
  rw [Ledger.put] at hlease
  split at hlease
  · exact hs lease hlease
  · exact h other lease hlease

/-- A task that does not write a value leaves it standing nowhere. -/
theorem Lacks.changed {task : Task} {deadline : Instant} (h : L.Lacks value)
    (hw : ∀ id key, task ≠ .step (.set id key value)) : (L.changed deadline task).Lacks value := by
  cases task with
  | keys id => exact h
  | cleanup => exact h
  | step step =>
      cases step with
      | get id key => exact h
      | set id key v =>
          refine h.put ?_
          rintro lease ⟨⟩ k
          show Function.update (L.valuesAt id) key (some v) k ≠ some value
          by_cases hk : k = key
          · rw [hk, Function.update_self]
            rintro ⟨⟩
            exact hw id key rfl
          · rw [Function.update_of_ne hk]
            exact h.valuesAt
      | remove id key =>
          refine h.put ?_
          intro lease hlease k
          obtain ⟨s, hs, rfl⟩ := Option.map_eq_some_iff.mp hlease
          show Function.update s.values key none k ≠ some value
          by_cases hk : k = key
          · rw [hk, Function.update_self]
            exact nofun
          · rw [Function.update_of_ne hk]
            exact h id s hs k
      | destroy id => exact h.put fun _ hlease => absurd hlease (Option.not_mem_none _)
      | renew old new =>
          rw [Ledger.changed]
          cases hs : L old with
          | none => exact h
          | some s =>
              refine Lacks.put (h.put fun _ hlease => absurd hlease (Option.not_mem_none _)) ?_
              rintro lease ⟨⟩
              exact h old s hs

/-- A value that stands nowhere is never answered, as long as nobody writes it. -/
theorem Lacks.not_mem_sights {h : List Deed} (hlacks : L.Lacks value)
    (hw : ∀ d ∈ h, ∀ id key, d.task ≠ .step (.set id key value)) :
    .value (some value) ∉ L.sights h := by
  induction h generalizing L with
  | nil => exact List.not_mem_nil
  | cons d rest ih =>
      obtain ⟨hd, hrest⟩ := List.forall_mem_cons.mp hw
      rw [Ledger.sights, List.mem_append]
      rintro (hmem | hmem)
      · rw [Option.mem_toList, shown.eq_def] at hmem
        split at hmem
        · injection Option.some.inj hmem with hvalue
          exact (hlacks.existing d.now).valuesAt hvalue
        · cases hmem
        · cases hmem
      · exact ih ((hlacks.existing d.now).changed hd) hrest hmem

end Ledger

namespace MemoryStore

variable {m m' : MemoryStore} {L : Ledger} {h : List Deed} {t : Instant}

/-- A store answers as a ledger does with which it agrees on what exists, at the time
    of each deed. -/
theorem sights_of_agree (hordered : Ordered h)
    (hagree : ∀ d ∈ h, m.ledger.existing d.now = L.existing d.now) : m.sights h = L.sights h := by
  induction h generalizing m L with
  | nil => rfl
  | cons d rest ih =>
      obtain ⟨hlater, hrest⟩ := List.pairwise_cons.mp hordered
      have hnow := hagree d List.mem_cons_self
      have hstep : (m.after d).ledger.existing d.now = (L.after d).existing d.now := by
        rw [after, existing_changed d.reaches, hnow, Ledger.after]
      have hafter : ∀ e ∈ rest, (m.after d).ledger.existing e.now = (L.after d).existing e.now := by
        intro e he
        rw [← Ledger.existing_existing (hlater e he), hstep,
          Ledger.existing_existing (hlater e he)]
      rw [sights, Ledger.sights, shown_eq, hnow, ih hrest hafter]

/-- What has ended makes no difference to any later answer. -/
theorem sights_of_existing (hordered : Ordered h) (hsince : Since t h)
    (hagree : m.ledger.existing t = L.existing t) : m.sights h = L.sights h := by
  refine sights_of_agree hordered fun d hd => ?_
  rw [← Ledger.existing_existing (hsince d hd), hagree, Ledger.existing_existing (hsince d hd)]

theorem sights_congr (hordered : Ordered h) (hsince : Since t h)
    (hagree : m'.ledger.existing t = m.ledger.existing t) : m'.sights h = m.sights h :=
  (sights_of_existing hordered hsince hagree).trans
    (sights_of_existing hordered hsince rfl).symm

/-- To drop a session that has ended changes no later answer. -/
theorem sights_destroy_of_ended {id : String} {s : Session} (hordered : Ordered h)
    (hsince : Since t h) (hs : m.sessions.get? id = some s) (hended : s.isLive t = false) :
    (m.destroy id).sights h = m.sights h := by
  refine sights_congr hordered hsince ?_
  rw [ledger_destroy, Ledger.existing_put]
  refine Ledger.put_eq_self ?_
  rw [existing_ledger, live?, hs, Option.filter_some, hended]
  rfl

/-- A value that can be read nowhere is never answered again, unless it is written. -/
theorem not_mem_sights {value : Json} (hordered : Ordered h) (hsince : Since t h)
    (hgone : ∀ id key, m.get? t id key ≠ some value)
    (hw : ∀ d ∈ h, ∀ id key, d.task ≠ .step (.set id key value)) :
    .value (some value) ∉ m.sights h := by
  have hself : m.ledger.existing t = (m.ledger.existing t).existing t :=
    (Ledger.existing_existing t.before_irrefl).symm
  rw [sights_of_existing hordered hsince hself]
  refine Ledger.Lacks.not_mem_sights ?_ hw
  intro id s hs key hvalue
  refine hgone id key ?_
  rw [← valuesAt_existing, Ledger.valuesAt, hs]
  exact hvalue

/-- Clean-ups change no answer. -/
theorem sights_filter (hordered : Ordered h) :
    m.sights (h.filter fun d => !d.tidies) = m.sights h := by
  induction h generalizing m with
  | nil => rfl
  | cons d rest ih =>
      obtain ⟨hlater, hrest⟩ := List.pairwise_cons.mp hordered
      cases htidies : d.tidies with
      | false =>
          rw [List.filter_cons_of_pos (by rw [htidies]; rfl), sights, sights, ih hrest]
      | true =>
          have htask : d.task = .cleanup := by
            rw [Deed.tidies] at htidies
            split at htidies
            · assumption
            · cases htidies
          rw [List.filter_cons_of_neg (by rw [htidies]; decide), ih hrest, sights, htask]
          refine (sights_congr hrest hlater ?_).symm
          rw [after, htask, changed, ledger_cleanup]
          exact Ledger.existing_existing d.now.before_irrefl

/-! Moving a session that exists, and one that does not. -/

variable {d : Deed} {old new : String}

/-- What is moved can be read under the new id up to the deadline. -/
theorem get?_after_renew (htask : d.task = .step (.renew old new))
    (hlive : (m.live? d.now old).isSome = true) (instant : Instant) (key : String) :
    (m.after d).get? instant new key
      = if d.deadline.before instant then none else m.get? d.now old key := by
  obtain ⟨s, hs⟩ := Option.isSome_iff_exists.mp hlive
  obtain ⟨hkept, hl⟩ := Option.filter_eq_some_iff.mp hs
  have hmoved : (m.after d).sessions.get? new = some ⟨s.values, d.deadline⟩ := by
    rw [after, htask]
    show (m.renew d.lifetime d.now old new).2.sessions.get? new = _
    rw [renew_of_live hkept hl d.reaches]
    exact Dict.get?_insert_self _ _ _
  rw [get?_of_kept hmoved, Session.isLive, get?_of_kept hkept, hl, if_pos rfl]
  cases d.deadline.before instant with
  | true => rfl
  | false => rfl

/-- To move a session that does not exist shows nowhere. -/
theorem get?_after_renew_of_none (htask : d.task = .step (.renew old new))
    (hnone : m.live? d.now old = none) {instant : Instant} (hnow : instant.before d.now = false)
    (id key : String) : (m.after d).get? instant id key = m.get? instant id key := by
  rw [after, htask, changed, apply]
  cases hold : m.sessions.get? old with
  | none => rw [renew_of_none hold]
  | some s =>
      have hended : s.isLive d.now = false := by
        rw [live?, hold] at hnone
        exact Bool.not_eq_true _ ▸ Option.filter_eq_none_iff.mp hnone s rfl
      have hlater : s.isLive instant = false := by
        by_contra hlive
        rw [Bool.not_eq_false, Session.isLive, Bool.not_eq_true'] at hlive
        rw [Session.isLive, Instant.not_before_trans hnow hlive] at hended
        cases hended
      rw [renew_of_ended hold hended]
      exact get?_destroy_of_ended hold hlater id key

/-- What the holders of a store can rely on, from the state it is in: its answers, in
    any history that follows, are those of the store one thinks of. -/
structure KeepsDeadlines (m : MemoryStore) (h : List Deed) : Prop where
  answers : m.sights h = m.ledger.sights h
  distinct : ∀ now id, (m.keys now id).Nodup
  /-- A session that has ended may as well have been dropped. -/
  ended : ∀ t id s, Since t h → m.sessions.get? id = some s → s.isLive t = false →
    (m.destroy id).sights h = m.sights h
  /-- A value that can be read nowhere stays so, under every id, unless it is written. -/
  gone : ∀ t value, Since t h → (∀ id key, m.get? t id key ≠ some value) →
    (∀ d ∈ h, ∀ id key, d.task ≠ .step (.set id key value)) →
    .value (some value) ∉ m.sights h
  /-- A session that lives is moved with all that it holds, up to the new deadline. -/
  moved : ∀ (d : Deed) old new, d.task = .step (.renew old new) → new ≠ old →
    (m.live? d.now old).isSome = true → ∀ instant key,
    (m.after d).get? instant new key
        = (if d.deadline.before instant then none else m.get? d.now old key) ∧
      (m.after d).get? instant old key = none
  /-- To move a session that has ended, or that there never was, shows nowhere. -/
  unmoved : ∀ (d : Deed) old new, d.task = .step (.renew old new) → m.live? d.now old = none →
    ∀ instant id key, instant.before d.now = false →
    (m.after d).get? instant id key = m.get? instant id key
  /-- Clean-ups may come or be left out anywhere. -/
  tidied : ∀ h', Ordered h' →
    (h'.filter fun d => !d.tidies) = (h.filter fun d => !d.tidies) → m.sights h' = m.sights h

/-- A store keeps its deadlines through every history. -/
theorem keepsDeadlines (m : MemoryStore) (hordered : Ordered h) : m.KeepsDeadlines h where
  answers := sights_of_agree hordered fun _ _ => rfl
  distinct now id := by
    rw [keys]
    split
    · exact Dict.nodup_keys _
    · exact List.nodup_nil
  ended _ _ _ hsince hs hended := sights_destroy_of_ended hordered hsince hs hended
  gone _ _ hsince hgone hw := not_mem_sights hordered hsince hgone hw
  moved d old new htask hne hlive instant key := by
    refine ⟨get?_after_renew htask hlive instant key, ?_⟩
    rw [after, htask]
    exact get?_renew_self hne instant key
  unmoved _ _ _ htask hnone _ id key hnow := get?_after_renew_of_none htask hnone hnow id key
  tidied h' hordered' hsame := by
    rw [← sights_filter hordered', hsame, sights_filter hordered]

/-! A cart is put into a session, and the session moved through a clone whose sessions
    end an hour before they begin. -/

/-- The cart is put. -/
def cartPut : Deed :=
  ⟨defaultLifetime, .epoch, firstDeadline, rfl, .step (.set "s" "cart" (.str "full"))⟩

/-- The session is moved. -/
def cartMoved : Deed := ⟨.ofMinutes (-60), .mk 1 0, .mk (-3599) 0, rfl, .step (.renew "s" "t")⟩

/-- The cart is looked for at an instant under an id. -/
def cartSought (now deadline : Instant) (reaches : now.add? defaultLifetime = some deadline)
    (id : String) : Deed := ⟨defaultLifetime, now, deadline, reaches, .step (.get id "cart")⟩

/-- The session lives when it is moved, and nothing can be read under the new id. -/
theorem moved_unseen :
    ((empty.after cartPut).live? cartMoved.now "s").isSome = true ∧
      (empty.after cartPut).get? cartMoved.now "s" "cart" = some (.str "full") ∧
      ((empty.after cartPut).after cartMoved).get? cartMoved.now "t" "cart" = none :=
  ⟨rfl, rfl, rfl⟩

/-- The course of the cart, with clean-ups. -/
def cartHistory : List Deed :=
  [cartPut, cartSought (.mk 1 0) (.mk 1801 0) rfl "s", cartMoved,
    ⟨defaultLifetime, .mk 1 0, .mk 1801 0, rfl, .cleanup⟩, cartSought (.mk 2 0) (.mk 1802 0) rfl "t"]

/-- The ledger tells what is answered. -/
theorem keepsDeadlines_cart :
    empty.sights cartHistory = [.value (some (.str "full")), .value none] := by
  have hordered : Ordered cartHistory := by
    unfold Ordered
    decide
  rw [(keepsDeadlines empty hordered).answers]
  rfl

end MemoryStore

end AccessGate
