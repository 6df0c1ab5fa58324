import AccessGate.Proofs.Trace
import AccessGate.Session.Scopes

/-! # Turns as plans

    A turn is a function from a context to a plan.  Each equation here writes
    one turn out as the plan it is, so that what a turn can do is read off the
    plan's questions; the functions of `Scopes` are opened nowhere else. -/

namespace AccessGate

variable {α β : Type}

namespace Turn

/-- What follows a part of a decision: the next part, unless the first failed. -/
def andThen (f : α → Turn β) : Except Error α × Context → Plan (Except Error β × Context)
  | (.ok a, c) => f a c
  | (.error e, c) => .done (.error e, c)

@[simp] theorem andThen_ok (f : α → Turn β) (a : α) (c : Context) :
    andThen f (.ok a, c) = f a c := rfl

/-- In a row, the second turn goes on in the context that the first one left. -/
@[simp] theorem bind_apply (x : Turn α) (f : α → Turn β) (c : Context) :
    (x >>= f) c = (x c).bind (andThen f) := by
  show (x c).bind _ = (x c).bind _
  refine congrArg (x c).bind (funext fun rc => ?_)
  obtain ⟨r, c'⟩ := rc
  cases r with
  | ok a => rfl
  | error e => rfl

@[simp] theorem map_apply (x : Turn α) (f : α → β) (c : Context) :
    (f <$> x) c = (x c).bind (andThen fun a => pure (f a)) := bind_apply x (fun a => pure (f a)) c

/-- A value that cannot be read fails as broken data, whatever the context. -/
@[simp] theorem ofJson_apply (value : Option α) (c : Context) :
    Turn.ofJson value c = .done (value.elim (.error .json) .ok, c) := by
  cases value with
  | none => rfl
  | some a => rfl

/-! A turn that begins with one plain step goes on from what the step gave. -/

/-- A call that is noted comes before everything else. -/
theorem note_bind (call : Call) (f : Unit → Turn α) (c : Context) :
    (Turn.note call >>= f) c = .note call (f () c) := bind_apply _ _ _

/-- What asks for the context goes on with the context as it is. -/
theorem context_bind (f : Context → Turn α) (c : Context) :
    (Turn.context >>= f) c = f c c := bind_apply _ _ _

/-- After a change, the rest goes on in the changed context. -/
theorem change_bind (g : Context → Context) (f : Unit → Turn α) (c : Context) :
    (Turn.change g >>= f) c = f () (g c) := bind_apply _ _ _

/-- An error that is at hand ends the turn where it stands. -/
theorem ofExcept_bind (r : Except Error α) (f : α → Turn β) (c : Context) :
    (Turn.ofExcept r >>= f) c = andThen f (r, c) := bind_apply _ _ _

end Turn

namespace Plan

@[simp] theorem done_bind (a : α) (f : α → Plan β) : (Plan.done a).bind f = f a := rfl

@[simp] theorem random_bind (count : Nat) (next : List UInt8 → Plan α) (f : α → Plan β) :
    (Plan.random count next).bind f = .random count fun octets => (next octets).bind f := rfl

end Plan

/-! ## Reading profiles -/

/-- The profiles that a value holds at an instant: those not stale, if the value can be read. -/
def ProfileSet.ofValue (now : Instant) (value : Json) : Except Error ProfileSet :=
  (ProfileSet.ofJson? value).elim (.error .json) fun s => .ok (s.unexpired now)

/-- The profiles noted in a request at an instant. -/
def Context.noted (c : Context) (now : Instant) : Except Error ProfileSet :=
  (c.attribute? profilesKey).elim (.ok .empty) (ProfileSet.ofValue now)

/-- Reading profiles fails in one way only. -/
theorem ProfileSet.ofValue_error {now : Instant} {value : Json} {e : Error}
    (h : ofValue now value = .error e) : e = .json := by
  rw [ofValue] at h
  cases hj : ofJson? value with
  | none =>
      rw [hj] at h
      cases h
      rfl
  | some s =>
      rw [hj] at h
      cases h

/-- So does reading the profiles of a request. -/
theorem Context.noted_error {c : Context} {now : Instant} {e : Error}
    (h : c.noted now = .error e) : e = .json := by
  rw [noted] at h
  cases hv : c.attribute? profilesKey with
  | none =>
      rw [hv] at h
      cases h
  | some value =>
      rw [hv] at h
      exact ProfileSet.ofValue_error h

/-- What was read is the set that the value spells, without what was stale. -/
theorem ProfileSet.of_ofValue {now : Instant} {value : Json} {s : ProfileSet}
    (h : ProfileSet.ofValue now value = .ok s) :
    ∃ full, ProfileSet.ofJson? value = some full ∧ s = full.unexpired now := by
  rw [ProfileSet.ofValue] at h
  cases hj : ProfileSet.ofJson? value with
  | none =>
      rw [hj] at h
      cases h
  | some full =>
      rw [hj] at h
      cases h
      exact ⟨full, rfl, rfl⟩

/-- Noted profiles that are not empty stand in an attribute. -/
theorem Context.of_noted {c : Context} {now : Instant} {s : ProfileSet}
    (h : c.noted now = .ok s) (hs : s.isEmpty = false) :
    ∃ value, c.attribute? profilesKey = some value ∧ ProfileSet.ofValue now value = .ok s := by
  rw [Context.noted] at h
  cases hv : c.attribute? profilesKey with
  | none =>
      rw [hv] at h
      cases h
      cases hs
  | some value =>
      rw [hv] at h
      exact ⟨value, rfl, h⟩

namespace Scopes

/-- Reading a value and dropping what is stale. -/
private theorem readValue_apply (now : Instant) (value : Json) (c : Context) :
    ((fun s => ProfileSet.unexpired s now) <$> Turn.ofJson (ProfileSet.ofJson? value) : Turn ProfileSet) c
      = .done (ProfileSet.ofValue now value, c) := by
  rw [Turn.map_apply, Turn.ofJson_apply, ProfileSet.ofValue]
  cases ProfileSet.ofJson? value with
  | none => rfl
  | some s => rfl

/-- The profiles of a request are read from its attributes, and no question is asked. -/
theorem loadRequest_apply (now : Instant) (c : Context) :
    loadRequest now c = .done (c.noted now, c) := by
  rw [loadRequest, Turn.context_bind, Context.noted]
  cases c.attribute? profilesKey with
  | none => rfl
  | some value => exact readValue_apply now value c

/-- The profiles of a session are one question to the store, if there is a session. -/
theorem loadSession_apply (now : Instant) (c : Context) :
    loadSession now c =
      match c.session with
      | none => .done (.ok .empty, c)
      | some id =>
          .store (.get id profilesKey) fun answer =>
            match answer with
            | .error e => .done (.error e, c)
            | .ok none => .done (.ok .empty, c)
            | .ok (some value) => .done (ProfileSet.ofValue now value, c) := by
  rw [loadSession, Turn.context_bind]
  cases c.session with
  | none => rfl
  | some id =>
      refine congrArg (Plan.store (.get id profilesKey)) (funext fun answer => ?_)
      match answer with
      | .error e => rfl
      | .ok none => rfl
      | .ok (some value) => exact readValue_apply now value c

/-! ## Session ids -/

/-- A session that is presented is kept; otherwise an id is drawn. -/
theorem ensureSession_apply (c : Context) :
    ensureSession c =
      match c.session with
      | some id => .done (.ok id, c)
      | none =>
          .random sessionIdOctets fun octets =>
            .done (.ok (sessionIdOf octets), c.issueSession (sessionIdOf octets)) := by
  rw [ensureSession, Turn.context_bind]
  cases c.session with
  | none => rfl
  | some id => rfl

/-- A session is replaced by one with an id that was drawn, whether there was one or not. -/
theorem replaceSession_apply (c : Context) :
    replaceSession c =
      .random sessionIdOctets fun octets =>
        .done (.ok c.session, c.issueSession (sessionIdOf octets)) := rfl

/-- An id that the gate issued in this request is kept; one that the caller
    presented gives way to a fresh one, and what the store holds under it is
    moved. -/
theorem renewSession_apply (c : Context) :
    renewSession c =
      if c.sessionIssued then .done (.ok (), c)
      else
        .random sessionIdOctets fun octets =>
          match c.session with
          | none => .done (.ok (), c.issueSession (sessionIdOf octets))
          | some before =>
              .store (.renew before (sessionIdOf octets)) fun answer =>
                .done (answer, c.issueSession (sessionIdOf octets)) := by
  rw [renewSession, Turn.context_bind]
  cases c.sessionIssued with
  | true => rfl
  | false =>
      -- the fresh id is drawn first, whether or not there is a session to move
      rw [if_neg (by decide), if_neg (by decide), Turn.bind_apply, replaceSession_apply,
        Plan.random_bind]
      refine congrArg (Plan.random sessionIdOctets) (funext fun octets => ?_)
      rw [Plan.done_bind, Turn.andThen_ok]
      cases c.session with
      | none => rfl
      | some before => rfl

/-! ## Writing -/

/-- Profiles are noted in the request first, and only then written to the session. -/
theorem save_apply (profiles : ProfileSet) (toSession : Bool) (c : Context) :
    save profiles toSession c =
      if toSession then
        (ensureSession (c.setAttribute profilesKey profiles.toJson)).bind
          (Turn.andThen fun id => Turn.store (.set id profilesKey profiles.toJson))
      else .done (.ok (), c.setAttribute profilesKey profiles.toJson) := by
  rw [save, Turn.change_bind]
  cases toSession with
  | true => exact Turn.bind_apply _ _ _
  | false => rfl

/-- The URL that was asked for goes to a session, which is begun if need be. -/
theorem saveRequestedUrl_apply (url : String) (c : Context) :
    saveRequestedUrl url c =
      (ensureSession c).bind
        (Turn.andThen fun id => Turn.store (.set id requestedUrlKey (.str url))) :=
  Turn.bind_apply _ _ _

theorem setLoaded_apply (loaded : Bool) (c : Context) :
    setLoaded loaded c = .done (.ok (), c.setAttribute loadedKey (.bool loaded)) := rfl

end Scopes

end AccessGate
