import AccessGate.Proofs.Provenance
import AccessGate.Proofs.Replacement
import Mathlib.Data.List.Induction

/-! # What leaks from a request to the session

    A profile that is saved aside stays in the request, which is gone with it.  The
    session is written by whole sets, though, and one way to write takes what the
    request has along: to save another profile in the session beside those that are
    there (`Exposes`).

    `Puts` lists the sets that operations write to a session, and `of_written` says
    that there are no others.  So a profile that was only saved aside can be read in
    a session just when an operation exposed it (`unseen_iff`). -/

namespace AccessGate

/-! ## The course of operations on profiles -/

namespace Scopes

variable {now : Instant} {withSession toSession multi : Bool} {c c' : Context} {t : List Event}
  {s : ProfileSet} {client : String} {profile : Profile} {id : String} {value : Json}
  {answer r : Except Error Unit}

/-- The ways in which the profiles of a request are put together. -/
inductive Gathers (now : Instant) (withSession : Bool) (c : Context) :
    List Event → Except Error ProfileSet → Prop
  | unreadable (e : Error) : c.noted now = .error e → Gathers now withSession c [] (.error e)
  | request (s : ProfileSet) : c.noted now = .ok s → withSession = false →
      Gathers now withSession c [] (.ok s)
  | both {t : List Event} {r : Except Error ProfileSet} (s : ProfileSet) : c.noted now = .ok s →
      withSession = true → Gate.Asks now c t r → Gathers now withSession c t (r.map s.merge)

/-- Loading goes in one of the listed ways, and leaves the context as it is. -/
theorem ends_loadAll {r : Except Error ProfileSet}
    (h : (loadAll now withSession c).Ends t (r, c')) : Gathers now withSession c t r ∧ c' = c := by
  rw [loadAll, Turn.bind_apply, loadRequest_apply, Plan.done_bind] at h
  cases hn : c.noted now with
  | error e =>
      rw [hn] at h
      obtain ⟨rfl, h⟩ := h
      cases h
      exact ⟨.unreadable e hn, rfl⟩
  | ok s =>
      rw [hn, Turn.andThen_ok] at h
      cases withSession with
      | false =>
          obtain ⟨rfl, h⟩ := h
          cases h
          exact ⟨.request s hn rfl, rfl⟩
      | true =>
          rw [if_pos rfl, Turn.bind_apply] at h
          obtain ⟨t₁, ⟨r₁, c₁⟩, t₂, rfl, h₁, h₂⟩ := Plan.ends_bind.mp h
          obtain ⟨ha, rfl⟩ := Gate.ends_loadSession h₁
          cases r₁ with
          | error e =>
              obtain ⟨rfl, h₂⟩ := h₂
              cases h₂
              rw [List.append_nil]
              exact ⟨.both s hn rfl ha, rfl⟩
          | ok session =>
              obtain ⟨rfl, h₂⟩ := h₂
              cases h₂
              rw [List.append_nil]
              exact ⟨.both s hn rfl ha, rfl⟩

/-- The ways in which a set is kept. -/
inductive Saves (s : ProfileSet) (toSession : Bool) (c : Context) :
    List Event → Except Error Unit → Context → Prop
  | aside : toSession = false → Saves s toSession c [] (.ok ()) (c.withProfiles s)
  | kept {t : List Event} {id : String} {c' : Context} (answer : Except Error Unit) :
      toSession = true → Ensures (c.withProfiles s) t id c' →
      Saves s toSession c (t ++ [.stored (.set id profilesKey s.toJson) answer]) answer c'

/-- Saving goes in one of the listed ways. -/
theorem ends_save (h : (save s toSession c).Ends t (r, c')) : Saves s toSession c t r c' := by
  rw [save_apply] at h
  cases toSession with
  | false =>
      obtain ⟨rfl, h⟩ := h
      cases h
      exact .aside rfl
  | true =>
      rw [if_pos rfl] at h
      obtain ⟨t₁, id, c₁, t₂, rfl, he, answer, rest, rfl, rfl, hset⟩ := ends_ensureSession h
      cases hset
      exact .kept r rfl he

/-- The ways to the set in which a profile is put. -/
inductive Bases (now : Instant) (toSession multi : Bool) (c : Context) :
    List Event → Except Error ProfileSet → Prop
  | alone : multi = false → Bases now toSession multi c [] (.ok .empty)
  | others {t : List Event} {r : Except Error ProfileSet} : multi = true →
      Gathers now toSession c t r → Bases now toSession multi c t r

/-- The ways in which a profile is kept. -/
inductive SavesProfile (now : Instant) (client : String) (profile : Profile)
    (toSession multi : Bool) (c : Context) : List Event → Except Error Unit → Context → Prop
  | failed {t : List Event} (e : Error) : Bases now toSession multi c t (.error e) →
      SavesProfile now client profile toSession multi c t (.error e) c
  | saved {t₁ t₂ : List Event} {base : ProfileSet} {r : Except Error Unit} {c' : Context} :
      Bases now toSession multi c t₁ (.ok base) →
      Saves (base.insert client profile) toSession c t₂ r c' →
      SavesProfile now client profile toSession multi c (t₁ ++ t₂) r c'

/-- So does saving one profile. -/
theorem ends_saveProfile (h : (saveProfile now client profile toSession multi c).Ends t (r, c')) :
    SavesProfile now client profile toSession multi c t r c' := by
  rw [saveProfile] at h
  cases multi with
  | false =>
      rw [if_neg (by decide), Turn.bind_apply] at h
      show SavesProfile now client profile toSession false c ([] ++ t) r c'
      exact .saved (.alone rfl) (ends_save h)
  | true =>
      rw [if_pos rfl, Turn.bind_apply] at h
      obtain ⟨t₁, ⟨base, c₁⟩, t₂, rfl, h₁, h₂⟩ := Plan.ends_bind.mp h
      obtain ⟨hg, rfl⟩ := ends_loadAll h₁
      cases base with
      | error e =>
          obtain ⟨rfl, h₂⟩ := h₂
          cases h₂
          rw [List.append_nil]
          exact .failed e (.others rfl hg)
      | ok base => exact .saved (.others rfl hg) (ends_save h₂)

/-- The ways in which the profile of a client is taken out of the session. -/
inductive Removes (now : Instant) (client : String) (c : Context) :
    List Event → Except Error Unit → Prop
  | unreadable (e : Error) : c.noted now = .error e → Removes now client c [] (.error e)
  | nowhere : c.session = none → Removes now client c [] (.ok ())
  | failed {t : List Event} (e : Error) : Gate.Asks now c t (.error e) →
      Removes now client c t (.error e)
  | absent {t : List Event} (s : ProfileSet) : Gate.Asks now c t (.ok s) →
      s.contains client = false → Removes now client c t (.ok ())
  | present {t : List Event} {id : String} (s : ProfileSet) (answer : Except Error Unit) :
      Gate.Asks now c t (.ok s) → s.contains client = true → c.session = some id →
      Removes now client c
        (t ++ [.stored (.set id profilesKey (s.erase client).toJson) answer]) answer

/-- What is noted makes no difference to what the session is asked for. -/
private theorem asks_of_session {c₁ : Context} {r : Except Error ProfileSet}
    (h : Gate.Asks now c₁ t r) (hs : c₁.session = c.session) : Gate.Asks now c t r := by
  cases h with
  | nowhere hn => exact .nowhere (hs ▸ hn)
  | asked answer hid => exact .asked answer (hs ▸ hid)

/-- What `remove` does to the session, when it is done with the request. -/
def removeFromSession (now : Instant) (client : String) : Turn Unit := do
  match (← Turn.context).session with
  | none => pure ()
  | some id =>
    let session ← loadSession now
    if session.contains client then
      Turn.store (.set id profilesKey (session.erase client).toJson)

/-- What is done in the session to remove a client is the rest of its removal. -/
private theorem ends_removeFromSession {c₁ : Context} (hs : c₁.session = c.session)
    (h : (removeFromSession now client c₁).Ends t (r, c')) : Removes now client c t r := by
  rw [removeFromSession, Turn.context_bind, hs] at h
  cases hid : c.session with
  | none =>
      rw [hid] at h
      obtain ⟨rfl, h⟩ := h
      cases h
      exact .nowhere hid
  | some id =>
      rw [hid] at h
      simp only [Turn.bind_apply] at h
      obtain ⟨t₁, ⟨r₁, c₂⟩, t₂, rfl, h₁, h₂⟩ := Plan.ends_bind.mp h
      obtain ⟨ha₁, rfl⟩ := Gate.ends_loadSession h₁
      have ha := asks_of_session ha₁ hs
      cases r₁ with
      | error e =>
          obtain ⟨rfl, h₂⟩ := h₂
          cases h₂
          rw [List.append_nil]
          exact .failed e ha
      | ok session =>
          rw [Turn.andThen_ok] at h₂
          cases hc : session.contains client with
          | false =>
              rw [hc] at h₂
              obtain ⟨rfl, h₂⟩ := h₂
              cases h₂
              rw [List.append_nil]
              exact .absent session ha hc
          | true =>
              rw [hc] at h₂
              obtain ⟨answer, rest, rfl, rfl, h₂⟩ := h₂
              cases h₂
              exact .present session r ha hc hid

/-- Removing goes in one of the listed ways. -/
theorem ends_remove (h : (remove now client c).Ends t (r, c')) : Removes now client c t r := by
  rw [remove, Turn.bind_apply, loadRequest_apply, Plan.done_bind] at h
  cases hn : c.noted now with
  | error e =>
      rw [hn] at h
      obtain ⟨rfl, h⟩ := h
      cases h
      exact .unreadable e hn
  | ok request =>
      rw [hn, Turn.andThen_ok] at h
      cases hc : request.contains client with
      | false =>
          rw [hc] at h
          exact ends_removeFromSession rfl h
      | true =>
          rw [hc] at h
          have hs : (c.withProfiles (request.erase client)).session = c.session := rfl
          exact ends_removeFromSession hs h

end Scopes

/-! ## What a session shows -/

/-- Every profile is fresh at some instant. -/
theorem Profile.exists_unexpired (p : Profile) : ∃ now, p.isExpired now = false := by
  cases he : p.expiresAt with
  | none => exact ⟨default, by rw [isExpired, he]⟩
  | some t =>
      refine ⟨t, ?_⟩
      rw [isExpired, he]
      exact t.before_irrefl

namespace MemoryStore

variable {m m' : MemoryStore} {profile : Profile} {lifetime : Lifetime} {instant now : Instant}
  {c : Context} {s : ProfileSet} {name : String}

/-- A profile can be read in some session, at some time. -/
def Shows (m : MemoryStore) (profile : Profile) : Prop :=
  ∃ instant now id name, m.Held instant now (some id) name profile

/-- What is shown is kept. -/
theorem Shows.exists_keeps (h : m.Shows profile) :
    ∃ value s name, m.Keeps profilesKey value ∧ ProfileSet.ofJson? value = some s ∧
      s.get? name = some profile := by
  obtain ⟨instant, now, id, name, id', value, fresh, -, hget, hvalue, hmem⟩ := h
  obtain ⟨s, hs, rfl⟩ := ProfileSet.of_ofValue hvalue
  exact ⟨value, s, name, .of_get? hget, hs, s.mem_entries_iff.mp (List.mem_filter.mp hmem).1⟩

/-- What is kept is shown, for as long as its session and itself last. -/
theorem shows_of_keeps {value : Json} (hk : m.Keeps profilesKey value)
    (hs : ProfileSet.ofJson? value = some s) (hg : s.get? name = some profile) :
    m.Shows profile := by
  obtain ⟨id, session, hsession, hvalue⟩ := hk
  obtain ⟨now, hfresh⟩ := profile.exists_unexpired
  have hlive : session.isLive session.deadline = true := by
    rw [Session.isLive, Instant.before_irrefl]
    rfl
  have hread : ProfileSet.ofValue now value = .ok (s.unexpired now) := by
    rw [ProfileSet.ofValue, hs, Option.elim_some]
  have hmem : (name, profile) ∈ (s.unexpired now).entries :=
    List.mem_filter.mpr ⟨s.mem_entries_iff.mpr hg, by rw [hfresh]; rfl⟩
  exact ⟨session.deadline, now, id, name, id, value, _, rfl,
    get?_eq_some.mpr ⟨session, hsession, hlive, hvalue⟩, hread, hmem⟩

/-- The profiles that a request finds in its session. -/
def profilesFor (m : MemoryStore) (instant now : Instant) (c : Context) :
    Except Error ProfileSet :=
  match c.session with
  | none => .ok .empty
  | some id => Gate.heldProfiles now (.ok (m.get? instant id profilesKey))

/-- Without a session no profile is found. -/
theorem profilesFor_of_none (h : c.session = none) :
    m.profilesFor instant now c = .ok .empty := by
  rw [profilesFor, h]

theorem profilesFor_of_some {id : String} (h : c.session = some id) :
    m.profilesFor instant now c
      = Gate.heldProfiles now (.ok (m.get? instant id profilesKey)) := by
  rw [profilesFor, h]

/-- What is found in a session is there. -/
theorem of_profilesFor (h : m.profilesFor instant now c = .ok s) :
    s = .empty ∨ ∃ id value, m.get? instant id profilesKey = some value ∧
      ProfileSet.ofValue now value = .ok s := by
  cases hid : c.session with
  | none =>
      rw [profilesFor_of_none hid] at h
      cases h
      exact .inl rfl
  | some id =>
      rw [profilesFor_of_some hid] at h
      cases hget : m.get? instant id profilesKey with
      | none =>
          rw [hget] at h
          cases h
          exact .inl rfl
      | some value =>
          rw [hget] at h
          exact .inr ⟨id, value, hget, h⟩

/-- A profile that is found in a session is shown. -/
theorem shows_of_profilesFor (h : m.profilesFor instant now c = .ok s)
    (hg : s.get? name = some profile) : m.Shows profile := by
  rcases of_profilesFor h with rfl | ⟨id, value, hget, hvalue⟩
  · cases hg
  · exact ⟨instant, now, id, name, id, value, s, rfl, hget, hvalue, s.mem_entries_iff.mpr hg⟩

/-- What a request is answered that asks the session first of all. -/
theorem profilesFor_of_asks {t u : List Event} (ha : Gate.Asks now c t (.ok s))
    (hr : Replays lifetime instant m (t ++ u) m') : m.profilesFor instant now c = .ok s := by
  generalize hout : Except.ok s = out at ha
  cases ha with
  | nowhere hs => rw [profilesFor_of_none hs]
  | asked answer hid =>
      cases answer with
      | error e => cases hout
      | ok value =>
          have hget : m.get? instant _ profilesKey = value :=
            get?_of_replays (t := []) hr (List.forall_mem_nil _)
          rw [profilesFor_of_some hid, hget]

end MemoryStore

/-! ## Operations that do not decide -/

namespace Operation

variable {op : Operation} {lifetime : Lifetime} {instant : Instant} {m m' : MemoryStore}
  {c c' : Context} {t : List Event} {profile : Profile} {id : String} {value : Json}
  {answer r : Except Error Unit}

/-- The operation is not a decision. -/
def Manages : Operation → Prop
  | .decide _ _ _ _ => False
  | _ => True

/-- A profile is not what the operation saves in the session. -/
def Aside (profile : Profile) : Operation → Prop
  | .save profiles true => ∀ name, profiles.get? name ≠ some profile
  | .saveProfile _ _ other true _ => other ≠ profile
  | _ => True

/-- The sets that an operation writes to the session of a request. -/
inductive Puts (m : MemoryStore) (instant : Instant) (c : Context) : Operation → ProfileSet → Prop
  | whole (s : ProfileSet) : Puts m instant c (.save s true) s
  | alone (now : Instant) (client : String) (profile : Profile) :
      Puts m instant c (.saveProfile now client profile true false) (.single client profile)
  | beside {request session : ProfileSet} (now : Instant) (client : String) (profile : Profile) :
      c.noted now = .ok request → m.profilesFor instant now c = .ok session →
      Puts m instant c (.saveProfile now client profile true true)
        ((request.merge session).insert client profile)
  | without {session : ProfileSet} (now : Instant) (client : String) :
      m.profilesFor instant now c = .ok session →
      Puts m instant c (.remove now client) (session.erase client)

private theorem not_write_of_asks {now : Instant} {r : Except Error ProfileSet}
    (h : Gate.Asks now c t r) : .stored (.set id profilesKey value) answer ∉ t := by
  intro hmem
  cases h.events _ hmem

private theorem not_write_of_gathers {now : Instant} {withSession : Bool}
    {r : Except Error ProfileSet} (h : Scopes.Gathers now withSession c t r) :
    .stored (.set id profilesKey value) answer ∉ t := by
  cases h with
  | unreadable e hn => exact List.not_mem_nil
  | request s hn hnot => exact List.not_mem_nil
  | both s hn hwith ha => exact not_write_of_asks ha

private theorem not_write_of_bases {now : Instant} {toSession multi : Bool}
    {r : Except Error ProfileSet} (h : Scopes.Bases now toSession multi c t r) :
    .stored (.set id profilesKey value) answer ∉ t := by
  cases h with
  | alone hnot => exact List.not_mem_nil
  | others hmulti hg => exact not_write_of_gathers hg

/-- What was saved was written to the session last of all. -/
private theorem of_write_saves {s : ProfileSet} {toSession : Bool}
    (h : Scopes.Saves s toSession c t r c')
    (hmem : .stored (.set id profilesKey value) answer ∈ t) :
    toSession = true ∧ value = s.toJson ∧ r = answer := by
  cases h with
  | aside hnot => cases hmem
  | kept answer' hto he =>
      rcases List.mem_append.mp hmem with hmem | hmem
      · exact absurd hmem he.not_write
      · cases List.mem_singleton.mp hmem
        exact ⟨hto, rfl, rfl⟩

/-- What a profile is put in that goes to the session: nothing, or all that there is. -/
private theorem of_bases {now : Instant} {multi : Bool} {base : ProfileSet} {u : List Event}
    (h : Scopes.Bases now true multi c t (.ok base))
    (hr : MemoryStore.Replays lifetime instant m (t ++ u) m') :
    multi = false ∧ base = .empty ∨
      multi = true ∧ ∃ request session, c.noted now = .ok request ∧
        m.profilesFor instant now c = .ok session ∧ base = request.merge session := by
  generalize hbase : Except.ok base = out at h
  cases h with
  | alone hmulti =>
      cases hbase
      exact .inl ⟨hmulti, rfl⟩
  | others hmulti hg =>
      cases hg with
      | unreadable e hn => cases hbase
      | request s hn hnot => cases hnot
      | @both _ found s hn hwith ha =>
          cases found with
          | error e => cases hbase
          | ok session =>
              cases hbase
              exact .inr ⟨hmulti, s, session, hn, MemoryStore.profilesFor_of_asks ha hr, rfl⟩

/-- Whatever an operation writes to the session as its profiles is one of these sets. -/
theorem of_written (hop : op.Manages) (h : (op.turn c).Ends t (r, c'))
    (hr : MemoryStore.Replays lifetime instant m t m')
    (hmem : .stored (.set id profilesKey value) answer ∈ t) :
    r = answer ∧ ∃ s, Puts m instant c op s ∧ value = s.toJson := by
  cases op with
  | save profiles toSession =>
      obtain ⟨rfl, hvalue, hanswer⟩ := of_write_saves (Scopes.ends_save h) hmem
      exact ⟨hanswer, _, .whole profiles, hvalue⟩
  | saveProfile now client profile toSession multi =>
      cases Scopes.ends_saveProfile h with
      | failed e hb => exact absurd hmem (not_write_of_bases hb)
      | saved hb hs =>
          rcases List.mem_append.mp hmem with hmem | hmem
          · exact absurd hmem (not_write_of_bases hb)
          · obtain ⟨rfl, hvalue, hanswer⟩ := of_write_saves hs hmem
            refine ⟨hanswer, _, ?_, hvalue⟩
            rcases of_bases hb hr with ⟨rfl, rfl⟩ | ⟨rfl, request, session, hn, hsession, rfl⟩
            · exact .alone now client profile
            · exact .beside now client profile hn hsession
  | remove now client =>
      cases Scopes.ends_remove h with
      | unreadable e hn => cases hmem
      | nowhere hs => cases hmem
      | failed e ha => exact absurd hmem (not_write_of_asks ha)
      | absent s ha hc => exact absurd hmem (not_write_of_asks ha)
      | present s answer' ha hc hid =>
          rcases List.mem_append.mp hmem with hmem | hmem
          · exact absurd hmem (not_write_of_asks ha)
          · cases List.mem_singleton.mp hmem
            exact ⟨rfl, _, .without now client (MemoryStore.profilesFor_of_asks ha hr), rfl⟩
  | removeAll =>
      rw [turn, Scopes.removeAll, Turn.change_bind, Turn.context_bind] at h
      cases hs : (c.removeAttribute profilesKey).session with
      | none =>
          rw [hs] at h
          obtain ⟨rfl, -⟩ := h
          cases hmem
      | some own =>
          rw [hs] at h
          obtain ⟨answer', rest, rfl, rfl, -⟩ := h
          cases List.mem_singleton.mp hmem
  | setLoaded loaded =>
      obtain ⟨rfl, -⟩ := h
      cases hmem
  | renewSession => exact absurd hmem (Scopes.ends_renewSession h).not_write
  | saveRequestedUrl url =>
      rw [turn, Scopes.saveRequestedUrl_apply] at h
      obtain ⟨t₁, own, c₁, t₂, rfl, he, answer', rest, rfl, rfl, -⟩ := Scopes.ends_ensureSession h
      rcases List.mem_append.mp hmem with hmem | hmem
      · exact absurd hmem he.not_write
      · -- the URL has a key of its own
        injection List.mem_singleton.mp hmem with hstep
        injection hstep with _ hkey
        exact absurd hkey (by decide)
  | decide gate config p now => exact hop.elim

/-- A set that is saved beside others is written, if the operation succeeds. -/
theorem exists_write_beside {now : Instant} {client : String} {request session : ProfileSet}
    (h : (Scopes.saveProfile now client profile true true c).Ends t (.ok (), c'))
    (hr : MemoryStore.Replays lifetime instant m t m') (hn : c.noted now = .ok request)
    (hs : m.profilesFor instant now c = .ok session) :
    ∃ u id, t = u ++ [.stored (.set id profilesKey
      ((request.merge session).insert client profile).toJson) (.ok ())] := by
  generalize hout : Except.ok () = r at h
  cases Scopes.ends_saveProfile h with
  | failed e hb => cases hout
  | saved hb hsaves =>
      rcases of_bases hb hr with ⟨hmulti, -⟩ | ⟨-, request', session', hn', hs', rfl⟩
      · cases hmulti
      · cases hn.symm.trans hn'
        cases hs.symm.trans hs'
        cases hsaves with
        | aside hnot => cases hnot
        | kept answer hto he =>
            cases hout
            exact ⟨_, _, (List.append_assoc _ _ _).symm⟩

/-- What an operation leaves: the world, and the context of the request. -/
def after (start : World × Context) (step : Surroundings × Operation) : World × Context :=
  (((step.2.turn start.2).run step.1 start.1).2, ((step.2.turn start.2).run step.1 start.1).1.2)

/-- What operations leave that are done one after the other. -/
def course (steps : List (Surroundings × Operation)) (start : World × Context) : World × Context :=
  steps.foldl after start

/-- Another profile is saved in the session beside a set that holds a profile in the
    request alone. -/
def Exposes (profile : Profile) (step : Surroundings × Operation) (start : World × Context) :
    Prop :=
  ∃ now client other request session name,
    step.2 = .saveProfile now client other true true ∧
    ((step.2.turn start.2).run step.1 start.1).1.1 = .ok () ∧
    start.2.noted now = .ok request ∧
    start.1.store.profilesFor step.1.now now start.2 = .ok session ∧
    request.get? name = some profile ∧ name ≠ client ∧ session.get? name = none

variable {step : Surroundings × Operation} {start : World × Context}

/-- A profile that no session showed is shown after a step that keeps it aside only
    if the step exposed it. -/
theorem exposes_of_shows (hop : step.2.Manages) (haside : step.2.Aside profile)
    (hunseen : ¬ start.1.store.Shows profile) (h : (after start step).1.store.Shows profile) :
    Exposes profile step start := by
  obtain ⟨env, op⟩ := step
  obtain ⟨w, c⟩ := start
  obtain ⟨value, s, name, hkeeps, hs, hg⟩ := h.exists_keeps
  have hends := Plan.ends_trace env (op.turn c) w
  have hreplays := Plan.replays_trace env (op.turn c) w
  rcases MemoryStore.keeps_of_replays hreplays hkeeps with hk | ⟨id, hmem⟩
  · exact absurd (MemoryStore.shows_of_keeps hk hs hg) hunseen
  -- the step wrote the set in which the profile stands
  obtain ⟨hok, put, hputs, rfl⟩ := of_written hop hends hreplays hmem
  obtain rfl : put = s := Option.some.inj (put.ofJson?_toJson.symm.trans hs)
  cases hputs with
  | whole s => exact absurd hg (haside name)
  | alone now client other =>
      rw [ProfileSet.single, ProfileSet.get?_insert] at hg
      split at hg
      · exact absurd (Option.some.inj hg) haside
      · cases hg
  | @beside request session now client other hn hsession =>
      rw [ProfileSet.get?_insert] at hg
      split at hg
      · exact absurd (Option.some.inj hg) haside
      · next hname =>
        rw [ProfileSet.get?_merge] at hg
        cases hstands : session.get? name with
        | some found =>
            rw [hstands, Option.some_or] at hg
            exact absurd (MemoryStore.shows_of_profilesFor hsession (hstands.trans hg)) hunseen
        | none =>
            rw [hstands, Option.none_or] at hg
            exact ⟨now, client, other, request, session, name, rfl, hok, hn, hsession, hg, hname,
              hstands⟩
  | without now client hsession =>
      rw [ProfileSet.get?_erase] at hg
      split at hg
      · cases hg
      · exact absurd (MemoryStore.shows_of_profilesFor hsession hg) hunseen

/-- A profile that is exposed is shown. -/
theorem Exposes.shows (h : Exposes profile step start) :
    (after start step).1.store.Shows profile := by
  obtain ⟨env, op⟩ := step
  obtain ⟨w, c⟩ := start
  obtain ⟨now, client, other, request, session, name, rfl, hok, hn, hs, hg, hname, hnone⟩ := h
  have hresult : ((Scopes.saveProfile now client other true true c).run env w).1.1 = .ok () := hok
  have hends := Plan.ends_trace env (Scopes.saveProfile now client other true true c) w
  have hreplays := Plan.replays_trace env (Scopes.saveProfile now client other true true c) w
  rw [← Prod.eta ((Scopes.saveProfile now client other true true c).run env w).1, hresult] at hends
  obtain ⟨u, id, ht⟩ := exists_write_beside hends hreplays hn hs
  rw [ht] at hreplays
  obtain ⟨values, deadline, -, hkept⟩ := MemoryStore.sessions_of_last hreplays
  have hstands : ((request.merge session).insert client other).get? name = some profile := by
    rw [ProfileSet.get?_insert, if_neg hname, ProfileSet.get?_merge, hnone, Option.none_or]
    exact hg
  exact MemoryStore.shows_of_keeps ⟨id, _, hkept, Dict.get?_insert_self _ _ _⟩
    (ProfileSet.ofJson?_toJson _) hstands

end Operation

open Operation

/-- A profile that no session shows, and that a request only ever saves aside, is shown
    by none as long as no operation exposes it. -/
theorem unseen_iff {profile : Profile} {start : World × Context}
    {steps : List (Surroundings × Operation)} (hunseen : ¬ start.1.store.Shows profile)
    (hmanages : ∀ step ∈ steps, step.2.Manages) (haside : ∀ step ∈ steps, step.2.Aside profile) :
    (∀ done rest, steps = done ++ rest → ¬ (course done start).1.store.Shows profile) ↔
      ∀ done step rest, steps = done ++ step :: rest →
        ¬ Exposes profile step (course done start) := by
  have hlast : ∀ done step, course (done ++ [step]) start = after (course done start) step :=
    fun done step => List.foldl_append
  constructor
  · intro h done step rest hsteps hexposes
    have hmem : step ∈ steps := hsteps ▸ List.mem_append_right _ List.mem_cons_self
    refine h (done ++ [step]) rest ?_ ?_
    · rw [hsteps, List.append_assoc, List.singleton_append]
    · rw [hlast]
      exact hexposes.shows
  · intro h done
    -- step by step, from the first to the last
    induction done using List.reverseRecOn with
    | nil => exact fun rest _ => hunseen
    | append_singleton done step ih =>
        intro rest hsteps hshows
        rw [List.append_assoc, List.singleton_append] at hsteps
        have hmem : step ∈ steps := hsteps ▸ List.mem_append_right _ List.mem_cons_self
        rw [hlast] at hshows
        exact h done step rest hsteps
          (exposes_of_shows (hmanages step hmem) (haside step hmem) (ih _ hsteps) hshows)

/-! A request saves the profile of one client aside, then that of another in the
    session: in one course beside what there is, in the other alone. -/

/-- The course before anything is saved: an empty store, and a request without a session. -/
def asideStart : World × Context := (.ofStore .empty, .ofRequest ⟨"GET", .root, [], []⟩ none)

/-- The profile that is saved aside. -/
def asideProfile : Profile := .ofId "jdoe"

/-- The two operations. -/
def asideSteps (multi : Bool) : List (Surroundings × Operation) :=
  [(.still .epoch, .saveProfile .epoch "A" asideProfile false true),
    (.still .epoch, .saveProfile .epoch "B" (.ofId "jroe") true multi)]

theorem asideStart_unseen : ¬ asideStart.1.store.Shows asideProfile := by
  rintro ⟨instant, now, id, name, id', value, s, -, hget, -⟩
  cases hget

theorem asideSteps_aside (multi : Bool) :
    ∀ step ∈ asideSteps multi, step.2.Manages ∧ step.2.Aside asideProfile := by
  have hother : Profile.ofId "jroe" ≠ asideProfile := by decide
  exact List.forall_mem_cons.mpr ⟨⟨trivial, trivial⟩,
    List.forall_mem_singleton.mpr ⟨trivial, hother⟩⟩

/-- A profile that was only saved aside can be read in the session. -/
theorem aside_shown :
    asideStart.2.attributes = .empty ∧ ¬ asideStart.1.store.Shows asideProfile ∧
      (∀ step ∈ asideSteps true, step.2.Manages ∧ step.2.Aside asideProfile) ∧
      (course (asideSteps true) asideStart).1.store.Shows asideProfile :=
  ⟨rfl, asideStart_unseen, asideSteps_aside true, .epoch, .epoch, sessionIdOf (List.replicate 32 0),
    "A", _, _, _, rfl, rfl, rfl, List.mem_cons_self⟩

/-- When the other profile is saved alone, nothing is exposed, and it alone is shown. -/
theorem unseen_iff_alone :
    (course (asideSteps false) asideStart).1.store.Shows (.ofId "jroe") ∧
      ∀ done rest, asideSteps false = done ++ rest →
        ¬ (course done asideStart).1.store.Shows asideProfile := by
  have hshown : (course (asideSteps false) asideStart).1.store.Shows (.ofId "jroe") :=
    ⟨.epoch, .epoch, sessionIdOf (List.replicate 32 0), "B", _, _, _, rfl, rfl, rfl,
      List.mem_cons_self⟩
  refine ⟨hshown, (unseen_iff asideStart_unseen
    (fun step hmem => (asideSteps_aside false step hmem).1)
    fun step hmem => (asideSteps_aside false step hmem).2).mpr ?_⟩
  rintro done step rest hsteps ⟨now, client, other, request, session, name, hstep, -⟩
  have hmem : step ∈ asideSteps false := hsteps ▸ List.mem_append_right _ List.mem_cons_self
  rcases List.mem_cons.mp hmem with rfl | hmem
  · cases hstep
  · cases List.mem_singleton.mp hmem
    cases hstep

end AccessGate
