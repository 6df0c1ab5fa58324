import AccessGate.Proofs.Events

/-! # No session fixation

    Whoever can make a visitor carry a session id of their choice must gain
    nothing by it.  So an identity never stands under an id that only came from
    a caller: every id under which profiles can be read was issued by the gate.

    The invariant is `Guarded`, on what is KEPT in a store and not only on what
    can be read, because a session that has ended is still there.  A trace whose
    events are all `Within` the issued ids keeps it; the work is to show that the
    trace of a decision is.  Profiles are written under a presented id in one way
    only, when they were just read there, and then the id is guarded already. -/

namespace AccessGate

/-- Every session that holds profiles has one of the ids. -/
def MemoryStore.Guarded (ids : List String) (m : MemoryStore) : Prop :=
  ∀ id s value, m.sessions.get? id = some s → s.values.get? profilesKey = some value → id ∈ ids

/-- An event brings profiles only under ids of a list: it writes them nowhere
    else, and moves no session elsewhere. -/
def Event.Within (ids : List String) : Event → Prop
  | .stored (.set id key _) _ => key = profilesKey → id ∈ ids
  | .stored (.renew _ new) _ => new ∈ ids
  | _ => True

namespace MemoryStore

variable {lifetime : Lifetime} {now : Instant} {m m' : MemoryStore} {ids : List String}

theorem Guarded.mono {more : List String} (h : m.Guarded ids) (hs : ∀ id ∈ ids, id ∈ more) :
    m.Guarded more := fun id s value hk hv => hs id (h id s value hk hv)

/-- Profiles that can be read stand under an id of the list. -/
theorem Guarded.of_get? (h : m.Guarded ids) {id : String} {value : Json}
    (hr : m.get? now id profilesKey = some value) : id ∈ ids := by
  obtain ⟨s, hk, -, hv⟩ := get?_eq_some.mp hr
  exact h id s value hk hv

/-- A write leaves profiles under the ids of the list, if it brings them under one of these. -/
private theorem guarded_set? (h : m.Guarded ids) {id key : String} {value : Json}
    (hid : key = profilesKey → id ∈ ids) (hm : m.set? lifetime now id key value = some m') :
    m'.Guarded ids := by
  intro other s v hk hv
  obtain ⟨deadline, -, hget⟩ := sessions_set? hm other
  rw [hget] at hk
  by_cases ho : other = id
  · rw [if_pos ho] at hk
    cases hk
    rw [ho]
    -- under another key, the profiles next to it could be read there before
    by_cases hkey : key = profilesKey
    · exact hid hkey
    · rw [Dict.get?_insert_of_ne _ _ (Ne.symm hkey), get?_valuesAt] at hv
      exact h.of_get? hv
  · rw [if_neg ho] at hk
    exact h other s v hk hv

/-- To take a value away brings profiles nowhere. -/
private theorem guarded_remove (h : m.Guarded ids) (id key : String) :
    (m.remove id key).Guarded ids := by
  rw [remove]
  cases hs : m.sessions.get? id with
  | none => exact h
  | some s =>
      intro other s' v hk hv
      by_cases ho : other = id
      · subst ho
        rw [Dict.get?_insert_self] at hk
        cases hk
        rw [Dict.get?_erase] at hv
        split at hv
        · cases hv
        · exact h other s v hs hv
      · rw [Dict.get?_insert_of_ne _ _ ho] at hk
        exact h other s' v hk hv

/-- Nor does it bring them anywhere to end a session. -/
private theorem guarded_destroy (h : m.Guarded ids) (id : String) : (m.destroy id).Guarded ids := by
  intro other s v hk hv
  rw [destroy, Dict.get?_erase] at hk
  split at hk
  · cases hk
  · exact h other s v hk hv

/-- A move to an id of the list leaves profiles under such ids. -/
private theorem guarded_renew (h : m.Guarded ids) {old new : String} (hnew : new ∈ ids) :
    (m.renew lifetime now old new).2.Guarded ids := by
  intro other s v hk hv
  rcases sessions_renew hk with hk | ⟨rfl, before, hb, hvalues⟩
  · exact h other s v hk hv
  -- what was moved is under the new id, whatever the old one was
  · exact hnew

/-- One event keeps the invariant. -/
theorem Guarded.does {event : Event} (h : m.Guarded ids) (hw : event.Within ids)
    (hd : Does lifetime now m event m') : m'.Guarded ids := by
  cases hd with
  | fails step e => exact h
  | drawn count octets => exact h
  | called call => exact h
  | works step =>
      cases step with
      | get id key => exact h
      | set id key value =>
          rw [apply]
          cases hm : m.set? lifetime now id key value with
          | none => exact h
          | some after => exact guarded_set? h hw hm
      | remove id key => exact guarded_remove h id key
      | destroy id => exact guarded_destroy h id
      | renew old new => exact guarded_renew h hw

/-- A whole trace keeps the invariant. -/
theorem Guarded.replays {t : List Event} (h : m.Guarded ids)
    (hw : ∀ event ∈ t, event.Within ids) (hr : Replays lifetime now m t m') : m'.Guarded ids := by
  induction hr with
  | nil => exact h
  | cons hd _ ih =>
      refine ih (h.does (hw _ List.mem_cons_self) hd) ?_
      exact fun event he => hw event (List.mem_cons_of_mem _ he)

end MemoryStore

/-! ## The trace of a decision -/

theorem within_called {ids : List String} (calls : List Call) :
    ∀ event ∈ calls.map Event.called, event.Within ids := by
  intro event he
  obtain ⟨call, -, rfl⟩ := List.mem_map.mp he
  trivial

private theorem Scopes.Ensures.within {ids : List String} {c c' : Context} {t : List Event}
    {id : String} (h : Scopes.Ensures c t id c') : ∀ event ∈ t, event.Within ids := by
  intro event hm
  obtain ⟨octets, rfl⟩ := h.drawn event hm
  trivial

/-- The id one comes to is that of the context, or it is issued now. -/
private theorem Scopes.Ensures.mem {ids : List String} {c c' : Context} {t : List Event}
    {id : String} (h : Scopes.Ensures c t id c') (hs : ∀ id, c.session = some id → id ∈ ids)
    (hids : ∀ id ∈ issuedIds t, id ∈ ids) : id ∈ ids := by
  cases h with
  | kept hid => exact hs _ hid
  | issued octets hnone => exact hids _ List.mem_cons_self

namespace Gate

variable {now : Instant} {settings : Settings} {multi : Bool} {clients : List Client}
  {c c' : Context} {t : List Event} {s : ProfileSet} {ids : List String}

/-- Finding out who the visitor is writes no profiles. -/
theorem Authenticates.within {r : Except Error (Attempt ProfileSet)}
    (h : Authenticates now settings multi clients c t r c') :
    ∀ event ∈ t, event.Within ids := by
  intro event hm
  cases h.events event hm with
  | looking hlook =>
      cases hlook with
      | fetched client => trivial
      | built client => trivial
      | lookedUp id answer => trivial
  | redirecting hredirect =>
      cases hredirect with
      | asked client => trivial
      | drawn octets => trivial
      | remembered id answer =>
          -- where a visitor wanted to go is no identity
          intro hkey
          exact absurd hkey (by decide)

/-- Profiles are remembered within the ids, if the id under which they would be
    written as it stands is one of them. -/
private theorem Remembers.within {r : Except Error Bool}
    (h : Remembers settings s c t r c')
    (hsession : c.sessionIssued = true ∨ c.saysLoaded = true →
      ∀ id, c.session = some id → id ∈ ids)
    (hids : ∀ id ∈ issuedIds t, id ∈ ids) : ∀ event ∈ t, event.Within ids := by
  cases h with
  | noted hl hd => exact List.forall_mem_nil _
  | unmoved hl hd hm =>
      cases hm with
      | moved octets before answer hi hs =>
          exact List.forall_mem_cons.mpr ⟨trivial,
            List.forall_mem_singleton.mpr (hids _ List.mem_cons_self)⟩
  | @moved t₁ t₂ id c₁ c₂ answer hl hd hm he =>
      rw [issuedIds_append, issuedIds_append] at hids
      have hids₁ : ∀ id ∈ issuedIds t₁, id ∈ ids := fun id hm =>
        hids id (List.mem_append_left _ hm)
      have hids₂ : ∀ id ∈ issuedIds t₂, id ∈ ids := fun id hm =>
        hids id (List.mem_append_right _ (List.mem_append_left _ hm))
      -- the session was moved to an id of the list, or has one already
      have hmoved : (∀ event ∈ t₁, event.Within ids) ∧
          ∀ id, c₁.session = some id → id ∈ ids := by
        cases hm with
        | kept hi => exact ⟨List.forall_mem_nil _, hsession (.inl hi)⟩
        | issued octets hi hs =>
            refine ⟨List.forall_mem_singleton.mpr trivial, ?_⟩
            rintro id ⟨⟩
            exact hids₁ _ List.mem_cons_self
        | moved octets before _ hi hs =>
            refine ⟨List.forall_mem_cons.mpr ⟨trivial,
              List.forall_mem_singleton.mpr (hids₁ _ List.mem_cons_self)⟩, ?_⟩
            rintro id ⟨⟩
            exact hids₁ _ List.mem_cons_self
      refine List.forall_mem_append.mpr ⟨hmoved.1, List.forall_mem_append.mpr ⟨he.within, ?_⟩⟩
      exact List.forall_mem_singleton.mpr fun _ => he.mem hmoved.2 hids₂
  | kept answer hl he =>
      rw [issuedIds_append] at hids
      refine List.forall_mem_append.mpr ⟨he.within, List.forall_mem_singleton.mpr fun _ => ?_⟩
      exact he.mem (hsession (.inr hl)) fun id hm => hids id (List.mem_append_left _ hm)

/-- What was found out goes on within the ids, if the id under which profiles
    would be written as it stands is one of them. -/
private theorem Concludes.within {cfg : Config} {p : Parameters}
    {found : Except Error (Attempt ProfileSet)} {r : Except Error Outcome}
    (h : Concludes cfg p c found t r c')
    (hsession : ∀ s, found = .ok (.produced s) → c.sessionIssued = true ∨ c.saysLoaded = true →
      ∀ id, c.session = some id → id ∈ ids)
    (hids : ∀ id ∈ issuedIds t, id ∈ ids) : ∀ event ∈ t, event.Within ids := by
  cases h with
  | failed e => exact List.forall_mem_nil _
  | answered a => exact List.forall_mem_nil _
  | unknown => exact List.forall_mem_nil _
  | unjudged e hv => exact within_called _
  | refused a hv ho => exact within_called _
  | passed hv hm =>
      refine List.forall_mem_append.mpr ⟨within_called _, hm.within (hsession _ rfl) ?_⟩
      intro id hid
      refine hids id ?_
      rw [issuedIds_append]
      exact List.mem_append_right _ hid

/-- A decision on a context in which nothing is noted brings profiles under no
    id but those that are guarded and those that it issues. -/
theorem Decides.guarded {g : Gate} {config : Option Config} {p : Parameters}
    {r : Except Error Outcome} {lifetime : Lifetime} {instant : Instant} {m m' : MemoryStore}
    (h : Decides g config p now c t r c') (hnoted : c.attribute? profilesKey = none)
    (hissued : c.sessionIssued = false) (hids : ∀ id ∈ issuedIds t, id ∈ ids)
    (hm : m.Guarded ids) (hr : MemoryStore.Replays lifetime instant m t m') :
    m'.Guarded ids := by
  cases h with
  | missing part hnone => exact hm.replays (List.forall_mem_nil _) hr
  | unmatched e hparts hmatch => exact hm.replays (within_called _) hr
  | bypassed hparts hmatch => exact hm.replays (within_called _) hr
  | unresolved e hparts hmatch hc => exact hm.replays (within_called _) hr
  | @ready cfg clients u v c₁ c' found r hready ha hc =>
      have hempty : c.noted now = .ok .empty := by rw [Context.noted, hnoted]; rfl
      -- an id under which profiles would be written back could be read before
      have hsession : ∀ s, found = .ok (.produced s) →
          c₁.sessionIssued = true ∨ c₁.saysLoaded = true →
          ∀ id, c₁.session = some id → id ∈ ids := by
        rintro s rfl hwrites id hid
        obtain ⟨hne, source, rfl, hf⟩ := ha.finds
        rw [Context.sessionIssued_withLoaded, hissued, Context.saysLoaded_withLoaded] at hwrites
        rw [Context.session_withLoaded] at hid
        cases hf with
        | request hcl hn =>
            rw [hempty] at hn
            cases hn
            cases hne
        | direct hn hnil hd =>
            rcases hwrites with hi | hl
            · exact Bool.noConfusion hi
            · exact Bool.noConfusion hl
        | session hn hnil hd hfound hs hvalue =>
            -- nothing changed the store before the look-up, so the invariant speaks of it
            rw [hid] at hs
            cases hs
            rw [List.append_assoc, ← List.append_assoc] at hr
            exact hm.of_get? (MemoryStore.get?_of_replays hr
              (List.forall_mem_append.mpr ⟨idle_called _, idle_called _⟩))
      have hids' : ∀ id ∈ issuedIds v, id ∈ ids := by
        intro id hid
        refine hids id ?_
        rw [issuedIds_append, issuedIds_append]
        exact List.mem_append_right _ (List.mem_append_right _ hid)
      exact hm.replays (List.forall_mem_append.mpr ⟨within_called _,
        List.forall_mem_append.mpr ⟨ha.within, hc.within hsession hids'⟩⟩) hr

end Gate

/-! ## Runs -/

/-- The worlds that visits lead to, with the session ids that were issued on the
    way.  Every visit has a gate of its own, a time of its own and its own source
    of random octets; the store is all that the visits share. -/
inductive Reached : World → List String → Prop
  | start : Reached (World.ofStore .empty) []
  | visit {w : World} {ids : List String} (m : Middleware) (now : Instant) (handler : Handler)
      (request : Request) (env : Surroundings) : Reached w ids →
      Reached ((m.process now handler request).run env w).2
        (ids ++ issuedIds ((m.process now handler request).trace env w))

/-- One visit keeps the invariant. -/
theorem Middleware.guarded_process (m : Middleware) (now : Instant) (handler : Handler)
    (request : Request) (env : Surroundings) {w : World} {ids : List String}
    (h : w.store.Guarded ids) :
    ((m.process now handler request).run env w).2.store.Guarded
      (ids ++ issuedIds ((m.process now handler request).trace env w)) := by
  have hreplays := Plan.replays_trace env (m.process now handler request) w
  obtain ⟨octets, u, r, c', ht, hd, -⟩ :=
    ends_process (Plan.ends_trace env (m.process now handler request) w)
  rw [ht] at hreplays ⊢
  -- drawing the id of the request touches no store
  obtain ⟨m₁, hdrawn, hu⟩ := MemoryStore.replays_cons.mp hreplays
  cases hdrawn
  refine hd.guarded rfl rfl ?_ (h.mono fun id hid => List.mem_append_left _ hid) hu
  intro id hid
  exact List.mem_append_right _ (List.mem_filterMap.mpr
    ((List.mem_filterMap.mp hid).imp fun event he => ⟨List.mem_cons_of_mem _ he.1, he.2⟩))

/-- The invariant holds in every world that visits lead to. -/
theorem guarded_of_reached {w : World} {ids : List String} (h : Reached w ids) :
    w.store.Guarded ids := by
  -- on the visits, with the ids issued so far as the list that only grows
  induction h with
  | start =>
      intro id s value hk
      cases hk
  | visit m now handler request env _ ih => exact m.guarded_process now handler request env ih

/-- No session fixation: in every world that visits lead to, an id under which
    profiles can be read was issued by the gate on the way there. -/
theorem issued_of_readable {w : World} {ids : List String} (h : Reached w ids) (now : Instant)
    (id : String) (hr : (w.store.get? now id profilesKey).isSome = true) : id ∈ ids := by
  obtain ⟨value, hv⟩ := Option.isSome_iff_exists.mp hr
  exact (guarded_of_reached h).of_get? hv

/-- A gate that knows everybody and keeps it in the session. -/
def keepingGate : Middleware :=
  ⟨.ofSettings {}, .anonymous { saveDirect := true }, default⟩

/-- A visitor comes with a planted session id and is known under a fresh one. -/
theorem issued_of_readable_planted :
    ∃ w ids, Reached w ids ∧
      w.store.get? .epoch "planted" profilesKey = none ∧
      (w.store.get? .epoch (sessionIdOf (List.replicate 32 0)) profilesKey).isSome = true ∧
      sessionIdOf (List.replicate 32 0) ∈ ids := by
  have h := Reached.visit keepingGate .epoch (fun _ _ => .bare 200)
    ⟨"GET", .root, [("cookie", "WARDEN_SESSION=planted")], []⟩ (.still .epoch) .start
  have hr : (((keepingGate.process .epoch (fun _ _ => .bare 200)
      ⟨"GET", .root, [("cookie", "WARDEN_SESSION=planted")], []⟩).run (.still .epoch)
        (World.ofStore .empty)).2.store.get? .epoch
          (sessionIdOf (List.replicate 32 0)) profilesKey).isSome = true := rfl
  exact ⟨_, _, h, rfl, hr, issued_of_readable h .epoch _ hr⟩

end AccessGate
