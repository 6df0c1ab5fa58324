import AccessGate.Proofs.Events

/-! # Logouts and decisions in flight

    The store serves many requests at once, and between two steps of a decision
    others may take theirs.  A decision that has its profiles from a session writes
    the same set back when they pass, though nothing changed.  If somebody logs out
    in between, the write brings the profiles back under the id that was left.

    A schedule puts the steps of one decision among those of others, in any order
    and at any times.  `undone_iff` says that a write that comes late is the only
    way to undo a logout: no other step of such a decision does. -/

namespace AccessGate

/-! ## Schedules -/

/-- One event of a schedule.  It happens at a time of its own, through a store
    that gives sessions a lifetime, and is the decision's own or not. -/
structure Beat where
  lifetime : Lifetime
  now : Instant
  own : Bool
  event : Event

/-- What the decision itself does in a schedule. -/
def ownEvents (schedule : List Beat) : List Event := (schedule.filter Beat.own).map Beat.event

theorem ownEvents_append (before after : List Beat) :
    ownEvents (before ++ after) = ownEvents before ++ ownEvents after := by
  rw [ownEvents, List.filter_append, List.map_append]
  rfl

/-- A schedule takes a store to another, one event after the other. -/
inductive MemoryStore.Plays : MemoryStore → List Beat → MemoryStore → Prop
  | nil (m : MemoryStore) : Plays m [] m
  | cons {m m₁ m₂ : MemoryStore} {beat : Beat} {rest : List Beat} :
      Does beat.lifetime beat.now m beat.event m₁ → Plays m₁ rest m₂ → Plays m (beat :: rest) m₂

theorem MemoryStore.plays_append {m m' : MemoryStore} {before after : List Beat}
    (h : Plays m (before ++ after) m') : ∃ m₁, Plays m before m₁ ∧ Plays m₁ after m' := by
  induction before generalizing m with
  | nil => exact ⟨m, .nil m, h⟩
  | cons beat rest ih =>
      cases h with
      | cons hd hp =>
          obtain ⟨m₁, hrest, hafter⟩ := ih hp
          exact ⟨m₁, .cons hd hrest, hafter⟩

/-! ## Logouts -/

/-- The ways to log out of a session, done with success: the profiles are taken
    away, or the session is dropped, or it is moved to another id. -/
inductive Event.LogsOut (s : String) : Event → Prop
  | removed : LogsOut s (.stored (.remove s profilesKey) (.ok ()))
  | destroyed : LogsOut s (.stored (.destroy s) (.ok ()))
  | moved {new : String} : new ≠ s → LogsOut s (.stored (.renew s new) (.ok ()))

/-- After a logout nobody is known in the session, at any time. -/
theorem Event.LogsOut.get? {s : String} {event : Event} {lifetime : Lifetime} {now : Instant}
    {m m' : MemoryStore} (h : event.LogsOut s)
    (hd : MemoryStore.Does lifetime now m event m') (instant : Instant) :
    m'.get? instant s profilesKey = none := by
  cases h with
  | removed =>
      rcases MemoryStore.does_stored.mp hd with ⟨-, rfl⟩ | ⟨-, e, he⟩
      · exact m.get?_remove_self instant s profilesKey
      · cases he
  | destroyed =>
      rcases MemoryStore.does_stored.mp hd with ⟨-, rfl⟩ | ⟨-, e, he⟩
      · exact m.get?_destroy_self instant s profilesKey
      · cases he
  | moved hne =>
      rcases MemoryStore.does_stored.mp hd with ⟨-, rfl⟩ | ⟨-, e, he⟩
      · exact MemoryStore.get?_renew_self hne instant profilesKey
      · cases he

namespace Gate

/-- How a decision comes to profiles of a session: it reads them there, or an
    earlier decision of its request did, and noted them as loaded. -/
inductive TookFrom (s : String) (now : Instant) (c : Context) (t : List Event)
    (loaded : ProfileSet) : Prop
  | read {value : Json} : .stored (.get s profilesKey) (.ok (some value)) ∈ t →
      ProfileSet.ofValue now value = .ok loaded → TookFrom s now c t loaded
  | noted : c.noted now = .ok loaded → c.saysLoaded = true → c.session = some s →
      TookFrom s now c t loaded

/-- A decision that has its profiles from a session is overtaken by a logout from
    it.  `m` is the store after the logout, and `after` is what still happens. -/
structure Overtaken (g : Gate) (config : Option Config) (p : Parameters) (now : Instant)
    (c : Context) (s : String) (loaded : ProfileSet) (before : List Beat) (logout : Beat)
    (m : MemoryStore) (after : List Beat) (r : Except Error Outcome) (c' : Context) : Prop where
  ends : (g.decide config p now c).Ends (ownEvents (before ++ logout :: after)) (r, c')
  took : TookFrom s now c (ownEvents before) loaded
  known : loaded.isEmpty = false
  other : logout.own = false
  logsOut : logout.event.LogsOut s
  plays : ∃ m₀, MemoryStore.Plays m₀ (before ++ [logout]) m

/-- The logout is undone: a step of the decision makes profiles readable in the
    session where none could be read. -/
def Undone (s : String) (m : MemoryStore) (after : List Beat) : Prop :=
  ∃ u beat v m₁ m₂, after = u ++ beat :: v ∧ beat.own = true ∧ m.Plays u m₁ ∧
    MemoryStore.Does beat.lifetime beat.now m₁ beat.event m₂ ∧
    m₁.get? beat.now s profilesKey = none ∧ (m₂.get? beat.now s profilesKey).isSome = true

/-! ## What such a decision does -/

variable {g : Gate} {config : Option Config} {p : Parameters} {cfg : Config} {now : Instant}
  {settings : Settings} {multi : Bool} {clients : List Client} {c c₁ c' : Context}
  {s : String} {loaded : ProfileSet} {t u : List Event} {r : Except Error Outcome}
  {found : Except Error (Attempt ProfileSet)}

theorem TookFrom.mono (h : TookFrom s now c t loaded) (hs : ∀ event ∈ t, event ∈ u) :
    TookFrom s now c u loaded := by
  cases h with
  | read hget hv => exact .read (hs _ hget) hv
  | noted hn hl hid => exact .noted hn hl hid

/-- A visitor known from a session is found out so, unless no client takes part. -/
private theorem Authenticates.of_took
    (h : Authenticates now settings multi clients c t found c₁)
    (took : TookFrom s now c t loaded) (hne : loaded.isEmpty = false) :
    (∀ event ∈ t, event.Idle) ∧
      (found = .ok .absent ∨
        found = .ok (.produced loaded) ∧ c₁ = c.withLoaded true ∧ c.session = some s) := by
  cases took with
  | noted hn hl hid =>
      by_cases hcl : clients = []
      · subst hcl
        cases h with
        | nobody hnil => exact ⟨List.forall_mem_nil _, .inl rfl⟩
        | unreadable e hne' hn' => exact absurd rfl hne'
        | earlier _ hne' hn' hs => exact absurd rfl hne'
        | directFailed e hne' hn' hs hd => exact absurd rfl hne'
        | directAction a hne' hn' hs hd => exact absurd rfl hne'
        | direct _ hne' hn' hs hd hf => exact absurd rfl hne'
        | unasked hne' hn' hs hd hf hi hsave => exact absurd rfl hne'
        | session hne' hn' hs hd hf hi hc => exact absurd rfl hne'
      · obtain ⟨rfl, rfl, rfl⟩ := h.of_finds (.request hcl hn) hne (by decide)
        exact ⟨List.forall_mem_nil _, .inr ⟨rfl, congrArg c.withLoaded hl, hid⟩⟩
  | @read value hget hv =>
      have hcalls : ∀ calls : List Call,
          .stored (.get s profilesKey) (.ok (some value)) ∉ calls.map Event.called := by
        intro calls hmem
        obtain ⟨call, -, heq⟩ := List.mem_map.mp hmem
        cases heq
      cases h with
      | nobody hnil => cases hget
      | unreadable e hne' hn' => cases hget
      | earlier _ hne' hn' hs => cases hget
      | directFailed e hne' hn' hs hd => exact absurd hget (hcalls _)
      | directAction a hne' hn' hs hd => exact absurd hget (hcalls _)
      | direct _ hne' hn' hs hd hf => exact absurd hget (hcalls _)
      | unasked hne' hn' hs hd hf hi hsave => exact absurd hget (hcalls _)
      | session hne' hn' hs hd hf hi hc =>
          have hread := (List.mem_append.mp hget).resolve_left (hcalls _)
          obtain ⟨hid, rfl, rfl, rfl⟩ := hc.of_read hread hv hne
          refine ⟨List.forall_mem_append.mpr ⟨idle_called _, ?_⟩, .inr ⟨rfl, rfl, hid⟩⟩
          exact List.forall_mem_singleton.mpr trivial

/-- A decision that has its profiles from a session changes the store in one way
    at most: it ends with writing them back, and grants if that is done. -/
theorem Decides.of_took (h : Decides g config p now c t r c')
    (took : TookFrom s now c t loaded) (hne : loaded.isEmpty = false) :
    (∀ event ∈ t, event.Idle) ∨
      ∃ u answer, t = u ++ [.stored (.set s profilesKey loaded.toJson) answer] ∧
        (∀ event ∈ u, event.Idle) ∧
        r = answer.map fun _ => .granted ⟨c', loaded, p.extra, true⟩ := by
  cases h with
  | missing part hnone => exact .inl (List.forall_mem_nil _)
  | unmatched e hparts hm => exact .inl (idle_called _)
  | bypassed hparts hm => exact .inl (idle_called _)
  | unresolved e hparts hm hc => exact .inl (idle_called _)
  | @ready cfg clients t u c₁ c' found r hready ha hc =>
      -- profiles of the session are read while the visitor is looked for
      have hauth : TookFrom s now c t loaded := by
        cases took with
        | noted hn hl hid => exact .noted hn hl hid
        | read hget hv =>
            rcases List.mem_append.mp hget with hget | hget
            · obtain ⟨name, heq⟩ := asksMatchers_events cfg p c _ hget
              cases heq
            rcases List.mem_append.mp hget with hget | hget
            · exact .read hget hv
            · cases hc.events _ hget with
              | remembering hfound hr =>
                  cases hr with
                  | moving hmove => cases hmove
      obtain ⟨hidle, hfound⟩ := ha.of_took hauth hne
      have hearly : ∀ event ∈ asksMatchers cfg p c ++ t, event.Idle :=
        List.forall_mem_append.mpr ⟨idle_called _, hidle⟩
      rw [← List.append_assoc]
      rcases hfound with rfl | ⟨rfl, rfl, hid⟩
      · cases hc with
        | unknown => exact .inl (List.forall_mem_append.mpr ⟨hearly, List.forall_mem_nil _⟩)
      · cases hc with
        | unjudged e hv =>
            exact .inl (List.forall_mem_append.mpr ⟨hearly, idle_called _⟩)
        | refused a hv ho =>
            exact .inl (List.forall_mem_append.mpr ⟨hearly, idle_called _⟩)
        | passed hv hm =>
            have hmark := Context.saysLoaded_withLoaded c true
            cases hm with
            | noted hl hd => cases hl.symm.trans hmark
            | unmoved hl hd hm => cases hl.symm.trans hmark
            | moved answer hl hd hm he => cases hl.symm.trans hmark
            | kept answer hl he =>
                cases he with
                | issued octets hnone => cases hid.symm.trans hnone
                | kept hs =>
                    cases hid.symm.trans hs
                    refine .inr ⟨asksMatchers cfg p c ++ t
                      ++ asksAuthorizers cfg p loaded (c.withLoaded true), answer, ?_,
                      List.forall_mem_append.mpr ⟨hearly, idle_called _⟩, ?_⟩
                    · exact (List.append_assoc _ _ _).symm
                    · cases answer with
                      | error e => rfl
                      | ok done => rfl

/-- When all events but the last are idle, one that is not is the last. -/
private theorem eq_last_of_busy {event last : Event} {v w : List Event}
    (h : u ++ event :: v = w ++ [last]) (hidle : ∀ event ∈ w, event.Idle) (hbusy : ¬ event.Idle) :
    event = last ∧ v = [] := by
  rcases List.eq_nil_or_concat v with rfl | ⟨rest, final, rfl⟩
  · obtain ⟨-, heq⟩ := List.append_inj' h rfl
    exact ⟨(List.cons.inj heq).1, rfl⟩
  · rw [List.concat_eq_append, ← List.cons_append, ← List.append_assoc] at h
    obtain ⟨rfl, -⟩ := List.append_inj' h rfl
    exact absurd (hidle event (List.mem_append_right _ List.mem_cons_self)) hbusy

/-- A decision that was overtaken changes the store in one way at most: by
    writing the profiles back. -/
theorem Overtaken.of_own {before after u v : List Beat} {logout beat : Beat} {m m₁ m₂ : MemoryStore}
    (h : Overtaken g config p now c s loaded before logout m after r c')
    (hafter : after = u ++ beat :: v) (hown : beat.own = true)
    (hd : MemoryStore.Does beat.lifetime beat.now m₁ beat.event m₂)
    (hchange : m₂ ≠ m₁) :
    beat.event = .stored (.set s profilesKey loaded.toJson) (.ok ()) ∧ ownEvents v = [] ∧
      r = .ok (.granted ⟨c', loaded, p.extra, true⟩) := by
  have hbusy : ¬ beat.event.Idle := fun hi =>
    hchange (MemoryStore.eq_of_replays_idle (.cons hd (.nil _)) (List.forall_mem_singleton.mpr hi))
  have hsplit : ownEvents (before ++ logout :: after)
      = ownEvents (before ++ logout :: u) ++ beat.event :: ownEvents v := by
    have hcons : ownEvents (beat :: v) = beat.event :: ownEvents v := by
      rw [ownEvents, List.filter_cons_of_pos hown]
      rfl
    rw [hafter, ← List.cons_append, ← List.append_assoc, ownEvents_append, hcons]
  have htook : TookFrom s now c (ownEvents (before ++ logout :: after)) loaded := by
    rw [ownEvents_append]
    exact h.took.mono fun event he => List.mem_append_left _ he
  rcases (ends_decide h.ends).of_took htook h.known with hidle | ⟨w, answer, ht, hidle, rfl⟩
  · rw [hsplit] at hidle
    exact absurd (hidle _ (List.mem_append_right _ List.mem_cons_self)) hbusy
  · rw [hsplit] at ht
    obtain ⟨hevent, hv⟩ := eq_last_of_busy ht hidle hbusy
    cases answer with
    | error e =>
        rw [hevent] at hbusy
        exact absurd trivial hbusy
    | ok done => exact ⟨hevent, hv, rfl⟩

/-- After a logout nobody is known in the session, and a decision that has its
    profiles from it undoes the logout in just one way: it grants, and its
    write-back of the unchanged set comes late, when nothing can be read there. -/
theorem undone_iff {before after : List Beat} {logout : Beat} {m : MemoryStore}
    (h : Overtaken g config p now c s loaded before logout m after r c') :
    (∀ instant, m.get? instant s profilesKey = none) ∧
      (Undone s m after ↔
        ∃ u beat v m₁ deadline, after = u ++ beat :: v ∧ beat.own = true ∧ m.Plays u m₁ ∧
          m₁.get? beat.now s profilesKey = none ∧
          beat.event = .stored (.set s profilesKey loaded.toJson) (.ok ()) ∧
          beat.now.add? beat.lifetime = some deadline ∧ deadline.before beat.now = false ∧
          ownEvents v = [] ∧ r = .ok (.granted ⟨c', loaded, p.extra, true⟩)) := by
  obtain ⟨m₀, hplays⟩ := h.plays
  refine ⟨?_, ?_, ?_⟩
  · intro instant
    obtain ⟨m₁, -, hlogout⟩ := MemoryStore.plays_append hplays
    cases hlogout with
    | cons hd hrest =>
        cases hrest
        exact h.logsOut.get? hd instant
  · rintro ⟨u, beat, v, m₁, m₂, hafter, hown, hu, hd, hgone, hback⟩
    have hchange : m₂ ≠ m₁ := by
      rintro rfl
      rw [hgone] at hback
      cases hback
    obtain ⟨hevent, hv, hr⟩ := h.of_own hafter hown hd hchange
    rw [hevent] at hd
    obtain ⟨deadline, hadd, hget⟩ := MemoryStore.get?_set? (MemoryStore.does_set.mp hd)
    refine ⟨u, beat, v, m₁, deadline, hafter, hown, hu, hgone, hevent, hadd, ?_, hv, hr⟩
    -- had the new deadline passed already, nothing could be read
    rw [hget, if_pos rfl] at hback
    cases hlives : deadline.before beat.now with
    | false => rfl
    | true =>
        rw [hlives, if_pos rfl] at hback
        cases hback
  · rintro ⟨u, beat, v, m₁, deadline, hafter, hown, hu, hgone, hevent, hadd, hlives, -, -⟩
    obtain ⟨m₂, hset⟩ : ∃ m₂, m₁.set? beat.lifetime beat.now s profilesKey loaded.toJson = some m₂ :=
      Option.isSome_iff_exists.mp (by rw [MemoryStore.set?, hadd]; rfl)
    refine ⟨u, beat, v, m₁, m₂, hafter, hown, hu, ?_, hgone, ?_⟩
    · rw [hevent]
      exact MemoryStore.does_set.mpr hset
    · obtain ⟨deadline', hadd', hget⟩ := MemoryStore.get?_set? hset
      cases hadd.symm.trans hadd'
      rw [hget, if_pos rfl, hlives, if_neg (by decide), if_pos rfl]
      rfl

/-! A visitor who is known from the session comes back, and is logged out while
    the decision on the request is in flight. -/

/-- A client whose login page fills the session. -/
def webClient : Client where
  name := "Web"
  kind := .indirect
  fetch _ _ := .ok .absent
  build _ _ _ := .ok .absent

def webVisitor : ProfileSet := .single "Web" (.ofId "jdoe")

/-- A store in which the visitor is known in one session. -/
def webStore : MemoryStore :=
  .ofSession "s" [(profilesKey, webVisitor.toJson)]

/-- A request of the visitor. -/
def webRequest : Context := .ofRequest ⟨"GET", .root, [], []⟩ (some "s")

/-- The context of that request when the visitor has passed. -/
def webPassed (c : Context) : Context := (c.withLoaded true).withProfiles webVisitor

/-- A decision for the visitor. -/
def webDecision (c : Context) : Plan (Except Error Outcome × Context) :=
  (ofSettings {}).decide (some (.ofClients [webClient] {})) default .epoch c

/-- A step at the start of time. -/
def webBeat (own : Bool) (event : Event) : Beat := ⟨MemoryStore.defaultLifetime, .epoch, own, event⟩

def webRead : Beat :=
  webBeat true (.stored (.get "s" profilesKey) (.ok (some webVisitor.toJson)))

def webLogout : Beat := webBeat false (.stored (.destroy "s") (.ok ()))

def webWrite : Beat :=
  webBeat true (.stored (.set "s" profilesKey webVisitor.toJson) (.ok ()))

/-- The session is dropped between the look-up and the write of the decision. -/
theorem overtaken_web :
    Overtaken (ofSettings {}) (some (.ofClients [webClient] {})) default .epoch webRequest "s"
      webVisitor [webRead] webLogout (webStore.destroy "s") [webWrite]
      (.ok (.granted ⟨webPassed webRequest, webVisitor, .empty, true⟩)) (webPassed webRequest) where
  ends := ⟨_, _, rfl, _, _, rfl, rfl, rfl⟩
  took := .read List.mem_cons_self rfl
  known := rfl
  other := rfl
  logsOut := .destroyed
  plays := ⟨webStore, .cons (.works webStore (.get "s" profilesKey))
    (.cons (.works webStore (.destroy "s")) (.nil _))⟩

/-- The visitor is known again after the logout, whether it falls between two
    steps of one decision or between two decisions of one request. -/
theorem logout_undone :
    (∃ before logout m after r c',
      Overtaken (ofSettings {}) (some (.ofClients [webClient] {})) default .epoch webRequest "s"
          webVisitor before logout m after r c' ∧ Undone "s" m after) ∧
      ∃ c₁ c₂ w₁ w₂,
        (webDecision webRequest).run (.still .epoch) (World.ofStore webStore)
            = ((.ok (.granted ⟨c₁, webVisitor, .empty, true⟩), c₁), w₁) ∧
          (w₁.store.destroy "s").get? .epoch "s" profilesKey = none ∧
          (webDecision c₁).run (.still .epoch) { w₁ with store := w₁.store.destroy "s" }
            = ((.ok (.granted ⟨c₂, webVisitor, .empty, true⟩), c₂), w₂) ∧
          w₂.store.get? .epoch "s" profilesKey = some webVisitor.toJson := by
  refine ⟨⟨_, _, _, _, _, _, overtaken_web, ?_⟩, _, _, _, _, rfl, rfl, rfl, rfl⟩
  exact ⟨[], webWrite, [], _, _, rfl, rfl, .nil _,
    .works (webStore.destroy "s") (.set "s" profilesKey webVisitor.toJson), rfl, rfl⟩

/-- The same schedule: the write comes late, so the logout is undone. -/
theorem undone_iff_web :
    (∀ instant, (webStore.destroy "s").get? instant "s" profilesKey = none) ∧
      Undone "s" (webStore.destroy "s") [webWrite] := by
  obtain ⟨hgone, hundone⟩ := undone_iff overtaken_web
  exact ⟨hgone, hundone.mpr ⟨[], webWrite, [], _, MemoryStore.firstDeadline, rfl, rfl, .nil _, rfl, rfl, rfl, rfl,
    rfl, rfl⟩⟩

end Gate

end AccessGate
