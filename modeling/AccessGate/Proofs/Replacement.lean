import AccessGate.Proofs.Repetition
import AccessGate.Proofs.SingleProfile

/-! # What a login leaves of a session

    Profiles that pass go to the session as a set.  The set is written over the one
    that stands there: a session is moved with all that it holds, and then holds what
    was granted and nothing else.  To save one profile alone keeps those of other
    clients; to be granted on it does not, in whichever mode.

    `held_iff_of_granted` says what the session holds after a grant, and
    `login_keeps_iff` when nobody else's profile was lost in it. -/

namespace AccessGate

namespace MemoryStore

/-- A profile that is fresh can be read at a client in a session. -/
def Held (m : MemoryStore) (instant now : Instant) (session : Option String) (name : String)
    (profile : Profile) : Prop :=
  ∃ id value s, session = some id ∧ m.get? instant id profilesKey = some value ∧
    ProfileSet.ofValue now value = .ok s ∧ (name, profile) ∈ s.entries

end MemoryStore

namespace Gate

variable {g : Gate} {config : Option Config} {cfg : Config} {p : Parameters} {now : Instant}
  {c c' : Context} {grant : Grant} {env : Surroundings} {w : World}

/-- A grant leaves its profiles in the session, when direct ones go there, whatever
    stood in their place. -/
theorem sessions_of_granted (hcfg : config = some cfg) (hsave : cfg.settings.saveDirect = true)
    (h : ((g.decide config p now c).run env w).1 = (.ok (.granted grant), c')) :
    ∃ id values deadline, c'.session = some id ∧ env.now.add? env.lifetime = some deadline ∧
      ((g.decide config p now c).run env w).2.store.sessions.get? id
        = some ⟨(values : Dict Json).insert profilesKey grant.profiles.toJson, deadline⟩ := by
  have hends := Plan.ends_trace env (g.decide config p now c) w
  have hreplays := Plan.replays_trace env (g.decide config p now c) w
  rw [h] at hends
  obtain ⟨cfg', clients, u, v, source, hp, hm, -, hcontext, ht⟩ := (ends_decide hends).of_granted
  obtain rfl : cfg' = cfg := Option.some.inj (hp.ready.eq_config.symm.trans hcfg)
  obtain ⟨-, -, hheld⟩ := hm.leaves
  obtain ⟨id, x, hid, -, rfl⟩ := hheld (by rw [goesToSession, hsave, Bool.or_true])
  rw [ht] at hreplays
  simp only [← List.append_assoc] at hreplays
  obtain ⟨values, deadline, hadd, hkept⟩ := MemoryStore.sessions_of_last hreplays
  exact ⟨id, values, deadline, hcontext ▸ hid, hadd, hkept⟩

/-- What a session holds after such a grant comes from the clients of the grant. -/
theorem clients_of_held {name : String} {profile : Profile} (hcfg : config = some cfg)
    (hsave : cfg.settings.saveDirect = true)
    (h : ((g.decide config p now c).run env w).1 = (.ok (.granted grant), c'))
    (hheld : ((g.decide config p now c).run env w).2.store.Held env.now now c'.session name
      profile) :
    name ∈ grant.profiles.clients := by
  obtain ⟨id, values, deadline, hid, -, hkept⟩ := sessions_of_granted hcfg hsave h
  obtain ⟨id', value, s, hid', hget, hs, hmem⟩ := hheld
  cases hid.symm.trans hid'
  obtain ⟨session, hsession, -, hvalue⟩ := MemoryStore.get?_eq_some.mp hget
  cases hkept.symm.trans hsession
  have heq : value = grant.profiles.toJson :=
    Option.some.inj (hvalue.symm.trans (Dict.get?_insert_self _ _ _))
  rw [heq] at hs
  exact ProfileSet.clients_of_toJson hs name (List.mem_map_of_mem hmem)

/-- What a session holds after a grant is what was granted, as far as it is fresh. -/
theorem held_iff_of_granted {name : String} {profile : Profile} (hcfg : config = some cfg)
    (hsave : cfg.settings.saveDirect = true) (hlife : 0 ≤ env.lifetime.nanos)
    (h : ((g.decide config p now c).run env w).1 = (.ok (.granted grant), c')) :
    ((g.decide config p now c).run env w).2.store.Held env.now now c'.session name profile ↔
      (name, profile) ∈ grant.profiles.entries ∧ profile.isExpired now = false := by
  obtain ⟨id, values, deadline, hid, hadd, hkept⟩ := sessions_of_granted hcfg hsave h
  have hlive : (⟨values.insert profilesKey grant.profiles.toJson, deadline⟩ : Session).isLive env.now
      = true := by
    rw [Session.isLive, Instant.not_before_of_add hadd hlife]
    rfl
  have hget : ((g.decide config p now c).run env w).2.store.get? env.now id profilesKey
      = some grant.profiles.toJson :=
    MemoryStore.get?_eq_some.mpr ⟨_, hkept, hlive, Dict.get?_insert_self _ _ _⟩
  have hread : ProfileSet.ofValue now grant.profiles.toJson
      = .ok (grant.profiles.unexpired now) := by
    rw [ProfileSet.ofValue, ProfileSet.ofJson?_toJson, Option.elim_some]
  have hfresh : (name, profile) ∈ (grant.profiles.unexpired now).entries ↔
      (name, profile) ∈ grant.profiles.entries ∧ profile.isExpired now = false := by
    rw [ProfileSet.unexpired, ProfileSet.filter, List.mem_filter, Bool.not_eq_true']
  rw [← hfresh]
  constructor
  · rintro ⟨id', value, s, hid', hget', hs, hmem⟩
    cases hid.symm.trans hid'
    cases hget.symm.trans hget'
    cases hread.symm.trans hs
    exact hmem
  · intro hmem
    exact ⟨id, _, _, hid, hget, hread, hmem⟩

/-- A grant that goes to the session keeps the profiles of others there just when
    there are none: every profile that the session held is lost, unless its client
    has one in the grant. -/
theorem login_keeps_iff (hcfg : config = some cfg) (hsave : cfg.settings.saveDirect = true)
    (h : ((g.decide config p now c).run env w).1 = (.ok (.granted grant), c')) :
    (∀ name profile, w.store.Held env.now now c.session name profile →
        name ∉ grant.profiles.clients →
        ((g.decide config p now c).run env w).2.store.Held env.now now c'.session name profile) ↔
      ∀ name profile, w.store.Held env.now now c.session name profile →
        name ∈ grant.profiles.clients := by
  constructor
  · intro hkeeps name profile hheld
    by_contra hother
    exact hother (clients_of_held hcfg hsave h (hkeeps name profile hheld hother))
  · intro hall name profile hheld hother
    exact absurd (hall name profile hheld) hother

/-! A session of a visitor whom a form knows, who then shows a badge.  Both clients
    of badges take part, and as many profiles as there are. -/

/-- The visit with the badge of one client, which presents the session. -/
def badgeVisit : Context := .ofRequest ⟨"GET", .root, [("x-a", "jdoe")], []⟩ (some "mine")

/-- A store in which that session holds a profile. -/
def heldStore (client : String) : MemoryStore :=
  .ofSession "mine" [(profilesKey, (ProfileSet.single client (.ofId "jroe")).toJson)]

/-- The profile of the badge. -/
def badgeHolder : ProfileSet := .single "A" ((Profile.ofId "jdoe").withClientName "A")

/-- The grant on the badge. -/
def badgeGrant : Grant where
  context := ((badgeVisit.withLoaded false).issueSession
    (sessionIdOf (List.replicate 32 0))).withProfiles badgeHolder
  profiles := badgeHolder
  extra := .empty
  loadedFromSession := false

/-- What comes of the visit. -/
def badgeRun (m : MemoryStore) : (Except Error Outcome × Context) × World :=
  (badgeDecision true badgeVisit).run (.still .epoch) (.ofStore m)

/-- A profile that the visitor has in the session is lost when a badge is shown. -/
theorem profile_lost :
    (badgeRun (heldStore "Web")).1 = (.ok (.granted badgeGrant), badgeGrant.context) ∧
      (heldStore "Web").Held .epoch .epoch badgeVisit.session "Web" (.ofId "jroe") ∧
      "Web" ∉ badgeGrant.profiles.clients ∧
      ¬ (badgeRun (heldStore "Web")).2.store.Held .epoch .epoch badgeGrant.context.session "Web"
        (.ofId "jroe") := by
  refine ⟨rfl, ⟨_, _, _, rfl, rfl, rfl, List.mem_cons_self⟩, by decide, ?_⟩
  rintro ⟨id, value, s, ⟨⟩, ⟨⟩, ⟨⟩, hmem⟩
  revert hmem
  decide

/-- A profile of the client of the badge is all that the session may hold before. -/
theorem login_keeps_iff_badge :
    (badgeRun (heldStore "A")).1 = (.ok (.granted badgeGrant), badgeGrant.context) ∧
      ∀ name profile, (heldStore "A").Held .epoch .epoch badgeVisit.session name profile →
        name ∉ badgeGrant.profiles.clients →
        (badgeRun (heldStore "A")).2.store.Held .epoch .epoch badgeGrant.context.session name
          profile := by
  have hgranted : (badgeRun (heldStore "A")).1
      = (.ok (.granted badgeGrant), badgeGrant.context) := rfl
  refine ⟨hgranted, (login_keeps_iff rfl rfl hgranted).mpr ?_⟩
  rintro name profile ⟨id, value, s, ⟨⟩, ⟨⟩, ⟨⟩, hmem⟩
  cases List.mem_singleton.mp hmem
  exact List.mem_cons_self

end Gate

end AccessGate
