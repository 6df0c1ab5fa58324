import AccessGate.Proofs.Continuity
import AccessGate.Proofs.Mistakes
import AccessGate.Proofs.Provenance

/-! # A grant is granted again

    A decision that granted leaves its profiles in the request, together with the
    note on where they came from.  Made again, it finds them there before it asks
    anybody, so it ends in the very same grant and the very same context.  What it
    writes to the session, if anything, is what stands there.

    `Remembers.leaves` says what the first decision leaves behind, whichever way
    the profiles came, and `Remembers.again` that to remember them once more in
    such a context changes nothing.  `granted_again` puts the two together. -/

namespace AccessGate

/-! ## Rules that look at the request -/

namespace Round

variable {α β : Type} [DecidableEq β]

private theorem answerAll_congr {q q' : Round α β} (hgood : q'.good = q.good) {rules : List (String × α)}
    (h : ∀ rule ∈ rules, q'.ask rule.2 = q.ask rule.2) :
    q'.answerAll rules = q.answerAll rules := by
  induction rules with
  | nil => rw [answerAll, answerAll, hgood]
  | cons rule rest ih =>
      obtain ⟨hrule, hrest⟩ := List.forall_mem_cons.mp h
      rw [answerAll, answerAll, hrule, hgood, ih hrest]

/-- Rounds that ask each rule alike come to the same answer. -/
theorem answer_congr (q q' : Round α β) {registry : RuleRegistry α} (hgood : q'.good = q.good)
    (hunknown : q'.unknown = q.unknown)
    (h : ∀ rule ∈ registry, q'.ask rule.2 = q.ask rule.2) (list : Option String) :
    q'.answer registry list = q.answer registry list := by
  rw [answer, answer, hgood, hunknown]
  cases Text.nonBlank list with
  | none => rfl
  | some text =>
      cases hr : RuleRegistry.resolve registry (Text.names text) with
      | error name => simp only [hr]
      | ok rules =>
          simp only [hr]
          exact answerAll_congr hgood fun rule hm => h rule (RuleRegistry.mem_of_resolve hr rule hm)

end Round

/-- Matchers look at the request alone, and authorizers at the request and the
    profiles: nothing that decisions note makes a difference to them. -/
structure Config.Impartial (cfg : Config) : Prop where
  matchers : ∀ rule ∈ cfg.matchers, ∀ c c' : Context, c'.request = c.request → rule.2 c' = rule.2 c
  authorizers : ∀ rule ∈ cfg.authorizers, ∀ (c c' : Context) (s : ProfileSet),
    c'.request = c.request → rule.2 c' s = rule.2 c s

namespace Gate

variable {g : Gate} {config : Option Config} {cfg : Config} {p : Parameters} {now now' : Instant}
  {settings : Settings} {clients : List Client} {c c' : Context} {t : List Event}
  {s : ProfileSet} {loaded : Bool} {grant : Grant}

theorem Ready.of_request (h : Ready g config p c cfg clients) (himpartial : cfg.Impartial)
    (hrequest : c'.request = c.request) : Ready g config p c' cfg clients := by
  obtain ⟨⟨registry, parameter, hparts, hclients⟩, hmatched⟩ := h
  have hsame := Round.answer_congr (Matcher.round c) (Matcher.round c') rfl rfl
    (fun rule hm => himpartial.matchers rule hm c c' hrequest) p.matchers
  exact ⟨⟨registry, parameter, hparts, hrequest ▸ hclients⟩, hsame.trans hmatched⟩

/-! ## What a grant leaves -/

/-- Do profiles that pass go to the session? -/
def goesToSession (settings : Settings) (c : Context) : Bool := c.saysLoaded || settings.saveDirect

/-- Profiles that were remembered are noted; and they stand in the session, if they
    go there, under an id that is not to be moved once more. -/
theorem Remembers.leaves (h : Remembers settings s c t (.ok loaded) c') :
    c'.request = c.request ∧ c'.attributes = (c.withProfiles s).attributes ∧
      (goesToSession settings c = true →
        ∃ id u, c'.session = some id ∧ (c.saysLoaded = false → c'.sessionIssued = true) ∧
          t = u ++ [.stored (.set id profilesKey s.toJson) (.ok ())]) := by
  -- to come to a session id changes neither the request nor what is noted
  have hensured : ∀ {c₁ c₂ : Context} {u : List Event} {id : String}, Scopes.Ensures c₁ u id c₂ →
      c₂.request = c₁.request ∧ c₂.attributes = c₁.attributes := by
    intro c₁ c₂ u id he
    cases he with
    | kept hs => exact ⟨rfl, rfl⟩
    | issued octets hs => exact ⟨rfl, rfl⟩
  generalize hr : Except.ok loaded = r at h
  cases h with
  | noted hl hd =>
      refine ⟨rfl, rfl, fun hgoes => ?_⟩
      rw [goesToSession, hl, hd] at hgoes
      cases hgoes
  | unmoved hl hd hm => cases hr
  | @moved t₁ t₂ id c₁ c₂ answer hl hd hm he =>
      cases answer with
      | error e => cases hr
      | ok done =>
          have hmoved : c₁.request = c.request ∧ c₁.attributes = c.attributes := by
            cases hm with
            | kept hi => exact ⟨rfl, rfl⟩
            | issued octets hi hs => exact ⟨rfl, rfl⟩
            | moved octets before _ hi hs => exact ⟨rfl, rfl⟩
          have hissued : c'.sessionIssued = true := by
            cases he with
            | kept hs => exact hm.sessionIssued
            | issued octets hs => rfl
          obtain ⟨hrequest, hattributes⟩ := hensured he
          refine ⟨hrequest.trans hmoved.1, hattributes.trans ?_, fun _ =>
            ⟨id, t₁ ++ t₂, he.session, fun _ => hissued, (List.append_assoc _ _ _).symm⟩⟩
          show c₁.attributes.insert _ _ = c.attributes.insert _ _
          rw [hmoved.2]
  | @kept u id c₁ answer hl he =>
      cases answer with
      | error e => cases hr
      | ok done =>
          obtain ⟨hrequest, hattributes⟩ := hensured he
          refine ⟨hrequest, hattributes, fun _ => ⟨id, u, he.session, fun hnot => ?_, rfl⟩⟩
          cases hl.symm.trans hnot

/-- To remember profiles once more changes nothing in the context, and they are all
    that is written to the session, if they go there. -/
theorem Remembers.again (h : Remembers settings s c t (.ok loaded) c') (hnoted : c.withProfiles s = c)
    (hheld : goesToSession settings c = true →
      ∃ id, c.session = some id ∧ (c.saysLoaded = false → c.sessionIssued = true)) :
    c' = c ∧ loaded = c.saysLoaded ∧
      (t = [] ∨ goesToSession settings c = true ∧
        ∃ id, c.session = some id ∧ t = [.stored (.set id profilesKey s.toJson) (.ok ())]) := by
  -- the session is there, so no id is drawn for it
  have hwrites : ∀ {u : List Event} {id : String} {c₁ : Context},
      goesToSession settings c = true → Scopes.Ensures c u id c₁ →
      u = [] ∧ c₁ = c ∧ c.session = some id := by
    intro u id c₁ hgoes he
    obtain ⟨held, hs, -⟩ := hheld hgoes
    cases he with
    | kept hs' => exact ⟨rfl, rfl, hs'⟩
    | issued octets hnone => cases hs.symm.trans hnone
  generalize hr : Except.ok loaded = r at h
  cases h with
  | noted hl hd =>
      cases hr
      exact ⟨hnoted, hl.symm, .inl rfl⟩
  | unmoved hl hd hm => cases hr
  | moved answer hl hd hm he =>
      cases answer with
      | error e => cases hr
      | ok done =>
          cases hr
          have hgoes : goesToSession settings c = true := by
            rw [goesToSession, hd, Bool.or_true]
          obtain ⟨-, -, hissued⟩ := hheld hgoes
          cases hm with
          | issued octets hnot _ => cases (hissued hl).symm.trans hnot
          | moved octets before _ hnot _ => cases (hissued hl).symm.trans hnot
          | kept _ =>
              rw [hnoted] at he
              obtain ⟨rfl, rfl, hid⟩ := hwrites hgoes he
              exact ⟨rfl, hl.symm, .inr ⟨hgoes, _, hid, rfl⟩⟩
  | kept answer hl he =>
      cases answer with
      | error e => cases hr
      | ok done =>
          cases hr
          have hgoes : goesToSession settings c = true := by
            rw [goesToSession, hl, Bool.true_or]
          rw [hnoted] at he
          obtain ⟨rfl, rfl, hid⟩ := hwrites hgoes he
          exact ⟨rfl, hl.symm, .inr ⟨hgoes, _, hid, rfl⟩⟩

/-- A grant takes clients. -/
theorem Decides.clients_ne_nil (h : Decides g config p now c t (.ok (.granted grant)) c')
    (hready : Ready g config p c cfg clients) : clients ≠ [] := by
  rintro rfl
  obtain ⟨u, v, found, c₁, -, ha, hc⟩ := h.of_ready hready
  generalize hr : Except.ok (Outcome.granted grant) = r at hc
  cases ha with
  | nobody hnil =>
      cases hc with
      | unknown => cases hr
  | unreadable e hne hn => exact hne rfl
  | earlier _ hne hn hs => exact hne rfl
  | directFailed e hne hn hs hd => exact hne rfl
  | directAction a hne hn hs hd => exact hne rfl
  | direct _ hne hn hs hd hf => exact hne rfl
  | unasked hne hn hs hd hf hi hsave => exact hne rfl
  | session hne hn hs hd hf hi hconsults => exact hne rfl

/-- What is handed on with a grant is what was asked for. -/
theorem Decides.extra_eq (h : Decides g config p now c t (.ok (.granted grant)) c') :
    grant.extra = p.extra := by
  rcases h.passes_or_rests with ⟨cfg, clients, u, v, s, source, kept, -, -, hr, -⟩ | hrests
  · cases kept with
    | error e => cases hr
    | ok loaded =>
        cases hr
        rfl
  · exact absurd rfl (hrests.ungranted grant)

/-- A decision that granted passes its profiles again in every context in which they
    are noted and which says of their source what the grant says. -/
theorem Decides.passes_again (h : Decides g config p now c t (.ok (.granted grant)) c')
    (himpartial : ∀ cfg, config = some cfg → cfg.Impartial) (hrequest : c'.request = c.request)
    (hnoted : c'.noted now' = .ok grant.profiles) :
    ∃ cfg clients, Passes g config p now' c' cfg clients [] grant.profiles .request := by
  obtain ⟨cfg, clients, u, v, source, hp, -, -, -, -⟩ := h.of_granted
  have hcfg : cfg.Impartial := himpartial cfg hp.ready.eq_config
  refine ⟨cfg, clients, ⟨hp.ready.of_request hcfg hrequest, hp.known,
    .request (h.clients_ne_nil hp.ready) hnoted, ?_⟩⟩
  have hsame := Round.answer_congr (Authorizer.round grant.profiles (c.withLoaded (source.saysLoaded c)))
    (Authorizer.round grant.profiles (c'.withLoaded c'.saysLoaded)) rfl rfl
    (fun rule hm => hcfg.authorizers rule hm _ _ grant.profiles hrequest) p.authorizers
  exact hsame.trans hp.allowed

end Gate

/-! ## The session between two decisions -/

/-- If a deadline was set at one instant and has not passed at a later one, the
    lifetime is not negative.  A clock shows no leap seconds. -/
theorem Lifetime.nonneg_of_alive {lifetime : Lifetime} {first later deadline : Instant}
    (hclock : first.nano < 1000000000) (hadd : first.add? lifetime = some deadline)
    (honward : later.before first = false) (halive : deadline.before later = false) :
    0 ≤ lifetime.nanos := by
  obtain ⟨hsecond, hnano⟩ := Instant.of?_eq_some_iff.mp hadd
  simp only [Instant.before, Bool.or_eq_false_iff, Bool.and_eq_false_iff, beq_eq_false_iff_ne,
    decide_eq_false_iff_not] at honward halive
  omega

namespace Gate

variable {g : Gate} {config : Option Config} {p : Parameters} {now now' : Instant}
  {c c' : Context} {grant : Grant} {first later : Surroundings} {w w' : World}

/-- The time between two decisions, as far as a grant is concerned: the clock goes
    on, the store keeps its lifetime, nobody writes to the session of the grant and
    it does not end, and no profile is stale by then. -/
structure Undisturbed (grant : Grant) (first later : Surroundings) (now' : Instant)
    (m m' : MemoryStore) : Prop where
  clock : first.now.nano < 1000000000
  onward : later.now.before first.now = false
  lifetime : later.lifetime = first.lifetime
  between : ∀ id, grant.context.session = some id → m.Meanwhile id later.now m'
  alive : ∀ id s, grant.context.session = some id → m.sessions.get? id = some s →
    s.isLive later.now = true
  fresh : ∀ entry ∈ grant.profiles.entries, entry.2.isExpired now' = false

/-- Profiles that stand in the session since the first decision are written there
    again, and nothing that can be read changes. -/
private theorem Undisturbed.get?_eq {m m₁ m₂ m₃ : MemoryStore} {t u : List Event} {id : String}
    {value : Json} (h : Undisturbed grant first later now' m₁ m₂)
    (hid : grant.context.session = some id)
    (hfirst : MemoryStore.Replays first.lifetime first.now m
      (t ++ [.stored (.set id profilesKey value) (.ok ())]) m₁)
    (hlater : MemoryStore.Replays later.lifetime later.now m₂
      (u ++ [.stored (.set id profilesKey value) (.ok ())]) m₃)
    (hu : ∀ event ∈ u, event.Idle) (other key : String) :
    m₃.get? later.now other key = m₂.get? later.now other key := by
  obtain ⟨values, deadline, hadd, hkept⟩ := MemoryStore.sessions_of_last hfirst
  have hlive := h.alive id _ hid hkept
  have hdeadline : deadline.before later.now = false := (Bool.not_eq_true' _).mp hlive
  have hlife : 0 ≤ later.lifetime.nanos := by
    rw [h.lifetime]
    exact Lifetime.nonneg_of_alive h.clock hadd h.onward hdeadline
  have hread : m₂.get? later.now id profilesKey = some value :=
    MemoryStore.get?_eq_some.mpr
      ⟨_, (h.between id hid).sessions_get? hkept hlive, hlive, Dict.get?_insert_self _ _ _⟩
  rw [MemoryStore.get?_of_write hlater hu hlife]
  by_cases hwritten : other = id ∧ key = profilesKey
  · rw [if_pos hwritten, hwritten.1, hwritten.2, hread]
  · rw [if_neg hwritten]

/-- Repeating a granted decision changes nothing.  On the context that the grant
    left it ends in the very same grant and leaves that context as it is, calls
    nobody but matchers and authorizers, and every value in the store can be read as
    before. -/
theorem granted_again (himpartial : ∀ cfg, config = some cfg → cfg.Impartial)
    (hfirst : ((g.decide config p now c).run first w).1 = (.ok (.granted grant), c'))
    (hbetween : Undisturbed grant first later now' ((g.decide config p now c).run first w).2.store
      w'.store)
    (hworks : ∀ e, ¬ StoreFails e ((g.decide config p now' c').trace later w')) :
    ((g.decide config p now' c').run later w').1 = (.ok (.granted grant), c') ∧
      (∀ call, .called call ∈ (g.decide config p now' c').trace later w' →
        ∃ name, call = .matcher name ∨ call = .authorizer name) ∧
      ∀ id key, ((g.decide config p now' c').run later w').2.store.get? later.now id key
        = w'.store.get? later.now id key := by
  have hends := Plan.ends_trace first (g.decide config p now c) w
  have hreplays := Plan.replays_trace first (g.decide config p now c) w
  rw [hfirst] at hends
  obtain ⟨cfg, clients, u, v, source, hp, hm, hl, rfl, ht⟩ := (ends_decide hends).of_granted
  obtain ⟨hrequest, hattributes, hheld⟩ := hm.leaves
  rw [← hl] at hattributes hheld
  -- what the first decision noted is there, so to note it once more changes nothing
  have hloaded : grant.context.attribute? loadedKey = some (.bool grant.loadedFromSession) := by
    rw [Context.attribute?_congr hattributes, Context.loaded_withProfiles, Context.loaded_withLoaded]
  have hprofiles : grant.context.attribute? profilesKey = some grant.profiles.toJson := by
    rw [Context.attribute?_congr hattributes, Context.profiles_withProfiles]
  have hflag : grant.context.saysLoaded = grant.loadedFromSession := by
    rw [Context.saysLoaded, Context.loaded?, hloaded]
    rfl
  have hsame : grant.context.withProfiles grant.profiles = grant.context := by
    rw [Context.withProfiles, Context.setAttribute, Dict.insert_eq_self hprofiles]
  have hnoted : grant.context.noted now' = .ok grant.profiles := by
    rw [Context.noted, hprofiles]
    exact ProfileSet.ofValue_toJson hbetween.fresh
  -- so the second decision finds the profiles in the request, and they pass
  have hends' := Plan.ends_trace later (g.decide config p now' grant.context) w'
  have hreplays' := Plan.replays_trace later (g.decide config p now' grant.context) w'
  obtain ⟨cfg', clients', hp'⟩ :=
    (ends_decide hends).passes_again himpartial hrequest hnoted
  obtain rfl : cfg = cfg' :=
    Option.some.inj (hp.ready.eq_config.symm.trans hp'.ready.eq_config)
  generalize hout : ((g.decide config p now' grant.context).run later w').1 = out at hends' ⊢
  obtain ⟨r, c₂⟩ := out
  obtain ⟨v', kept, hm', rfl, ht'⟩ := (ends_decide hends').of_passes hp' (by decide)
  rw [Source.saysLoaded, hflag, withLoaded_eq_self.mpr hloaded] at hm' ht'
  cases kept with
  | error e =>
      refine absurd (hm'.of_error.mono fun _ hmem => ?_) (hworks e)
      rw [ht']
      exact List.mem_append_right _ (List.mem_append_right _ (List.mem_append_right _ hmem))
  | ok again =>
      have hgoes : goesToSession cfg.settings (c.withLoaded grant.loadedFromSession)
          = goesToSession cfg.settings grant.context := by
        rw [goesToSession, goesToSession, Context.saysLoaded_withLoaded, hflag]
      rw [hgoes, Context.saysLoaded_withLoaded, ← hflag] at hheld
      obtain ⟨rfl, rfl, hv'⟩ := hm'.again hsame fun hto => by
        obtain ⟨id, -, hid, hissued, -⟩ := hheld hto
        exact ⟨id, hid, hissued⟩
      have hextra := (ends_decide hends).extra_eq
      rw [List.nil_append, ← List.append_assoc] at ht'
      have hidle : ∀ event ∈ asksMatchers cfg p grant.context
          ++ asksAuthorizers cfg p grant.profiles grant.context, event.Idle :=
        List.forall_mem_append.mpr ⟨idle_called _, idle_called _⟩
      refine ⟨?_, ?_, ?_⟩
      · rw [hflag, ← hextra]
        rfl
      · intro call hmem
        rw [ht', List.mem_append, List.mem_append] at hmem
        rcases hmem with (hmem | hmem) | hmem
        · obtain ⟨name, heq⟩ := asksMatchers_events _ _ _ _ hmem
          exact ⟨name, .inl (Event.called.inj heq)⟩
        · obtain ⟨name, heq⟩ := asksAuthorizers_events _ _ _ _ _ hmem
          exact ⟨name, .inr (Event.called.inj heq)⟩
        · rcases hv' with rfl | ⟨-, id, -, rfl⟩
          · cases hmem
          · cases List.mem_singleton.mp hmem
      · rcases hv' with rfl | ⟨hto, id, hid, rfl⟩
        · rw [ht', List.append_nil] at hreplays'
          intro id key
          rw [MemoryStore.eq_of_replays_idle hreplays' hidle]
        · obtain ⟨id', x, hid', -, rfl⟩ := hheld hto
          cases hid.symm.trans hid'
          rw [ht'] at hreplays'
          rw [ht] at hreplays
          simp only [← List.append_assoc] at hreplays
          exact hbetween.get?_eq hid hreplays hreplays' hidle

/-! Two passes move the profiles to a session that is issued for them.  The store
    serves somebody else before the decision is made again. -/

/-- The two clients of passes, with a matcher and an authorizer. -/
def ruledConfig : Config :=
  { passConfig with
    matchers := [("reads", .ofMethods ["GET", "HEAD"])]
    authorizers := [("known", .authenticated)] }

/-- A decision that asks both. -/
def ruledDecision (now : Instant) (c : Context) : Plan (Except Error Outcome × Context) :=
  (ofSettings passConfig.settings).decide (some ruledConfig)
    { (default : Parameters) with matchers := some "reads", authorizers := some "known" } now c

/-- The visit with two passes, which presents a session. -/
def ruledContext : Context := .ofRequest passVisit.request (some "mine")

/-- The grant that the visit ends in. -/
def ruledGrant : Grant where
  context := ((ruledContext.withLoaded false).issueSession passId).withProfiles passProfiles
  profiles := passProfiles
  extra := .empty
  loadedFromSession := false

/-- The world after the visit, when the store has served others. -/
def ruledWorld : World :=
  .ofStore (servedOthers ((ruledDecision passVisit.now ruledContext).run passVisit.env
    (World.ofStore .empty)).2.store)

/-- Made again, the decision ends in the same grant. -/
theorem granted_again_ruled :
    ((ruledDecision (.mk 1740700800 0) ruledContext).run (.still (.mk 1740700800 0))
        (World.ofStore .empty)).1 = (.ok (.granted ruledGrant), ruledGrant.context) ∧
      ((ruledDecision (.mk 1740702000 0) ruledGrant.context).run (.still (.mk 1740702000 0)) ruledWorld).1
        = (.ok (.granted ruledGrant), ruledGrant.context) := by
  have himpartial : ∀ cfg, some ruledConfig = some cfg → cfg.Impartial := by
    rintro cfg ⟨⟩
    constructor
    · refine List.forall_mem_singleton.mpr fun c c' hrequest => ?_
      simp only [Matcher.ofMethods, hrequest]
    · exact List.forall_mem_singleton.mpr fun c c' s _ => rfl
  have hfirst : ((ruledDecision (.mk 1740700800 0) ruledContext).run (.still (.mk 1740700800 0))
      (World.ofStore .empty)).1 = (.ok (.granted ruledGrant), ruledGrant.context) := rfl
  have hbetween : Undisturbed ruledGrant (.still (.mk 1740700800 0)) (.still (.mk 1740702000 0))
      (.mk 1740702000 0) ((ruledDecision (.mk 1740700800 0) ruledContext).run (.still (.mk 1740700800 0))
        (World.ofStore .empty)).2.store ruledWorld.store :=
    { clock := by decide
      onward := rfl
      lifetime := rfl
      between := by
        rintro id ⟨⟩
        refine .cleanup (.event (.nothing _) ?_ (.works _ (.set "other" "cart" .null))) rfl
        show ¬ "other" = passId
        decide
      alive := by
        rintro id s ⟨⟩ ⟨⟩
        rfl
      fresh := by decide }
  have hworks : ∀ e, ¬ StoreFails e ((ruledDecision (.mk 1740702000 0) ruledGrant.context).trace
      (.still (.mk 1740702000 0)) ruledWorld) := by
    rintro e ⟨step, hmem⟩
    have ht : (ruledDecision (.mk 1740702000 0) ruledGrant.context).trace (.still (.mk 1740702000 0))
        ruledWorld = [.called (.matcher "reads"), .called (.authorizer "known"),
          .stored (.set passId profilesKey passProfiles.toJson) (.ok ())] := rfl
    rw [ht] at hmem
    rcases hmem with _ | ⟨_, _ | ⟨_, _ | ⟨_, hmem⟩⟩⟩
    cases hmem
  exact ⟨hfirst, (granted_again himpartial hfirst hbetween hworks).1⟩

end Gate

end AccessGate
