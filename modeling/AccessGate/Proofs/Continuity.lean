import AccessGate.Proofs.CookieField
import AccessGate.Proofs.Frame
import AccessGate.Proofs.Issue
import AccessGate.Proofs.WireForm

/-! # A login continues through its cookie

    A visitor whom direct clients know once need not be known to them again: the
    profiles go to the session, its id goes out in a cookie, and a later request
    that brings the cookie back is let in on the same profiles.  Between the two
    visits the store goes on being used (`Meanwhile`), as long as nobody writes to
    that session.

    `login_continues` follows the whole way.  The first visit is read off
    `Remembers` (`Remembers.of_fresh`), the later one off `Authenticates`
    (`Decides.takes_up`); what lies between them is the wire form, the cookie and
    the deadline, each of which has its law elsewhere. -/

namespace AccessGate

/-! ## Between two visits -/

/-- A step that writes to a session, moves it or moves another into its place. -/
def StoreStep.Writes (id : String) : StoreStep → Prop
  | .get _ _ => False
  | .set other _ _ => other = id
  | .remove other _ => other = id
  | .destroy other => other = id
  | .renew old new => old = id ∨ new = id

/-- An event that writes to a session. -/
def Event.Writes (id : String) : Event → Prop
  | .stored step _ => step.Writes id
  | _ => False

namespace MemoryStore

variable {lifetime : Lifetime} {now last : Instant} {m m' : MemoryStore} {id : String}

/-- What is kept of a session stays when others are written to. -/
theorem sessions_of_does {event : Event} (h : Does lifetime now m event m')
    (hw : ¬ event.Writes id) : m'.sessions.get? id = m.sessions.get? id := by
  cases h with
  | fails step e => rfl
  | drawn count octets => rfl
  | called call => rfl
  | works step =>
      cases step with
      | get other key => rfl
      | set other key value =>
          rw [apply]
          cases hm : m.set? lifetime now other key value with
          | none => rfl
          | some after =>
              obtain ⟨deadline, -, hget⟩ := sessions_set? hm id
              exact hget.trans (if_neg fun heq => hw heq.symm)
      | remove other key =>
          exact (m.sessions_remove other key id).trans (if_neg fun heq => hw heq.symm)
      | destroy other =>
          exact (Dict.get?_erase _ _ _).trans (if_neg fun heq => hw heq.symm)
      | renew old new =>
          have hold : id ≠ old := fun heq => hw (.inl heq.symm)
          have hnew : id ≠ new := fun heq => hw (.inr heq.symm)
          have herase : (m.destroy old).sessions.get? id = m.sessions.get? id :=
            (Dict.get?_erase _ _ _).trans (if_neg hold)
          show (m.renew lifetime now old new).2.sessions.get? id = _
          cases ho : m.sessions.get? old with
          | none => rw [renew_of_none ho]
          | some s =>
              cases hl : s.isLive now with
              | false => rw [renew_of_ended ho hl, herase]
              | true =>
                  cases hd : now.add? lifetime with
                  | none => rw [renew_of_outside ho hl hd, herase]
                  | some deadline =>
                      rw [renew_of_live ho hl hd]
                      exact (Dict.get?_insert_of_ne _ _ hnew).trans herase

/-- What may happen to a store up to an instant without a write to a session:
    steps of whoever uses the store, at any time and whether they work or fail,
    and the dropping of sessions that have ended. -/
inductive Meanwhile (id : String) (last : Instant) : MemoryStore → MemoryStore → Prop
  | nothing (m : MemoryStore) : Meanwhile id last m m
  | event {m m₁ m₂ : MemoryStore} {lifetime : Lifetime} {now : Instant} {event : Event} :
      Meanwhile id last m m₁ → ¬ event.Writes id → Does lifetime now m₁ event m₂ →
      Meanwhile id last m m₂
  | cleanup {m m₁ : MemoryStore} {now : Instant} : Meanwhile id last m m₁ →
      last.before now = false → Meanwhile id last m (m₁.cleanup now).2

/-- A session that lives long enough is still there. -/
theorem Meanwhile.sessions_get? {s : Session} (h : Meanwhile id last m m')
    (hs : m.sessions.get? id = some s) (hlive : s.isLive last = true) :
    m'.sessions.get? id = some s := by
  induction h with
  | nothing => exact hs
  | event _ hw hd ih => exact (sessions_of_does hd hw).trans ih
  | cleanup _ hnow ih =>
      refine Dict.get?_filter_of_keep ih ?_
      rw [Session.isLive, Bool.not_eq_true'] at hlive ⊢
      exact Instant.not_before_trans hnow hlive

end MemoryStore

namespace Gate

variable {g : Gate} {config : Option Config} {cfg : Config} {p : Parameters} {now : Instant}
  {settings : Settings} {clients : List Client} {c c' : Context} {t : List Event}
  {s : ProfileSet} {r : Except Error Outcome}

/-! ## The first visit -/

/-- Fresh profiles that are remembered go last of all to a session that was issued. -/
theorem Remembers.of_fresh (h : Remembers settings s c t (.ok false) c')
    (hsave : settings.saveDirect = true) (hpresented : c.sessionIssued = false) :
    ∃ octets u, c'.request = c.request ∧ c'.session = some (sessionIdOf octets) ∧
      c'.sessionIssued = true ∧
      t = u ++ [.stored (.set (sessionIdOf octets) profilesKey s.toJson) (.ok ())] := by
  generalize hr : Except.ok false = r at h
  cases h with
  | noted hl hd => cases hsave.symm.trans hd
  | unmoved hl hd hm => cases hr
  | kept answer hl he =>
      cases answer with
      | error e => cases hr
      | ok done => cases hr
  | @moved t₁ t₂ id c₁ c₂ answer hl hd hm he =>
      cases answer with
      | error e => cases hr
      | ok done =>
          have hissued : ∃ octets, c₁ = c.issueSession (sessionIdOf octets) := by
            cases hm with
            | kept hi => cases hpresented.symm.trans hi
            | issued octets hi hs => exact ⟨octets, rfl⟩
            | moved octets before _ hi hs => exact ⟨octets, rfl⟩
          obtain ⟨octets, rfl⟩ := hissued
          cases he with
          | issued _ hnone => cases hnone
          | kept hs =>
              cases hs
              exact ⟨octets, t₁, rfl, rfl, rfl, rfl⟩

/-! ## A later visit -/

/-- Profiles that an early look-up brings are found, when no direct client knows
    anybody, and come to the authorizers. -/
theorem Decides.takes_up {id : String} {value : Json} (h : Decides g config p now c t r c')
    (hready : Ready g config p c cfg clients) (hclients : clients ≠ [])
    (hnoted : c.noted now = .ok .empty)
    (habsent : ∀ client ∈ clients, client.isIndirect = false → client.answer now c = .ok .absent)
    (hsave : cfg.settings.saveDirect = true) (hid : c.session = some id)
    (hanswer : ∀ u answer v, t = u ++ .stored (.get id profilesKey) answer :: v →
      (∀ event ∈ u, event.Idle) → answer = .ok (some value))
    (hv : ProfileSet.ofValue now value = .ok s) (hs : s.isEmpty = false) :
    ∃ v, t = asksMatchers cfg p c ++ ((directCalls now (wantsMany cfg p) c clients).map .called
        ++ (.stored (.get id profilesKey) (.ok (some value)) :: v)) ∧
      Concludes cfg p (c.withLoaded true) (.ok (.produced s)) v r c' := by
  obtain ⟨u, v, found, c₁, rfl, ha, hc⟩ := h.of_ready hready
  have hdirect : directAnswer now (wantsMany cfg p) c clients .empty = .ok (.profiles .empty) :=
    directAnswer_of_absent habsent
  cases ha with
  | nobody hnil => exact absurd hnil hclients
  | unreadable e hne hn => cases hnoted.symm.trans hn
  | earlier _ hne hn hs' =>
      cases hnoted.symm.trans hn
      cases hs'
  | directFailed e hne hn hs' hd => cases hdirect.symm.trans hd
  | directAction a hne hn hs' hd => cases hdirect.symm.trans hd
  | direct _ hne hn hs' hd hf =>
      cases hdirect.symm.trans hd
      cases hf
  | unasked hne hn hs' hd hf hi hnot => cases hsave.symm.trans hnot
  | session hne hn hs' hd hf hi hconsults =>
      obtain ⟨answer, rest, rfl⟩ := hconsults.exists_get hid
      have hcalls : ∀ event ∈ asksMatchers cfg p c
          ++ (directCalls now (wantsMany cfg p) c clients).map Event.called, event.Idle :=
        List.forall_mem_append.mpr ⟨idle_called _, idle_called _⟩
      obtain rfl : answer = .ok (some value) := by
        refine hanswer _ answer (rest ++ v) ?_ hcalls
        simp only [List.append_assoc, List.cons_append]
      obtain ⟨-, hrest, rfl, rfl⟩ := hconsults.of_read List.mem_cons_self hv hs
      cases hrest
      exact ⟨v, by simp only [List.append_assoc, List.cons_append, List.nil_append], hc⟩

end Gate

/-! ## Visits -/

theorem Plan.run_bind {α β : Type} (env : Surroundings) (p : Plan α) (f : α → Plan β) (w : World) :
    (p.bind f).run env w = (f (p.run env w).1).run env (p.run env w).2 := by
  induction p generalizing w with
  | done value => rfl
  | store step next ih =>
      rw [Plan.bind, Plan.run_store, Plan.run_store]
      exact ih _ _
  | random count next ih => exact ih _ _
  | note call next ih => exact ih _

/-- A visit: a request that comes to a gate at some time, in a world in which it
    is processed. -/
structure Visit where
  gate : Gate
  parameters : Parameters
  now : Instant
  handler : Handler
  request : Request
  env : Surroundings
  world : World

namespace Visit

variable (config : Config) (v : Visit)

/-- Processing the request. -/
def process : Plan Response :=
  (⟨v.gate, config, v.parameters⟩ : Middleware).process v.now v.handler v.request

/-- The response to the visit. -/
def response : Response := ((v.process config).run v.env v.world).1

/-- The world after the visit. -/
def after : World := ((v.process config).run v.env v.world).2

/-- The id of the request. -/
def requestId : String := requestIdOf (v.env.octets v.world.draws requestIdOctets)

/-- The context that is decided on. -/
def context : Context := .ofCookie v.request config.settings.cookie

/-- The decision of the visit. -/
def decision : Plan (Except Error Outcome × Context) :=
  v.gate.decide (some config) v.parameters v.now (v.context config)

/-- The world in which it is made: the id of the request was drawn. -/
def drawn : World := { v.world with draws := v.world.draws + 1 }

/-- What was decided. -/
def outcome : Except Error Outcome := ((v.decision config).run v.env v.drawn).1.1

/-- The context that the decision left. -/
def left : Context := ((v.decision config).run v.env v.drawn).1.2

/-- What happened in the decision. -/
def trace : List Event := (v.decision config).trace v.env v.drawn

/-- A visit is its decision, and the response to it. -/
theorem run_process :
    (v.process config).run v.env v.world
      = ((⟨v.gate, config, v.parameters⟩ : Middleware).conclude v.handler v.request v.requestId
          (v.left config) (v.outcome config), ((v.decision config).run v.env v.drawn).2) := by
  rw [process, Middleware.process_eq]
  exact Plan.run_bind v.env (v.decision config) _ v.drawn

theorem decides : v.gate.Decides (some config) v.parameters v.now (v.context config)
    (v.trace config) (v.outcome config) (v.left config) :=
  Gate.ends_decide (Plan.ends_trace v.env (v.decision config) v.drawn)

theorem replays : MemoryStore.Replays v.env.lifetime v.env.now v.world.store (v.trace config)
    (v.after config).store := by
  rw [after, run_process]
  exact Plan.replays_trace v.env (v.decision config) v.drawn

/-- A visit that takes up a session after others have used the store: the cookie
    comes with it, the session lives, nothing in a set is stale yet, and no direct
    client of those that take part knows the visitor. -/
structure Resumes (config : Config) (m : MemoryStore) (id : String) (deadline : Instant)
    (profiles : ProfileSet) (clients : List Client) (v : Visit) : Prop where
  undisturbed : m.Meanwhile id v.env.now v.world.store
  works : ∀ n step, v.env.fails n step = none
  alive : deadline.before v.env.now = false
  fresh : ∀ entry ∈ profiles.entries, entry.2.isExpired v.now = false
  carried : Http.Carries v.request.headers config.settings.cookie id
  ready : Gate.Ready v.gate (some config) v.parameters (v.context config) config clients
  asked : clients ≠ []
  absent : ∀ client ∈ clients, client.isIndirect = false →
    client.answer v.now (v.context config) = .ok .absent

variable {config : Config} {v : Visit}

/-- Who is let in on fresh profiles is given one cookie more, and the profiles are
    kept in the session that it names. -/
theorem keeps_of_fresh {grant : Grant} (hcheck : config.check = .ok ())
    (hsave : config.settings.saveDirect = true)
    (hgranted : v.outcome config = .ok (.granted grant))
    (hfresh : grant.loadedFromSession = false) :
    ∃ octets values deadline, grant.context.session = some (sessionIdOf octets) ∧
      (v.response config).headers.all "set-cookie"
        = (v.handler v.request (some ⟨grant.profiles, v.requestId⟩)).headers.all "set-cookie"
          ++ [Middleware.cookieText config.settings.cookie (sessionIdOf octets)
            v.request.isSecure] ∧
      v.env.now.add? v.env.lifetime = some deadline ∧
      (v.after config).store.sessions.get? (sessionIdOf octets)
        = some ⟨(values : Dict Json).insert profilesKey grant.profiles.toJson, deadline⟩ := by
  have hdecides := v.decides config
  have hreplays := v.replays config
  rw [hgranted] at hdecides
  obtain ⟨cfg, clients, u, w, source, hp, hm, -, hcontext, ht⟩ := hdecides.of_granted
  obtain ⟨registry, parameter, hparts, -⟩ := hp.ready.resolved
  cases hparts.config
  rw [hfresh] at hm
  obtain ⟨octets, x, hrequest, hid, hissued, rfl⟩ := hm.of_fresh hsave rfl
  -- the write of the profiles is the last thing that happens
  rw [ht] at hreplays
  simp only [← List.append_assoc] at hreplays
  obtain ⟨values, deadline, hadd, hkept⟩ := MemoryStore.sessions_of_last hreplays
  refine ⟨octets, values, deadline, hcontext ▸ hid, ?_, hadd, hkept⟩
  have hcookie : Middleware.withCookie config.settings (v.left config)
      (Middleware.respond v.handler v.request v.requestId (.granted grant))
      = (v.handler v.request (some ⟨grant.profiles, v.requestId⟩)).append "set-cookie"
        (Middleware.cookieText config.settings.cookie (sessionIdOf octets) v.request.isSecure) := by
    rw [Middleware.withCookie_of_issued (Config.settings_of_check hcheck) hissued hid, hrequest]
    rfl
  rw [response, run_process, hgranted]
  show ((Middleware.withCookie config.settings (v.left config)
      (Middleware.respond v.handler v.request v.requestId (.granted grant))).set "x-request-id"
        v.requestId).headers.all "set-cookie" = _
  rw [Response.all_set_of_ne _ _ (by decide), hcookie, Response.all_append_self _ _ rfl]

/-- What is kept of the session is found by a visit that takes it up. -/
theorem Resumes.answer_eq {m : MemoryStore} {octets : List UInt8} {values : Dict Json}
    {deadline : Instant} {profiles : ProfileSet} {clients : List Client}
    (h : v.Resumes config m (sessionIdOf octets) deadline profiles clients)
    (hkept : m.sessions.get? (sessionIdOf octets)
      = some ⟨values.insert profilesKey profiles.toJson, deadline⟩)
    {t u : List Event} {answer : Except Error (Option Json)}
    (ht : v.trace config = t ++ .stored (.get (sessionIdOf octets) profilesKey) answer :: u)
    (hidle : ∀ event ∈ t, event.Idle) : answer = .ok (some profiles.toJson) := by
  have hlive : (⟨values.insert profilesKey profiles.toJson, deadline⟩ : Session).isLive v.env.now
      = true := by
    rw [Session.isLive, h.alive]
    rfl
  have hread : v.world.store.get? v.env.now (sessionIdOf octets) profilesKey
      = some profiles.toJson :=
    MemoryStore.get?_eq_some.mpr
      ⟨_, h.undisturbed.sessions_get? hkept hlive, hlive, Dict.get?_insert_self _ _ _⟩
  obtain ⟨m', hanswer⟩ := Plan.exists_of_trace h.works
    (show _ ∈ v.trace config from ht ▸ List.mem_append_right _ List.mem_cons_self)
  have hreplays := v.replays config
  rw [ht, hanswer] at hreplays
  rw [hanswer]
  exact congrArg Except.ok ((MemoryStore.get?_of_replays hreplays hidle).symm.trans hread)

end Visit

/-- A login continues through its cookie.  Who is let in on profiles that direct
    clients built just then is given one cookie, and every later visit that brings
    it back while the session lives and the profiles hold, and on which no direct
    client knows the visitor, hands the authorizers the same profiles in the same
    order, as loaded from the session. -/
theorem login_continues {config : Config} {first : Visit} {grant : Grant}
    (hcheck : config.check = .ok ()) (hsave : config.settings.saveDirect = true)
    (hgranted : first.outcome config = .ok (.granted grant))
    (hfresh : grant.loadedFromSession = false) :
    ∃ id deadline, grant.context.session = some id ∧
      (first.response config).headers.all "set-cookie"
        = (first.handler first.request
            (some ⟨grant.profiles, first.requestId⟩)).headers.all "set-cookie"
          ++ [Middleware.cookieText config.settings.cookie id first.request.isSecure] ∧
      first.env.now.add? first.env.lifetime = some deadline ∧
      ∀ (later : Visit) (clients : List Client),
        later.Resumes config (first.after config).store id deadline grant.profiles clients →
        ∃ v, later.trace config = Gate.asksMatchers config later.parameters (later.context config)
            ++ ((Gate.directCalls later.now (Gate.wantsMany config later.parameters)
                (later.context config) clients).map .called
              ++ (.stored (.get id profilesKey) (.ok (some grant.profiles.toJson)) :: v)) ∧
          Gate.Concludes config later.parameters ((later.context config).withLoaded true)
            (.ok (.produced grant.profiles)) v (later.outcome config) (later.left config) ∧
          ∀ next, later.outcome config = .ok (.granted next) →
            next.profiles = grant.profiles ∧ next.loadedFromSession = true := by
  obtain ⟨octets, values, deadline, hid, hcookie, hadd, hkept⟩ :=
    Visit.keeps_of_fresh hcheck hsave hgranted hfresh
  refine ⟨_, deadline, hid, hcookie, hadd, fun later clients h => ?_⟩
  have hknown : grant.profiles.isEmpty = false := by
    have hdecides := first.decides config
    rw [hgranted] at hdecides
    obtain ⟨cfg, clients, u, w, source, hp, -⟩ := hdecides.of_granted
    exact hp.known
  have hsession : (later.context config).session = some (sessionIdOf octets) :=
    Http.cookie?_of_carries h.carried (sessionIdOf_ne_empty octets)
  obtain ⟨v, ht, hc⟩ := (later.decides config).takes_up h.ready h.asked rfl h.absent hsave hsession
    (fun t answer u ht hidle => h.answer_eq hkept ht hidle)
    (ProfileSet.ofValue_toJson h.fresh) hknown
  refine ⟨v, ht, hc, fun next hnext => ?_⟩
  rw [hnext] at hc
  obtain ⟨hprofiles, hloaded⟩ := hc.of_granted
  exact ⟨hprofiles, hloaded.trans (Context.saysLoaded_withLoaded _ true)⟩

/-! A visitor shows two passes, and comes back with nothing but the cookie among
    others, while the store serves somebody else in between. -/

/-- A client that knows visitors by what a header field says, up to an instant. -/
def passClient (name field : String) (last : Instant) : Client where
  name := name
  kind := .direct
  fetch _ c := .ok (.ofOption ((c.request.header? field).map .token))
  build _ credentials _ := .ok (match credentials with
    | .token id => .produced ((Profile.ofId id).withExpiry last)
    | _ => .absent)

/-- Two such clients, the profiles of which go to the session. -/
def passConfig : Config :=
  .ofClients [passClient "Z" "x-pass" (.mk 1740787199 1250000000), passClient "A" "x-seal" (.mk 1741046400 0)]
    { multiProfile := true, saveDirect := true }

/-- The visit with two passes. -/
def passVisit : Visit where
  gate := .ofSettings passConfig.settings
  parameters := default
  now := .mk 1740700800 0
  handler _ _ := .bare 200
  request := ⟨"GET", .root, [("x-pass", "jdoe"), ("x-seal", "4711"),
    ("x-forwarded-proto", "https")], []⟩
  env := .still (.mk 1740700800 0)
  world := .ofStore .empty

/-- The profiles of the two passes. -/
def passProfiles : ProfileSet :=
  (ProfileSet.single "Z" (((Profile.ofId "jdoe").withExpiry (.mk 1740787199 1250000000)).withClientName
    "Z")).insert "A" (((Profile.ofId "4711").withExpiry (.mk 1741046400 0)).withClientName "A")

/-- The id of the session. -/
def passId : String := sessionIdOf (List.replicate 32 0)

/-- The context that the first visit is granted on. -/
def passContext : Context :=
  (((passVisit.context passConfig).withLoaded false).issueSession passId).withProfiles passProfiles

/-- A store after somebody else wrote to it and ended sessions were dropped. -/
def servedOthers (m : MemoryStore) : MemoryStore :=
  ((m.apply MemoryStore.defaultLifetime (.mk 1740701000 0) (.set "other" "cart" .null)).2.cleanup
    (.mk 1740701100 0)).2

/-- The store between the visits. -/
def passStore : MemoryStore := servedOthers (passVisit.after passConfig).store

/-- The visit with the cookie among others. -/
def cookieVisit : Visit where
  gate := .ofSettings passConfig.settings
  parameters := default
  now := .mk 1740702000 0
  handler _ _ := .bare 200
  request := ⟨"GET", .root, [("cookie", "a=1"),
    ("cookie", "theme=dark;\tWARDEN_SESSION=" ++ passId ++ " ; WARDEN_SESSION=old")], []⟩
  env := .still (.mk 1740702000 0)
  world := .ofStore passStore

/-- A pair of the second field that bears the name of the session cookie. -/
def passPair : Http.CookiePair :=
  { Http.CookiePair.plain "WARDEN_SESSION" passId (by decide) rfl rfl with
    before := ['\t']
    before_pad := List.forall_mem_singleton.mpr rfl
    after := [' ']
    after_pad := List.forall_mem_singleton.mpr rfl }

/-- The other pair of that name, which comes too late. -/
def stalePair : Http.CookiePair :=
  { Http.CookiePair.plain "WARDEN_SESSION" "old" (by decide) rfl rfl with
    before := [' ']
    before_pad := List.forall_mem_singleton.mpr rfl }

/-- The visitor is let in on both profiles again, in the order in which they were built. -/
theorem login_continues_passes :
    (passVisit.response passConfig).headers.all "set-cookie"
        = ["WARDEN_SESSION=sess_AAAAAAAAAAAAAAAAAAAAAAAAAAAAAAAAAAAAAAAAAAA; "
          ++ "Path=/; HttpOnly; SameSite=Lax; Secure"] ∧
      ∃ next, cookieVisit.outcome passConfig = .ok (.granted next) ∧
        next.profiles = passProfiles ∧ next.loadedFromSession = true := by
  have hgranted : passVisit.outcome passConfig
      = .ok (.granted ⟨passContext, passProfiles, .empty, false⟩) := rfl
  have hcheck : passConfig.check = .ok () := rfl
  obtain ⟨id, deadline, hid, hcookie, hadd, hlater⟩ :=
    login_continues hcheck rfl hgranted rfl
  cases hid
  cases hadd
  have hcarried : Http.Carries cookieVisit.request.headers "WARDEN_SESSION" passId := by
    let first := Http.CookiePair.plain "a" "1" (by decide) rfl rfl
    let second := Http.CookiePair.plain "theme" "dark" (by decide) rfl rfl
    exact ⟨[[first], [second, passPair, stalePair]], [first, second], [stalePair], passPair,
      by decide +kernel, rfl, rfl, rfl, by decide⟩
  have hbetween : (passVisit.after passConfig).store.Meanwhile passId (.mk 1740702000 0) passStore := by
    refine .cleanup (.event (.nothing _) ?_ (.works _ (.set "other" "cart" .null))) rfl
    show ¬ "other" = passId
    decide
  have hresumes : cookieVisit.Resumes passConfig (passVisit.after passConfig).store passId
      (.mk 1740702600 0) passProfiles [passClient "Z" "x-pass" (.mk 1740787199 1250000000),
        passClient "A" "x-seal" (.mk 1741046400 0)] :=
    { undisturbed := hbetween
      works := fun _ _ => rfl
      alive := rfl
      fresh := by decide
      carried := hcarried
      ready := ⟨⟨_, _, ⟨rfl, rfl, rfl, rfl, rfl⟩, rfl⟩, rfl⟩
      asked := List.cons_ne_nil _ _
      absent := List.forall_mem_cons.mpr ⟨fun _ => rfl, List.forall_mem_singleton.mpr fun _ => rfl⟩ }
  obtain ⟨v, -, -, hnext⟩ := hlater cookieVisit _ hresumes
  have houtcome : cookieVisit.outcome passConfig = .ok (.granted
      ⟨((cookieVisit.context passConfig).withLoaded true).withProfiles passProfiles, passProfiles,
        .empty, true⟩) := rfl
  exact ⟨hcookie, _, houtcome, hnext _ houtcome⟩

end AccessGate
