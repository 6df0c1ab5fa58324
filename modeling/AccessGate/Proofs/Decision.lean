import AccessGate.Gate.Middleware
import AccessGate.Proofs.Course

/-! # The course of a decision

    `Decides` lists the ways in which a whole decision can go: it ends early,
    nobody is found out, an authorizer has an objection, or profiles pass and
    are remembered.  The events of each way are those of its stages in a row,
    so what holds of every decision is shown for a handful of short traces. -/

namespace AccessGate

/-- A configuration of clients and settings alone. -/
def Config.ofClients (clients : List Client) (settings : Settings)
    (checked : ClientRegistry.checkNames [] (clients.map Client.name) = .ok () := by rfl) : Config :=
  ⟨some ⟨clients, none, checked⟩, [], [], settings⟩

/-- The configuration with the client of visitors whom nobody knows. -/
def Config.anonymous (settings : Settings) : Config := .ofClients [Client.anonymous] settings

namespace Gate

/-! ## Remembering -/

/-- The ways in which profiles that passed are remembered. -/
inductive Remembers (settings : Settings) (profiles : ProfileSet) (c : Context) :
    List Event → Except Error Bool → Context → Prop
  /-- Only in the request. -/
  | noted : c.saysLoaded = false → settings.saveDirect = false →
      Remembers settings profiles c [] (.ok false) (c.withProfiles profiles)
  /-- The session could not be moved, and nothing is noted. -/
  | unmoved {t : List Event} {e : Error} {c₁ : Context} :
      c.saysLoaded = false → settings.saveDirect = true → Scopes.Renews c t (.error e) c₁ →
      Remembers settings profiles c t (.error e) c₁
  /-- Fresh profiles go to a session that was moved first. -/
  | moved {t₁ t₂ : List Event} {id : String} {c₁ c₂ : Context} (answer : Except Error Unit) :
      c.saysLoaded = false → settings.saveDirect = true → Scopes.Renews c t₁ (.ok ()) c₁ →
      Scopes.Ensures (c₁.withProfiles profiles) t₂ id c₂ →
      Remembers settings profiles c
        (t₁ ++ (t₂ ++ [.stored (.set id profilesKey profiles.toJson) answer]))
        (answer.map fun _ => false) c₂
  /-- Profiles of the session go back to it. -/
  | kept {t : List Event} {id : String} {c₁ : Context} (answer : Except Error Unit) :
      c.saysLoaded = true → Scopes.Ensures (c.withProfiles profiles) t id c₁ →
      Remembers settings profiles c
        (t ++ [.stored (.set id profilesKey profiles.toJson) answer])
        (answer.map fun _ => true) c₁

/-- Remembering goes by where the profiles came from, and then by the settings. -/
private theorem remember_apply (settings : Settings) (profiles : ProfileSet) (c : Context) :
    remember settings profiles c =
      if c.saysLoaded then
        (Scopes.save profiles true c).bind (Turn.andThen fun _ => pure true)
      else if settings.saveDirect then
        (Scopes.renewSession c).bind (Turn.andThen fun _ c₁ =>
          (Scopes.save profiles true c₁).bind (Turn.andThen fun _ => pure false))
      else .done (.ok false, c.withProfiles profiles) := by
  rw [remember, Turn.context_bind, Context.saysLoaded]
  cases c.loaded?.getD false with
  | true => exact Turn.bind_apply _ _ _
  | false =>
      cases settings.saveDirect with
      | false => rfl
      | true =>
          refine (Turn.bind_apply _ _ _).trans (congrArg (Plan.bind _ ∘ Turn.andThen) ?_)
          funext _ c₁
          exact Turn.bind_apply _ _ _

/-- Remembering goes in one of the listed ways. -/
theorem ends_remember {settings : Settings} {profiles : ProfileSet} {c c' : Context}
    {t : List Event} {r : Except Error Bool}
    (h : (remember settings profiles c).Ends t (r, c')) :
    Remembers settings profiles c t r c' := by
  rw [remember_apply] at h
  cases hl : c.saysLoaded with
  | true =>
      rw [hl, if_pos rfl, Scopes.save_apply, if_pos rfl] at h
      obtain ⟨u, id, answer, rfl, he, rfl⟩ := Scopes.ends_write h
      exact .kept answer hl he
  | false =>
      rw [hl, if_neg (by decide)] at h
      cases hd : settings.saveDirect with
      | false =>
          rw [hd, if_neg (by decide)] at h
          obtain ⟨rfl, h⟩ := h
          cases h
          exact .noted hl hd
      | true =>
          rw [hd, if_pos rfl] at h
          obtain ⟨t₁, ⟨r₁, c₁⟩, t₂, rfl, h₁, h₂⟩ := Plan.ends_bind.mp h
          have hr := Scopes.ends_renewSession h₁
          cases r₁ with
          | error e =>
              obtain ⟨rfl, h₂⟩ := h₂
              cases h₂
              rw [List.append_nil]
              exact .unmoved hl hd hr
          | ok done =>
              rw [Turn.andThen_ok, Scopes.save_apply, if_pos rfl] at h₂
              obtain ⟨u, id, answer, rfl, he, rfl⟩ := Scopes.ends_write h₂
              exact .moved answer hl hd hr he

/-! ## Decisions -/

/-- A gate that has all its parts. -/
structure Assembled (g : Gate) (config : Option Config) (cfg : Config)
    (registry : ClientRegistry) (parameter : String) : Prop where
  config : config = some cfg
  clients : cfg.clients = some registry
  parameter : g.clientParameter = some parameter
  authorizers : g.checksAuthorizers = true
  matchers : g.checksMatchers = true

/-- A gate that has all its parts and looks for the visitor of a request: the
    matchers agree, and the clients that take part are known. -/
structure Ready (g : Gate) (config : Option Config) (p : Parameters) (c : Context)
    (cfg : Config) (clients : List Client) : Prop where
  resolved : ∃ registry parameter, Assembled g config cfg registry parameter ∧
    registry.resolve parameter c.request p.clients = .ok clients
  matched : Matcher.answer cfg.matchers p.matchers c = .ok true

/-- Are several profiles wanted? -/
def wantsMany (cfg : Config) (p : Parameters) : Bool :=
  p.multiProfile.getD cfg.settings.multiProfile

/-- The matchers are asked. -/
def asksMatchers (cfg : Config) (p : Parameters) (c : Context) : List Event :=
  (Matcher.calls cfg.matchers p.matchers c).map .called

/-- The authorizers are asked. -/
def asksAuthorizers (cfg : Config) (p : Parameters) (profiles : ProfileSet) (c : Context) :
    List Event :=
  (Authorizer.calls cfg.authorizers p.authorizers profiles c).map .called

/-- What a verdict puts in the place of a grant. -/
def objection? : Verdict → Option Action
  | .allowed => none
  | .denied => some .forbidden
  | .action a => some a

/-- The ways in which a decision goes on when it is known who the visitor is, or
    that nobody is. -/
inductive Concludes (cfg : Config) (p : Parameters) (c : Context) :
    Except Error (Attempt ProfileSet) → List Event → Except Error Outcome → Context → Prop
  | failed (e : Error) : Concludes cfg p c (.error e) [] (.error e) c
  | answered (a : Action) : Concludes cfg p c (.ok (.action a)) [] (.ok (.action a)) c
  | unknown : Concludes cfg p c (.ok .absent) [] (.ok (.action .unauthorized)) c
  | unjudged {s : ProfileSet} (e : Error) :
      Authorizer.answer cfg.authorizers p.authorizers s c = .error e →
      Concludes cfg p c (.ok (.produced s)) (asksAuthorizers cfg p s c) (.error e) c
  | refused {s : ProfileSet} {verdict : Verdict} (a : Action) :
      Authorizer.answer cfg.authorizers p.authorizers s c = .ok verdict →
      objection? verdict = some a →
      Concludes cfg p c (.ok (.produced s)) (asksAuthorizers cfg p s c) (.ok (.action a)) c
  /-- The profiles pass and are remembered; only that can still fail. -/
  | passed {s : ProfileSet} {u : List Event} {r : Except Error Bool} {c' : Context} :
      Authorizer.answer cfg.authorizers p.authorizers s c = .ok .allowed →
      Remembers cfg.settings s c u r c' →
      Concludes cfg p c (.ok (.produced s)) (asksAuthorizers cfg p s c ++ u)
        (r.map fun loaded => .granted ⟨c', s, p.extra, loaded⟩) c'

/-- The ways in which a decision goes. -/
inductive Decides (g : Gate) (config : Option Config) (p : Parameters) (now : Instant)
    (c : Context) : List Event → Except Error Outcome → Context → Prop
  | missing (part : String) :
      (∀ cfg registry parameter, ¬ Assembled g config cfg registry parameter) →
      Decides g config p now c [] (.error (.config (.missing part))) c
  | unmatched {cfg : Config} {registry : ClientRegistry} {parameter : String} (e : Error) :
      Assembled g config cfg registry parameter →
      Matcher.answer cfg.matchers p.matchers c = .error e →
      Decides g config p now c (asksMatchers cfg p c) (.error e) c
  | bypassed {cfg : Config} {registry : ClientRegistry} {parameter : String} :
      Assembled g config cfg registry parameter →
      Matcher.answer cfg.matchers p.matchers c = .ok false →
      Decides g config p now c (asksMatchers cfg p c) (.ok .bypassed) c
  | unresolved {cfg : Config} {registry : ClientRegistry} {parameter : String} (e : Error) :
      Assembled g config cfg registry parameter →
      Matcher.answer cfg.matchers p.matchers c = .ok true →
      registry.resolve parameter c.request p.clients = .error e →
      Decides g config p now c (asksMatchers cfg p c) (.error e) c
  | ready {cfg : Config} {clients : List Client} {t u : List Event} {c₁ c' : Context}
      {found : Except Error (Attempt ProfileSet)} {r : Except Error Outcome} :
      Ready g config p c cfg clients →
      Authenticates now cfg.settings (wantsMany cfg p) clients c t found c₁ →
      Concludes cfg p c₁ found u r c' →
      Decides g config p now c (asksMatchers cfg p c ++ (t ++ u)) r c'

/-- A part that must be there is there, or the decision ends. -/
private theorem ends_require {α β : Type} {part : String} {value : Option α} {f : α → Turn β}
    {c c' : Context} {t : List Event} {r : Except Error β}
    (h : ((require part value >>= f) c).Ends t (r, c')) :
    (∃ a, value = some a ∧ (f a c).Ends t (r, c')) ∨
      value = none ∧ t = [] ∧ r = .error (.config (.missing part)) ∧ c' = c := by
  rw [Turn.bind_apply] at h
  cases value with
  | some a => exact .inl ⟨a, rfl, h⟩
  | none =>
      obtain ⟨rfl, h⟩ := h
      cases h
      exact .inr ⟨rfl, rfl, rfl, rfl⟩

/-- What a decision makes of profiles that were found. -/
private def afterAuthenticate (cfg : Config) (p : Parameters) : Attempt ProfileSet → Turn Outcome
  | .action a => return .action a
  | .absent => return .action .unauthorized
  | .produced profiles => do
      match ← Authorizer.check cfg.authorizers p.authorizers profiles with
      | .denied => return .action .forbidden
      | .action a => return .action a
      | .allowed =>
        let loaded ← remember cfg.settings profiles
        return .granted ⟨← Turn.context, profiles, p.extra, loaded⟩

/-- What comes after authentication goes in one of the listed ways. -/
private theorem ends_conclude {cfg : Config} {p : Parameters} {c c' : Context}
    {found : Except Error (Attempt ProfileSet)} {t : List Event} {r : Except Error Outcome}
    (h : (Turn.andThen (afterAuthenticate cfg p) (found, c)).Ends t (r, c')) :
    Concludes cfg p c found t r c' := by
  match found with
  | .error e =>
      obtain ⟨rfl, h⟩ := h
      cases h
      exact .failed e
  | .ok (.action a) =>
      obtain ⟨rfl, h⟩ := h
      cases h
      exact .answered a
  | .ok .absent =>
      obtain ⟨rfl, h⟩ := h
      cases h
      exact .unknown
  | .ok (.produced s) =>
      rw [Turn.andThen_ok, afterAuthenticate, Turn.bind_apply, Authorizer.check_apply,
        Plan.calling_bind, Plan.done_bind, Plan.ends_calling] at h
      obtain ⟨u, rfl, h⟩ := h
      cases hv : Authorizer.answer cfg.authorizers p.authorizers s c with
      | error e =>
          rw [hv] at h
          obtain ⟨rfl, h⟩ := h
          cases h
          rw [List.append_nil]
          exact .unjudged e hv
      | ok verdict =>
          rw [hv, Turn.andThen_ok] at h
          cases verdict with
          | denied =>
              obtain ⟨rfl, h⟩ := h
              cases h
              rw [List.append_nil]
              exact .refused .forbidden hv rfl
          | action a =>
              obtain ⟨rfl, h⟩ := h
              cases h
              rw [List.append_nil]
              exact .refused a hv rfl
          | allowed =>
              obtain ⟨t₁, ⟨r₁, c₁⟩, t₂, rfl, h₁, h₂⟩ := Plan.ends_bind.mp h
              have hm := ends_remember h₁
              cases r₁ with
              | error e =>
                  obtain ⟨rfl, h₂⟩ := h₂
                  cases h₂
                  rw [List.append_nil]
                  exact .passed hv hm
              | ok loaded =>
                  obtain ⟨rfl, h₂⟩ := h₂
                  cases h₂
                  rw [List.append_nil]
                  exact .passed hv hm

/-- A decision goes in one of the listed ways, whoever answers its steps. -/
theorem ends_decide {g : Gate} {config : Option Config} {p : Parameters} {now : Instant}
    {c c' : Context} {t : List Event} {r : Except Error Outcome}
    (h₀ : (g.decide config p now c).Ends t (r, c')) : Decides g config p now c t r c' := by
  unfold decide at h₀
  -- the parts are asked for one after the other, and the first that is missing ends it
  obtain ⟨cfg, hcfg, h₁⟩ | ⟨hnone, rfl, rfl, rfl⟩ := ends_require h₀
  case inr => exact .missing _ fun _ _ _ hp => by cases hnone.symm.trans hp.config
  obtain ⟨registry, hreg, h₂⟩ | ⟨hnone, rfl, rfl, rfl⟩ := ends_require h₁
  case inr =>
    refine .missing _ fun _ _ _ hp => ?_
    cases hcfg.symm.trans hp.config
    cases hnone.symm.trans hp.clients
  obtain ⟨parameter, hpar, h₃⟩ | ⟨hnone, rfl, rfl, rfl⟩ := ends_require h₂
  case inr => exact .missing _ fun _ _ _ hp => by cases hnone.symm.trans hp.parameter
  obtain ⟨u, hauth, h₄⟩ | ⟨hnone, rfl, rfl, rfl⟩ := ends_require h₃
  case inr =>
    refine .missing _ fun _ _ _ hp => ?_
    rw [hp.authorizers] at hnone
    cases hnone
  obtain ⟨v, hmat, h₅⟩ | ⟨hnone, rfl, rfl, rfl⟩ := ends_require h₄
  case inr =>
    refine .missing _ fun _ _ _ hp => ?_
    rw [hp.matchers] at hnone
    cases hnone
  have hparts : Assembled g config cfg registry parameter := by
    refine ⟨hcfg, hreg, hpar, ?_, ?_⟩
    · cases hg : g.checksAuthorizers with
      | true => rfl
      | false => rw [hg] at hauth; cases hauth
    · cases hg : g.checksMatchers with
      | true => rfl
      | false => rw [hg] at hmat; cases hmat
  -- with all parts there, the stages of the decision follow
  rw [Turn.bind_apply, Matcher.check_apply, Plan.calling_bind, Plan.done_bind,
    Plan.ends_calling] at h₅
  obtain ⟨t, rfl, h⟩ := h₅
  cases hm : Matcher.answer cfg.matchers p.matchers c with
  | error e =>
      rw [hm] at h
      obtain ⟨rfl, h⟩ := h
      cases h
      rw [List.append_nil]
      exact .unmatched e hparts hm
  | ok matched =>
      rw [hm, Turn.andThen_ok] at h
      cases matched with
      | false =>
          obtain ⟨rfl, h⟩ := h
          cases h
          rw [List.append_nil]
          exact .bypassed hparts hm
      | true =>
          rw [if_neg (by decide), Turn.context_bind, Turn.ofExcept_bind] at h
          cases hc : registry.resolve parameter c.request p.clients with
          | error e =>
              rw [hc] at h
              obtain ⟨rfl, h⟩ := h
              cases h
              rw [List.append_nil]
              exact .unresolved e hparts hm hc
          | ok clients =>
              have hr : Ready g config p c cfg clients := ⟨⟨registry, parameter, hparts, hc⟩, hm⟩
              rw [hc, Turn.andThen_ok, Turn.bind_apply] at h
              obtain ⟨t₁, ⟨r₁, c₁⟩, t₂, rfl, hfound, hend⟩ := Plan.ends_bind.mp h
              exact .ready hr (ends_authenticate hfound) (ends_conclude hend)

/-- Profiles are found and every authorizer allows them.  What happens on the way
    is `asksMatchers`, the events of the finding, and `asksAuthorizers`. -/
structure Passes (g : Gate) (config : Option Config) (p : Parameters) (now : Instant)
    (c : Context) (cfg : Config) (clients : List Client) (u : List Event) (s : ProfileSet)
    (source : Source) : Prop where
  ready : Ready g config p c cfg clients
  known : s.isEmpty = false
  found : Finds now (wantsMany cfg p) clients c u s source
  allowed : Authorizer.answer cfg.authorizers p.authorizers s
    (c.withLoaded (source.saysLoaded c)) = .ok .allowed

/-- Profiles were remembered, and where they came from is said truly. -/
private theorem Remembers.eq_saysLoaded {settings : Settings} {profiles : ProfileSet}
    {c c' : Context} {t : List Event} {loaded : Bool}
    (h : Remembers settings profiles c t (.ok loaded) c') : loaded = c.saysLoaded := by
  generalize hr : Except.ok loaded = r at h
  cases h with
  | noted hl hd =>
      cases hr
      exact hl.symm
  | unmoved hl hd hm => cases hr
  | moved answer hl hd hm he =>
      cases answer with
      | error e => cases hr
      | ok done =>
          cases hr
          exact hl.symm
  | kept answer hl he =>
      cases answer with
      | error e => cases hr
      | ok done =>
          cases hr
          exact hl.symm

/-- There is one configuration, one registry and one parameter to decide by. -/
theorem Assembled.unique {g : Gate} {config : Option Config} {cfg cfg' : Config}
    {registry registry' : ClientRegistry} {parameter parameter' : String}
    (h : Assembled g config cfg registry parameter)
    (h' : Assembled g config cfg' registry' parameter') :
    cfg = cfg' ∧ registry = registry' ∧ parameter = parameter' := by
  obtain rfl : cfg = cfg' := Option.some.inj (h.config.symm.trans h'.config)
  exact ⟨rfl, Option.some.inj (h.clients.symm.trans h'.clients),
    Option.some.inj (h.parameter.symm.trans h'.parameter)⟩

/-- And there is one list of clients that take part. -/
theorem Ready.unique {g : Gate} {config : Option Config} {p : Parameters} {c : Context}
    {cfg cfg' : Config} {clients clients' : List Client} (h : Ready g config p c cfg clients)
    (h' : Ready g config p c cfg' clients') : cfg = cfg' ∧ clients = clients' := by
  obtain ⟨registry, parameter, hparts, hres⟩ := h.resolved
  obtain ⟨registry', parameter', hparts', hres'⟩ := h'.resolved
  obtain ⟨rfl, rfl, rfl⟩ := hparts.unique hparts'
  exact ⟨rfl, Except.ok.inj (hres.symm.trans hres')⟩

/-- A gate that is ready finds out who the visitor is, and goes on from there. -/
theorem Decides.of_ready {g : Gate} {config : Option Config} {p : Parameters} {now : Instant}
    {c c' : Context} {t : List Event} {r : Except Error Outcome} {cfg : Config}
    {clients : List Client} (h : Decides g config p now c t r c')
    (hready : Ready g config p c cfg clients) :
    ∃ u v found c₁, t = asksMatchers cfg p c ++ (u ++ v) ∧
      Authenticates now cfg.settings (wantsMany cfg p) clients c u found c₁ ∧
      Concludes cfg p c₁ found v r c' := by
  obtain ⟨⟨registry, parameter, hparts, hclients⟩, hmatch⟩ := hready
  cases h with
  | missing part hnone => exact absurd hparts (hnone _ _ _)
  | unmatched e hparts' hm =>
      obtain ⟨rfl, rfl, rfl⟩ := hparts.unique hparts'
      cases hmatch.symm.trans hm
  | bypassed hparts' hm =>
      obtain ⟨rfl, rfl, rfl⟩ := hparts.unique hparts'
      cases hmatch.symm.trans hm
  | unresolved e hparts' hm hc =>
      obtain ⟨rfl, rfl, rfl⟩ := hparts.unique hparts'
      cases hclients.symm.trans hc
  | @ready cfg' clients' u v c₁ c' found r hready' ha hc =>
      obtain ⟨⟨registry', parameter', hparts', hclients'⟩, -⟩ := hready'
      obtain ⟨rfl, rfl, rfl⟩ := hparts.unique hparts'
      cases hclients.symm.trans hclients'
      exact ⟨u, v, found, c₁, rfl, ha, hc⟩

/-- Profiles that came to the authorizers are granted as they are. -/
theorem Concludes.of_granted {cfg : Config} {p : Parameters} {c c' : Context} {t : List Event}
    {s : ProfileSet} {grant : Grant}
    (h : Concludes cfg p c (.ok (.produced s)) t (.ok (.granted grant)) c') :
    grant.profiles = s ∧ grant.loadedFromSession = c.saysLoaded := by
  generalize hfound : Except.ok (Attempt.produced s) = found at h
  generalize hr : Except.ok (Outcome.granted grant) = r at h
  cases h with
  | failed e => cases hr
  | answered a => cases hr
  | unknown => cases hr
  | unjudged e hv => cases hr
  | refused a hv ho => cases hr
  | @passed s' u kept c' hv hm =>
      cases hfound
      cases kept with
      | error e => cases hr
      | ok loaded =>
          cases hr
          exact ⟨rfl, hm.eq_saysLoaded⟩

/-- A decision that granted went all the way. -/
theorem Decides.of_granted {g : Gate} {config : Option Config} {p : Parameters} {now : Instant}
    {c c' : Context} {t : List Event} {grant : Grant}
    (h : Decides g config p now c t (.ok (.granted grant)) c') :
    ∃ cfg clients u v source, Passes g config p now c cfg clients u grant.profiles source ∧
      Remembers cfg.settings grant.profiles (c.withLoaded (source.saysLoaded c)) v
        (.ok grant.loadedFromSession) c' ∧
      grant.loadedFromSession = source.saysLoaded c ∧ grant.context = c' ∧
      t = asksMatchers cfg p c ++ (u ++ (asksAuthorizers cfg p grant.profiles
        (c.withLoaded (source.saysLoaded c)) ++ v)) := by
  generalize hr : Except.ok (Outcome.granted grant) = r at h
  cases h with
  | missing part hnone => cases hr
  | unmatched e hparts hm => cases hr
  | bypassed hparts hm => cases hr
  | unresolved e hparts hm hc => cases hr
  | ready hready ha hc =>
      cases hc with
      | failed e => cases hr
      | answered a => cases hr
      | unknown => cases hr
      | unjudged e hv => cases hr
      | refused a hv ho => cases hr
      | @passed s v r c' hv hm =>
          cases r with
          | error e => cases hr
          | ok loaded =>
              cases hr
              -- the only way to a grant: profiles were found, and they were remembered
              obtain ⟨hne, source, rfl, hf⟩ := ha.finds
              have hl : loaded = source.saysLoaded c := by
                rw [hm.eq_saysLoaded, Context.saysLoaded_withLoaded]
              exact ⟨_, _, _, v, source, ⟨hready, hne, hf, hv⟩, hm, hl, rfl, rfl⟩

/-- Profiles that pass are remembered. -/
theorem Decides.of_passes {g : Gate} {config : Option Config} {p : Parameters} {now : Instant}
    {c c' : Context} {t u : List Event} {r : Except Error Outcome} {cfg : Config}
    {clients : List Client} {s : ProfileSet} {source : Source} (h : Decides g config p now c t r c')
    (hp : Passes g config p now c cfg clients u s source) (hsource : source ≠ .session) :
    ∃ w kept, Remembers cfg.settings s (c.withLoaded (source.saysLoaded c)) w kept c' ∧
      r = kept.map (fun loaded => .granted ⟨c', s, p.extra, loaded⟩) ∧
      t = asksMatchers cfg p c
        ++ (u ++ (asksAuthorizers cfg p s (c.withLoaded (source.saysLoaded c)) ++ w)) := by
  obtain ⟨u', v, found, c₁, rfl, ha, hc⟩ := h.of_ready hp.ready
  obtain ⟨rfl, rfl, rfl⟩ := ha.of_finds hp.found hp.known hsource
  have hallowed := hp.allowed
  generalize hfound : Except.ok (Attempt.produced s) = found at hc
  cases hc with
  | failed e => cases hfound
  | answered a => cases hfound
  | unknown => cases hfound
  | unjudged e hv =>
      cases hfound
      cases hallowed.symm.trans hv
  | refused a hv ho =>
      cases hfound
      cases hallowed.symm.trans hv
      cases ho
  | @passed s' w kept c' hv hm =>
      cases hfound
      exact ⟨w, kept, hm, rfl, rfl⟩

end Gate

/-! ## Requests -/

namespace Middleware

/-- The response to the result of a decision. -/
def conclude (m : Middleware) (handler : Handler) (request : Request) (requestId : String)
    (c : Context) : Except Error Outcome → Response
  | .error _ => .bare 500
  | .ok outcome =>
      (withCookie m.config.settings c (respond handler request requestId outcome)).set
        "x-request-id" requestId

/-- Process a request, whichever way it is decided on. -/
def processBy (m : Middleware) (decision : Turn Outcome) (handler : Handler)
    (request : Request) : Plan Response := do
  let requestId := requestIdOf (← Plan.random requestIdOctets .done)
  let (result, context) ← decision (Context.ofCookie request m.config.settings.cookie)
  return m.conclude handler request requestId context result

/-- A request is processed by the decision of the gate. -/
theorem process_eq (m : Middleware) (now : Instant) (handler : Handler) (request : Request) :
    m.process now handler request
      = m.processBy (m.gate.decide (some m.config) m.parameters now) handler request := by
  let fresh := Context.ofCookie request m.config.settings.cookie
  refine congrArg (Plan.random requestIdOctets) (funext fun octets =>
    congrArg (Plan.bind (m.gate.decide (some m.config) m.parameters now fresh))
      (funext fun ended => ?_))
  obtain ⟨r, c'⟩ := ended
  cases r with
  | error e => rfl
  | ok outcome => rfl

/-- Processing a request is drawing its id, then one decision on a fresh context. -/
theorem ends_processBy {m : Middleware} {decision : Turn Outcome} {handler : Handler}
    {request : Request} {t : List Event} {response : Response}
    (h : (m.processBy decision handler request).Ends t response) :
    ∃ octets u r c', t = .drawn requestIdOctets octets :: u ∧
      (decision (Context.ofCookie request m.config.settings.cookie)).Ends u (r, c') ∧
      response = m.conclude handler request (requestIdOf octets) c' r := by
  obtain ⟨octets, rest, rfl, h⟩ := h
  let fresh := Context.ofCookie request m.config.settings.cookie
  obtain ⟨u, ⟨r, c'⟩, v, rfl, hd, rfl, hr⟩ := (Plan.ends_bind (p := decision fresh)).mp h
  rw [List.append_nil]
  exact ⟨octets, u, r, c', rfl, hd, hr⟩

/-- Processing draws an id for the request, decides, and answers by what was decided. -/
theorem ends_process {m : Middleware} {now : Instant} {handler : Handler} {request : Request}
    {t : List Event} {response : Response}
    (h : (m.process now handler request).Ends t response) :
    ∃ octets u r c', t = .drawn requestIdOctets octets :: u ∧
      m.gate.Decides (some m.config) m.parameters now
        (Context.ofCookie request m.config.settings.cookie) u r c' ∧
      response = m.conclude handler request (requestIdOf octets) c' r := by
  rw [process_eq] at h
  obtain ⟨octets, u, r, c', ht, hd, hr⟩ := ends_processBy h
  exact ⟨octets, u, r, c', ht, Gate.ends_decide hd, hr⟩

end Middleware

end AccessGate
