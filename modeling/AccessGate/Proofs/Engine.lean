import AccessGate.Proofs.Issue

/-! # Engines — decisions with parts of the host's own

    A gate finds the clients of a decision and asks its matchers and authorizers in
    one way, or it lacks the part.  A host may put a part of its own in the place of
    each.  Such a part is shown the context and cannot change it: it makes calls,
    and comes to an answer or to an error.

    `decide_engine` says that a gate is one of these engines.  `tracks_decide` says
    what all of them leave of a context: the request as it was, and a session id
    that is the old one or one that was issued on the way. -/

namespace AccessGate

variable {α β : Type}

/-- An inspection of a context: the calls that are made, and what it comes to.  What a
    part of the host does elsewhere shows only in its answer. -/
structure Inspection (α : Type) where
  calls : Context → List Call
  answer : Context → Except Error α

/-- Inspect the context and leave it as it is. -/
def Inspection.turn (part : Inspection α) : Turn α :=
  fun c => Plan.calling (part.calls c) (.done (part.answer c, c))

/-- The parts of a decision that the host may replace.  Each of them may be missing,
    and then no decision can be made. -/
structure Engine where
  /-- The clients that take part, of those registered. -/
  finder : Option (ClientRegistry → Option String → Inspection (List Client))
  authorizationChecker :
    Option (RuleRegistry Authorizer → Option String → ProfileSet → Inspection Verdict)
  matchingChecker : Option (RuleRegistry Matcher → Option String → Inspection Bool)

/-- Decide on a request with the parts of an engine. -/
def Engine.decide (e : Engine) (config : Option Config) (p : Parameters) (now : Instant) :
    Turn Outcome := do
  let config ← Gate.require "config" config
  let clients ← Gate.require "clients" config.clients
  let find ← Gate.require "clientFinder" e.finder
  let judge ← Gate.require "authorizationChecker" e.authorizationChecker
  let concerns ← Gate.require "matchingChecker" e.matchingChecker
  if !(← (concerns config.matchers p.matchers).turn) then return .bypassed
  let multi := p.multiProfile.getD config.settings.multiProfile
  let current ← (find clients p.clients).turn
  match ← Gate.authenticate now config.settings multi current with
  | .action a => return .action a
  | .absent => return .action .unauthorized
  | .produced profiles =>
    match ← (judge config.authorizers p.authorizers profiles).turn with
    | .denied => return .action .forbidden
    | .action a => return .action a
    | .allowed =>
      let loaded ← Gate.remember config.settings profiles
      return .granted ⟨← Turn.context, profiles, p.extra, loaded⟩

/-! ## The engine of a gate -/

namespace Gate

/-- The parts that a gate has. -/
def engine (g : Gate) : Engine where
  finder := g.clientParameter.map fun parameter registry list =>
    ⟨fun _ => [], fun c => registry.resolve parameter c.request list⟩
  authorizationChecker :=
    if g.checksAuthorizers then
      some fun registry list profiles =>
        ⟨Authorizer.calls registry list profiles, Authorizer.answer registry list profiles⟩
    else none
  matchingChecker :=
    if g.checksMatchers then
      some fun registry list => ⟨Matcher.calls registry list, Matcher.answer registry list⟩
    else none

/-- Asking the matchers is an inspection: its calls and its answer hang on the context alone. -/
theorem matchers_turn (registry : RuleRegistry Matcher) (list : Option String) :
    Matcher.check registry list
      = Inspection.turn ⟨Matcher.calls registry list, Matcher.answer registry list⟩ :=
  funext (Matcher.check_apply registry list)

/-- Asking the authorizers is one as well. -/
theorem authorizers_turn (registry : RuleRegistry Authorizer) (list : Option String)
    (profiles : ProfileSet) :
    Authorizer.check registry list profiles
      = Inspection.turn ⟨Authorizer.calls registry list profiles,
          Authorizer.answer registry list profiles⟩ :=
  funext (Authorizer.check_apply registry list profiles)

theorem require_some {part : String} (a : α) (f : α → Turn β) :
    require part (some a) >>= f = f a := rfl

/-- A gate decides as the engine of its parts does. -/
theorem decide_engine (g : Gate) (config : Option Config) (p : Parameters) (now : Instant) :
    g.engine.decide config p now = g.decide config p now := by
  obtain ⟨parameter, checksAuthorizers, checksMatchers⟩ := g
  cases config with
  | none => rfl
  | some cfg =>
      rw [Engine.decide, Gate.decide, require_some, require_some]
      cases cfg.clients with
      | none => rfl
      | some registry =>
          cases parameter with
          | none => rfl
          | some parameter =>
              cases checksAuthorizers with
              | false => rfl
              | true =>
                  cases checksMatchers with
                  | false => rfl
                  | true =>
                      simp only [matchers_turn, authorizers_turn]
                      rfl

end Gate

/-! ## The request of a context

    No part of a decision touches the request. -/

namespace Scopes

variable {c c' : Context} {t : List Event}

/-- A session that is ensured leaves the request as it is. -/
theorem Ensures.request_eq {id : String} (h : Ensures c t id c') : c'.request = c.request := by
  cases h with
  | kept hs => rfl
  | issued octets hs => rfl

/-- So does one that is renewed. -/
theorem Renews.request_eq {r : Except Error Unit} (h : Renews c t r c') :
    c'.request = c.request := by
  cases h with
  | kept hi => rfl
  | issued octets hi hs => rfl
  | moved octets before answer hi hs => rfl

end Scopes

namespace Gate

variable {now : Instant} {settings : Settings} {multi : Bool} {clients : List Client}
  {c c' : Context} {t : List Event}

/-- A redirect leaves the request as it is. -/
theorem Redirects.request_eq {client : Client} {r : Except Error (Attempt ProfileSet)}
    (h : Redirects settings client c t r c') : c'.request = c.request := by
  cases h with
  | failed e ha => rfl
  | answered a ha hl => rfl
  | toldOff a ha hl ht => rfl
  | forgotten a ha hl ht hk => rfl
  | remembered a answer ha hl ht hk he => exact he.request_eq

/-- However a visitor is authenticated, the request stays as it is. -/
theorem Authenticates.request_eq {r : Except Error (Attempt ProfileSet)}
    (h : Authenticates now settings multi clients c t r c') : c'.request = c.request := by
  cases h with
  | nobody hnil => rfl
  | unreadable e hne hn => rfl
  | earlier _ hne hn hs => rfl
  | directFailed e hne hn hs hd => rfl
  | directAction a hne hn hs hd => rfl
  | direct _ hne hn hs hd hf => rfl
  | unasked hne hn hs hd hf hi hsave => rfl
  | session hne hn hs hd hf hi hc =>
      cases hc with
      | failed e ha => rfl
      | known _ ha hk => rfl
      | unknown _ ha hk hnone => rfl
      | sent _ client ha hk hcl hr => exact hr.request_eq

/-- However profiles are remembered, the request stays as it is. -/
theorem Remembers.request_eq {s : ProfileSet} {r : Except Error Bool}
    (h : Remembers settings s c t r c') : c'.request = c.request := by
  cases h with
  | noted hl hd => rfl
  | unmoved hl hd hm => exact hm.request_eq
  | moved answer hl hd hm he => exact he.request_eq.trans hm.request_eq
  | kept answer hl he => exact he.request_eq

end Gate

/-! ## What every engine leaves of a context -/

/-- On every path of a turn the request stays as it is, and the session id changes
    only to one that the path issues. -/
structure Turn.Tracks (x : Turn α) : Prop where
  of_ends {c : Context} {t : List Event} {r : Except Error α} {c' : Context} :
    (x c).Ends t (r, c') → c.Follows t c' ∧ c'.request = c.request

namespace Turn

/-- A custom part leaves the context as it is. -/
theorem tracks_turn (part : Inspection α) : part.turn.Tracks := by
  refine ⟨fun {c t r c'} h => ?_⟩
  obtain ⟨rest, rfl, rfl, hr⟩ := Plan.ends_calling.mp h
  cases hr
  rw [List.append_nil]
  exact ⟨c.follows_called _, rfl⟩

theorem tracks_pure (a : α) : (pure a : Turn α).Tracks :=
  tracks_turn ⟨fun _ => [], fun _ => .ok a⟩

theorem tracks_fail (e : Error) : (fail e : Turn α).Tracks :=
  tracks_turn ⟨fun _ => [], fun _ => .error e⟩

theorem tracks_context : context.Tracks := tracks_turn ⟨fun _ => [], .ok⟩

/-- Of turns in a row it is enough to look at each. -/
theorem Tracks.bind {x : Turn α} {f : α → Turn β} (hx : x.Tracks) (hf : ∀ a, (f a).Tracks) :
    (x >>= f).Tracks := by
  refine ⟨fun {c t r c'} h => ?_⟩
  rw [bind_apply] at h
  obtain ⟨t₁, ⟨r₁, c₁⟩, t₂, rfl, h₁, h₂⟩ := Plan.ends_bind.mp h
  obtain ⟨hfollows, hrequest⟩ := hx.of_ends h₁
  cases r₁ with
  | error e =>
      obtain ⟨rfl, h₂⟩ := h₂
      cases h₂
      rw [List.append_nil]
      exact ⟨hfollows, hrequest⟩
  | ok a =>
      obtain ⟨hfollows', hrequest'⟩ := (hf a).of_ends h₂
      exact ⟨hfollows.trans hfollows', hrequest'.trans hrequest⟩

/-- A part that is missing ends a decision, and leaves the context as it is. -/
theorem tracks_require (part : String) (value : Option α) : (Gate.require part value).Tracks := by
  cases value with
  | none => exact tracks_fail _
  | some a => exact tracks_pure a

/-- Authentication takes up no session but one that it issues. -/
theorem tracks_authenticate (now : Instant) (settings : Settings) (multi : Bool)
    (clients : List Client) : (Gate.authenticate now settings multi clients).Tracks :=
  ⟨fun h => ⟨(Gate.ends_authenticate h).follows, (Gate.ends_authenticate h).request_eq⟩⟩

/-- Nor does remembering. -/
theorem tracks_remember (settings : Settings) (profiles : ProfileSet) :
    (Gate.remember settings profiles).Tracks :=
  ⟨fun h => ⟨(Gate.ends_remember h).follows, (Gate.ends_remember h).request_eq⟩⟩

end Turn

/-- Whatever the parts of an engine answer, a decision leaves the request as it is, and
    the session id as it was or as one that it issued. -/
theorem Engine.tracks_decide (e : Engine) (config : Option Config) (p : Parameters)
    (now : Instant) : (e.decide config p now).Tracks := by
  refine (Turn.tracks_require _ _).bind fun cfg => (Turn.tracks_require _ _).bind fun clients => ?_
  refine (Turn.tracks_require _ _).bind fun find => (Turn.tracks_require _ _).bind fun judge => ?_
  refine (Turn.tracks_require _ _).bind fun concerns => (Turn.tracks_turn _).bind fun matched => ?_
  cases matched with
  | false => exact Turn.tracks_pure _
  | true =>
      refine (Turn.tracks_turn _).bind fun current => ?_
      refine (Turn.tracks_authenticate _ _ _ _).bind fun found => ?_
      cases found with
      | absent => exact Turn.tracks_pure _
      | action a => exact Turn.tracks_pure _
      | produced profiles =>
          refine (Turn.tracks_turn _).bind fun verdict => ?_
          cases verdict with
          | denied => exact Turn.tracks_pure _
          | action a => exact Turn.tracks_pure _
          | allowed =>
              refine (Turn.tracks_remember _ _).bind fun loaded => ?_
              exact Turn.tracks_context.bind fun c => Turn.tracks_pure _

/-! ## Requests -/

namespace Middleware

/-- Process a request with an engine in the place of the gate. -/
def processWith (m : Middleware) (e : Engine) (now : Instant) (handler : Handler)
    (request : Request) : Plan Response :=
  m.processBy (e.decide (some m.config) m.parameters now) handler request

/-- A gate processes requests as the engine of its parts does. -/
theorem processWith_engine (m : Middleware) (now : Instant) (handler : Handler)
    (request : Request) :
    m.processWith m.gate.engine now handler request = m.process now handler request := by
  rw [processWith, Gate.decide_engine, process_eq]

end Middleware

end AccessGate
