import AccessGate.Proofs.Events

/-! # Who writes the session, and what

    A decision over a store that works changes what can be read in three cases.  A
    visitor who is sent away has the URL to come back to kept, profiles of the
    session are written back to it, and fresh profiles go to a session that was
    moved to a fresh id.  `Amounts` finds these cases in the traces of decisions,
    and `decide_framed` says what can be read after each of them: it compares every
    value under every id with what could be read before. -/

namespace AccessGate

/-! ## Stores that work -/

/-- In a run over a store that works every answer is what a store in memory gives. -/
theorem Plan.exists_of_trace {α : Type} {env : Surroundings}
    (hworks : ∀ n step, env.fails n step = none) {p : Plan α} {w : World} {step : StoreStep}
    {answer : Except Error step.Answer} (h : .stored step answer ∈ p.trace env w) :
    ∃ m : MemoryStore, answer = (m.apply env.lifetime env.now step).1 := by
  induction p generalizing w with
  | done value => cases h
  | store asked next ih =>
      rcases List.mem_cons.mp h with heq | h
      · obtain ⟨rfl, heq⟩ := Event.stored.inj heq
        refine ⟨w.store, (eq_of_heq heq).trans ?_⟩
        rw [Surroundings.answer, hworks]
      · exact ih _ h
  | random count next ih =>
      rcases List.mem_cons.mp h with heq | h
      · cases heq
      · exact ih _ h
  | note call next ih =>
      rcases List.mem_cons.mp h with heq | h
      · cases heq
      · exact ih h

/-- In a run over a store that works no step fails but for lack of calendar. -/
theorem Plan.eq_calendar_of_trace {α : Type} {env : Surroundings}
    (hworks : ∀ n step, env.fails n step = none) {p : Plan α} {w : World} {step : StoreStep}
    {e : Error} (h : .stored step (.error e) ∈ p.trace env w) : e = .calendar := by
  obtain ⟨m, hm⟩ := exists_of_trace hworks h
  exact MemoryStore.apply_error hm.symm

namespace MemoryStore

variable {m m' : MemoryStore} {lifetime : Lifetime} {now : Instant} {u v : List Event}

/-- What is kept after a trace that ends with a write. -/
theorem sessions_of_last {t : List Event} {id key : String} {value : Json}
    (h : Replays lifetime now m (t ++ [.stored (.set id key value) (.ok ())]) m') :
    ∃ values deadline, now.add? lifetime = some deadline ∧
      m'.sessions.get? id = some ⟨(values : Dict Json).insert key value, deadline⟩ := by
  obtain ⟨m₁, -, hwrite⟩ := replays_append.mp h
  obtain ⟨m₂, hd, hrest⟩ := replays_cons.mp hwrite
  cases replays_nil.mp hrest
  obtain ⟨deadline, hadd, hget⟩ := sessions_set? (does_set.mp hd) id
  exact ⟨_, deadline, hadd, hget.trans (if_pos rfl)⟩

/-- What can be read after one write, when nothing else happened. -/
theorem get?_of_write {id key : String} {value : Json}
    (h : Replays lifetime now m (u ++ [.stored (.set id key value) (.ok ())]) m')
    (hu : ∀ event ∈ u, event.Idle) (hlife : 0 ≤ lifetime.nanos) (other k : String) :
    m'.get? now other k = if other = id ∧ k = key then some value else m.get? now other k := by
  obtain ⟨m₁, hbefore, hwrite⟩ := replays_append.mp h
  rw [eq_of_replays_idle hbefore hu] at hwrite
  obtain ⟨m₂, hd, hrest⟩ := replays_cons.mp hwrite
  cases replays_nil.mp hrest
  obtain ⟨deadline, hadd, hget⟩ := get?_set? (does_set.mp hd)
  rw [hget, Instant.not_before_of_add hadd hlife]
  by_cases ho : other = id
  · subst ho
    by_cases hk : k = key
    · rw [if_pos rfl, if_neg (by decide), if_pos hk, if_pos ⟨rfl, hk⟩]
    · rw [if_pos rfl, if_neg (by decide), if_neg hk, if_neg fun h => hk h.2]
  · rw [if_neg ho, if_neg fun h => ho h.1]

/-- What can be read after a session was moved to a fresh id and written to. -/
theorem get?_of_move {old new key : String} {value : Json}
    (h : Replays lifetime now m (u ++ [.stored (.renew old new) (.ok ()),
      .stored (.set new key value) (.ok ())]) m')
    (hu : ∀ event ∈ u, event.Idle) (hfresh : m.sessions.get? new = none)
    (hlife : 0 ≤ lifetime.nanos) (other k : String) :
    m'.get? now other k
      = if other = new then (if k = key then some value else m.get? now old k)
        else if other = old then none else m.get? now other k := by
  obtain ⟨m₁, hbefore, hrest⟩ := replays_append.mp h
  rw [eq_of_replays_idle hbefore hu] at hrest
  obtain ⟨m₂, hd, hwrite⟩ := replays_cons.mp hrest
  rw [get?_of_write (u := []) hwrite (List.forall_mem_nil _) hlife]
  rcases does_stored.mp hd with ⟨hok, rfl⟩ | ⟨-, e, he⟩
  · have hmoved : ∀ other k, _ = _ := get?_renew_fresh hok.symm hfresh hlife
    rw [show (m.apply lifetime now (.renew old new)).2 = (m.renew lifetime now old new).2 from rfl,
      hmoved]
    by_cases ho : other = new
    · subst ho
      by_cases hk : k = key
      · rw [if_pos ⟨rfl, hk⟩, if_pos rfl, if_pos hk]
      · rw [if_neg fun h => hk h.2, if_pos rfl, if_pos rfl, if_neg hk]
    · rw [if_neg fun h => ho h.1, if_neg ho, if_neg ho]
  · cases he

end MemoryStore

namespace Gate

variable {g : Gate} {config : Option Config} {p : Parameters} {cfg : Config} {now : Instant}
  {settings : Settings} {multi : Bool} {clients : List Client} {client : Client}
  {c c₁ c' : Context} {t u v : List Event} {s : ProfileSet} {r : Except Error Outcome}
  {found : Except Error (Attempt ProfileSet)}

/-! ## Visitors who are sent away -/

/-- The first indirect client sends the visitor of a request away, who is neither
    a script to be told off nor came with a request that is not to be repeated. -/
inductive SentAway (g : Gate) (config : Option Config) (p : Parameters) (c : Context)
    (t : List Event) (r : Except Error Outcome) : Prop
  | intro {cfg : Config} {clients : List Client} {client : Client} {a : Action} :
      Ready g config p c cfg clients → clients.find? Client.isIndirect = some client →
      .called (.redirect client.name) ∈ t → client.redirect (c.withLoaded true) = .ok a →
      a.location?.isSome = true → r = .ok (.action a) →
      tellsOff cfg.settings c.request = false → keepsUrl cfg.settings c.request = true →
      SentAway g config p c t r

/-- What happens when a visitor is sent away: the session remembers where to come back to. -/
inductive Sends (settings : Settings) (client : Client) (c : Context) :
    List Event → Action → Context → Prop
  | intro {u : List Event} {id : String} {c' : Context} (a : Action) :
      client.redirect c = .ok a → a.location?.isSome = true →
      tellsOff settings c.request = false → keepsUrl settings c.request = true →
      Scopes.Ensures c u id c' →
      Sends settings client c (.called (.redirect client.name)
        :: (u ++ [.stored (.set id requestedUrlKey (.str c.request.url)) (.ok ())])) a c'

/-- No visitor is sent away in a way that is remembered. -/
def Stays (settings : Settings) (clients : List Client) (c : Context) (t : List Event)
    (found : Except Error (Attempt ProfileSet)) : Prop :=
  ∀ client a, clients.find? Client.isIndirect = some client →
    .called (.redirect client.name) ∈ t → found = .ok (.action a) → a.location?.isSome = true →
    tellsOff settings c.request = false → keepsUrl settings c.request = false

private theorem Redirects.sends_or_stays
    (h : Redirects settings client c t found c')
    (hworks : ∀ e, StoreFails e t → e = .calendar) (hfound : found ≠ .error .calendar) :
    (∃ a, found = .ok (.action a) ∧ Sends settings client c t a c') ∨
      (∀ event ∈ t, event.Idle) ∧ c' = c ∧
        ∀ a, found = .ok (.action a) → a.location?.isSome = true →
          tellsOff settings c.request = false → keepsUrl settings c.request = false := by
  have hasked : ∀ event ∈ [Event.called (.redirect client.name)], event.Idle :=
    List.forall_mem_singleton.mpr trivial
  cases h with
  | failed e ha => exact .inr ⟨hasked, rfl, fun a heq => by cases heq⟩
  | answered a ha hl =>
      refine .inr ⟨hasked, rfl, ?_⟩
      rintro _ ⟨⟩ hsome
      rw [Option.isNone_iff_eq_none] at hl
      rw [hl] at hsome
      cases hsome
  | toldOff a ha hl ht =>
      refine .inr ⟨hasked, rfl, fun _ _ _ hnot => ?_⟩
      cases ht.symm.trans hnot
  | forgotten a ha hl ht hk => exact .inr ⟨hasked, rfl, fun _ _ _ _ => hk⟩
  | remembered a answer ha hl ht hk he =>
      cases answer with
      | error e =>
          have hcal := hworks e ⟨_, List.mem_cons_of_mem _
            (List.mem_append_right _ List.mem_cons_self)⟩
          exact absurd (congrArg Except.error hcal) hfound
      | ok done =>
          exact .inl ⟨a, rfl, .intro a ha (Option.isNone_eq_false_iff.mp hl) ht hk he⟩

/-- Until it is known who the visitor is, the store changes only when they are sent away. -/
private theorem Authenticates.sends_or_stays
    (h : Authenticates now settings multi clients c t found c')
    (hworks : ∀ e, StoreFails e t → e = .calendar) (hfound : found ≠ .error .calendar) :
    (∃ client a u v, clients.find? Client.isIndirect = some client ∧ found = .ok (.action a) ∧
        t = u ++ v ∧ (∀ event ∈ u, event.Idle) ∧
        Sends settings client (c.withLoaded true) v a c') ∨
      (∀ event ∈ t, event.Idle) ∧ c'.session = c.session ∧ c'.sessionIssued = c.sessionIssued ∧
        Stays settings clients c t found := by
  -- an event of the search that is no call of the first indirect client
  have hlooks : (∀ event ∈ t, Looking event) → Stays settings clients c t found := by
    intro hlook client a _ hcall
    cases hlook _ hcall
  have hdirect : ∀ event ∈ (directCalls now multi c clients).map Event.called, Looking event :=
    directCalls_events now multi c clients
  have hnone : ∀ event ∈ ([] : List Event), Looking event := List.forall_mem_nil _
  cases h with
  | nobody hnil => exact .inr ⟨List.forall_mem_nil _, rfl, rfl, hlooks hnone⟩
  | unreadable e hne hn => exact .inr ⟨List.forall_mem_nil _, rfl, rfl, hlooks hnone⟩
  | earlier _ hne hn hs => exact .inr ⟨List.forall_mem_nil _, rfl, rfl, hlooks hnone⟩
  | directFailed e hne hn hs hd => exact .inr ⟨idle_called _, rfl, rfl, hlooks hdirect⟩
  | directAction a hne hn hs hd => exact .inr ⟨idle_called _, rfl, rfl, hlooks hdirect⟩
  | direct _ hne hn hs hd hf => exact .inr ⟨idle_called _, rfl, rfl, hlooks hdirect⟩
  | unasked hne hn hs hd hf hi hsave => exact .inr ⟨idle_called _, rfl, rfl, hlooks hdirect⟩
  | session hne hn hs hd hf hi hc =>
      have hasks : ∀ {u : List Event} {held : Except Error ProfileSet},
          Asks now (c.withLoaded true) u held →
          ∀ event ∈ (directCalls now multi c clients).map Event.called ++ u, Looking event := by
        intro u held ha
        exact List.forall_mem_append.mpr ⟨hdirect, ha.events⟩
      cases hc with
      | failed e ha =>
          exact .inr ⟨fun _ hm => (hasks ha _ hm).idle, rfl, rfl, hlooks (hasks ha)⟩
      | known _ ha hk =>
          exact .inr ⟨fun _ hm => (hasks ha _ hm).idle, rfl, rfl, hlooks (hasks ha)⟩
      | unknown _ ha hk hnone =>
          exact .inr ⟨fun _ hm => (hasks ha _ hm).idle, rfl, rfl, hlooks (hasks ha)⟩
      | @sent t₁ t₂ _ _ _ client ha hk hcl hr =>
          rw [← List.append_assoc] at hworks ⊢
          have hearly : ∀ event ∈ (directCalls now multi c clients).map Event.called ++ t₁,
              event.Idle := fun _ hm => (hasks ha _ hm).idle
          rcases hr.sends_or_stays (fun e hfails => hworks e
            (hfails.mono fun _ => List.mem_append_right _)) hfound with ⟨a, hfa, hsends⟩ | ⟨hidle, rfl, hstays⟩
          · exact .inl ⟨client, a, _, t₂, hcl, hfa, rfl, hearly, hsends⟩
          · refine .inr ⟨List.forall_mem_append.mpr ⟨hearly, hidle⟩, rfl, rfl, ?_⟩
            exact fun _ a _ _ hfa hsome => hstays a hfa hsome

/-! ## What a decision amounts to -/

/-- What a decision over a store that works amounts to: only the last events of
    its trace can change a store. -/
inductive Amounts (g : Gate) (config : Option Config) (p : Parameters) (c : Context) :
    List Event → Except Error Outcome → Context → Prop
  | quiet {t : List Event} {r : Except Error Outcome} {c' : Context} :
      (∀ event ∈ t, event.Idle) → c'.session = c.session → c'.sessionIssued = c.sessionIssued →
      (∀ grant, r ≠ .ok (.granted grant)) → ¬ SentAway g config p c t r → Amounts g config p c t r c'
  | sent {u v : List Event} {cfg : Config} {client : Client} {a : Action} {c' : Context} :
      SentAway g config p c (u ++ v) (.ok (.action a)) → (∀ event ∈ u, event.Idle) →
      Sends cfg.settings client (c.withLoaded true) v a c' →
      Amounts g config p c (u ++ v) (.ok (.action a)) c'
  | granted {u v : List Event} {cfg : Config} {grant : Grant} {c' : Context} :
      config = some cfg → (∀ event ∈ u, event.Idle) →
      Remembers cfg.settings grant.profiles (c.withLoaded grant.loadedFromSession) v
        (.ok grant.loadedFromSession) c' →
      (grant.loadedFromSession = true → ∃ id, c.session = some id) →
      Amounts g config p c (u ++ v) (.ok (.granted grant)) c'

theorem Ready.eq_config (h : Ready g config p c cfg clients) : config = some cfg := by
  obtain ⟨registry, parameter, hparts, -⟩ := h.resolved
  exact hparts.config

private theorem not_redirect_of_matchers (name : String) :
    .called (.redirect name) ∉ asksMatchers cfg p c := by
  intro hmem
  obtain ⟨_, heq⟩ := asksMatchers_events cfg p c _ hmem
  cases heq

/-- A grant amounts to what is remembered. -/
private theorem Decides.amounts_of_granted {grant : Grant}
    (h : Decides g config p now c t (.ok (.granted grant)) c')
    (hnoted : c.noted now = .ok .empty) : Amounts g config p c t (.ok (.granted grant)) c' := by
  obtain ⟨cfg, clients, u, v, source, hp, hm, hl, -, rfl⟩ := h.of_granted
  rw [← hl] at hm ⊢
  rw [← List.append_assoc, ← List.append_assoc]
  refine .granted hp.ready.eq_config ?_ hm ?_
  · exact List.forall_mem_append.mpr
      ⟨List.forall_mem_append.mpr ⟨idle_called _, hp.found.idle⟩, idle_called _⟩
  · intro hloaded
    cases hp.found with
    | direct hn hnil hd => cases hl.symm.trans hloaded
    | session hn hnil hd hf hid hv => exact ⟨_, hid⟩
    | request hcl hn =>
        have hknown := hp.known
        rw [Except.ok.inj (hn.symm.trans hnoted)] at hknown
        cases hknown

/-- A decision in a request in which nothing is noted amounts to one of the three. -/
theorem Decides.amounts (h : Decides g config p now c t r c')
    (hnoted : c.noted now = .ok .empty) (hworks : ∀ e, StoreFails e t → e = .calendar)
    (hr : r ≠ .error .calendar) : Amounts g config p c t r c' := by
  by_cases hgrant : ∃ grant, r = .ok (.granted grant)
  · obtain ⟨grant, rfl⟩ := hgrant
    exact h.amounts_of_granted hnoted
  have hno : ∀ grant, r ≠ .ok (.granted grant) := fun grant heq => hgrant ⟨grant, heq⟩
  cases h with
  | missing part hnone =>
      exact .quiet (List.forall_mem_nil _) rfl rfl hno fun ⟨_, _, hcall, _, _, _, _, _⟩ => by cases hcall
  | unmatched e hparts hm =>
      exact .quiet (idle_called _) rfl rfl hno fun ⟨_, _, hcall, _, _, _, _, _⟩ =>
        not_redirect_of_matchers _ hcall
  | bypassed hparts hm =>
      exact .quiet (idle_called _) rfl rfl hno fun ⟨_, _, hcall, _, _, _, _, _⟩ =>
        not_redirect_of_matchers _ hcall
  | unresolved e hparts hm hc =>
      exact .quiet (idle_called _) rfl rfl hno fun ⟨_, _, hcall, _, _, _, _, _⟩ =>
        not_redirect_of_matchers _ hcall
  | @ready cfg clients t u c₁ c' found r hready ha hc =>
      have hfound : found ≠ .error .calendar := by
        rintro rfl
        cases hc with
        | failed _ => exact hr rfl
      rcases ha.sends_or_stays (fun e hfails => hworks e (hfails.mono fun _ hmem =>
        List.mem_append_right _ (List.mem_append_left _ hmem))) hfound with
        ⟨client, a, w, v, hcl, rfl, rfl, hidle, hsends⟩ | ⟨hidle, hid, hissued, hstays⟩
      · cases hc with
        | answered _ =>
            rw [List.append_nil, ← List.append_assoc]
            refine .sent ?_ (List.forall_mem_append.mpr ⟨idle_called _, hidle⟩) hsends
            cases hsends with
            | intro _ hred hsome ht hk he =>
                exact .intro hready hcl (List.mem_append_right _ List.mem_cons_self) hred hsome rfl
                  ht hk
      · have hearly : ∀ event ∈ asksMatchers cfg p c ++ t, event.Idle :=
          List.forall_mem_append.mpr ⟨idle_called _, hidle⟩
        rw [← List.append_assoc] at hworks ⊢
        cases hc with
        | failed e =>
            rw [List.append_nil]
            exact .quiet hearly hid hissued hno fun ⟨_, _, _, _, _, heq, _, _⟩ => by cases heq
        | answered a =>
            rw [List.append_nil]
            refine .quiet hearly hid hissued hno fun ⟨hready', hcl, hcall, _, hsome, heq, ht, hk⟩ => ?_
            obtain ⟨rfl, rfl⟩ := hready.unique hready'
            cases heq
            have hasked := (List.mem_append.mp hcall).resolve_left (not_redirect_of_matchers _)
            cases hk.symm.trans (hstays _ _ hcl hasked rfl hsome ht)
        | unknown =>
            rw [List.append_nil]
            refine .quiet hearly hid hissued hno fun ⟨_, _, _, _, hsome, heq, _, _⟩ => ?_
            cases heq
            cases hsome
        | unjudged e hv =>
            exact .quiet (List.forall_mem_append.mpr ⟨hearly, idle_called _⟩) hid hissued hno
              fun ⟨_, _, _, _, _, heq, _, _⟩ => by cases heq
        | refused a hv ho =>
            refine .quiet (List.forall_mem_append.mpr ⟨hearly, idle_called _⟩) hid hissued hno
              fun ⟨_, _, hcall, _, _, _, _, _⟩ => ?_
            -- the action is an authorizer's, and no indirect client was asked
            obtain ⟨-, source, -, hf⟩ := ha.finds
            rcases List.mem_append.mp hcall with hcall | hcall
            · rcases List.mem_append.mp hcall with hcall | hcall
              · exact not_redirect_of_matchers _ hcall
              · cases hf.events _ hcall
            · obtain ⟨_, heq⟩ := asksAuthorizers_events _ _ _ _ _ hcall
              cases heq
        | @passed s v kept c' hv hm =>
            cases kept with
            | ok loaded => exact absurd rfl (hno _)
            | error e =>
                have hcal := hworks e (hm.of_error.mono fun _ hmem =>
                  List.mem_append_right _ (List.mem_append_right _ hmem))
                exact absurd (congrArg Except.error hcal) hr

/-! ## What can be read -/

/-- What a decision does to what can be read under each id and key.  `before` and
    `after` are the look-ups before and after it. -/
structure Framed (g : Gate) (config : Option Config) (p : Parameters) (c : Context)
    (t : List Event) (r : Except Error Outcome) (c' : Context)
    (before after : String → String → Option Json) : Prop where
  others : ∀ id, c.session ≠ some id → c'.session ≠ some id → after id = before id
  quiet : (∀ grant, r ≠ .ok (.granted grant)) → ¬ SentAway g config p c t r →
    after = before ∧ c'.session = c.session ∧ c'.sessionIssued = c.sessionIssued
  /-- The URL is under the session id, which is issued now if there was none. -/
  sent : SentAway g config p c t r → ∃ id, c'.session = some id ∧
    (c.session = some id ∨ c.session = none ∧ id ∈ issuedIds t) ∧
    ∀ other key, after other key
      = if other = id ∧ key = requestedUrlKey then some (.str c.request.url) else before other key
  direct : ∀ cfg grant, config = some cfg → r = .ok (.granted grant) →
    grant.loadedFromSession = false → cfg.settings.saveDirect = false →
    after = before ∧ c'.session = c.session
  loaded : ∀ grant, r = .ok (.granted grant) → grant.loadedFromSession = true →
    ∃ id, c.session = some id ∧ c'.session = some id ∧ ∀ other key, after other key
      = if other = id ∧ key = profilesKey then some grant.profiles.toJson else before other key
  /-- The fresh session has the values of the one before it. -/
  moved : ∀ cfg grant, config = some cfg → r = .ok (.granted grant) →
    grant.loadedFromSession = false → cfg.settings.saveDirect = true →
    ∃ id ∈ issuedIds t, c'.session = some id ∧ ∀ other key, after other key
      = if other = id then
          (if key = profilesKey then some grant.profiles.toJson
            else c.session.bind fun old => before old key)
        else if c.session = some other then none else before other key

variable {lifetime : Lifetime} {instant : Instant} {m m' : MemoryStore}

/-- The URL to come back to is the one value that changes. -/
private theorem Sends.reads {a : Action} (h : Sends settings client c v a c')
    (hr : MemoryStore.Replays lifetime instant m (u ++ v) m') (hu : ∀ event ∈ u, event.Idle)
    (hlife : 0 ≤ lifetime.nanos) :
    ∃ id, c'.session = some id ∧ (c.session = some id ∨ c.session = none ∧ id ∈ issuedIds v) ∧
      ∀ other key, m'.get? instant other key
        = if other = id ∧ key = requestedUrlKey then some (.str c.request.url)
          else m.get? instant other key := by
  cases h with
  | intro a ha hsome ht hk he =>
      rw [← List.cons_append, ← List.append_assoc] at hr
      cases he with
      | kept hs =>
          refine ⟨_, hs, .inl hs, MemoryStore.get?_of_write hr ?_ hlife⟩
          exact List.forall_mem_append.mpr ⟨hu, List.forall_mem_singleton.mpr trivial⟩
      | issued octets hs =>
          refine ⟨_, rfl, .inr ⟨hs, List.mem_cons_self⟩, MemoryStore.get?_of_write hr ?_ hlife⟩
          exact List.forall_mem_append.mpr ⟨hu, List.forall_mem_cons.mpr ⟨trivial,
            List.forall_mem_singleton.mpr trivial⟩⟩

/-- Profiles that count as loaded go back to the session that they came from. -/
private theorem Remembers.reads_of_loaded {id : String} {loaded : Bool}
    (h : Remembers settings s (c.withLoaded true) v (.ok loaded) c') (hid : c.session = some id)
    (hr : MemoryStore.Replays lifetime instant m (u ++ v) m') (hu : ∀ event ∈ u, event.Idle)
    (hlife : 0 ≤ lifetime.nanos) :
    c'.session = some id ∧ ∀ other key, m'.get? instant other key
      = if other = id ∧ key = profilesKey then some s.toJson else m.get? instant other key := by
  have hmark := Context.saysLoaded_withLoaded c true
  generalize hkept : Except.ok loaded = kept at h
  cases h with
  | noted hl hd => cases hl.symm.trans hmark
  | unmoved hl hd hm => cases hl.symm.trans hmark
  | moved answer hl hd hm he => cases hl.symm.trans hmark
  | kept answer hl he =>
      cases answer with
      | error e => cases hkept
      | ok done =>
          cases he with
          | issued octets hnone => cases hid.symm.trans hnone
          | kept hs =>
              cases hid.symm.trans hs
              exact ⟨hs, MemoryStore.get?_of_write hr hu hlife⟩

/-- Fresh profiles stay out of the store unless the settings ask for it. -/
private theorem Remembers.reads_of_direct {loaded : Bool}
    (h : Remembers settings s (c.withLoaded false) v (.ok loaded) c')
    (hsave : settings.saveDirect = false)
    (hr : MemoryStore.Replays lifetime instant m (u ++ v) m') (hu : ∀ event ∈ u, event.Idle) :
    m' = m ∧ c'.session = c.session := by
  generalize hkept : Except.ok loaded = kept at h
  cases h with
  | unmoved hl hd hm => cases hd.symm.trans hsave
  | moved answer hl hd hm he => cases hd.symm.trans hsave
  | kept answer hl he => cases hl.symm.trans (Context.saysLoaded_withLoaded c false)
  | noted hl hd =>
      rw [List.append_nil] at hr
      exact ⟨MemoryStore.eq_of_replays_idle hr hu, rfl⟩

/-- Fresh profiles go to a fresh session, with the values of the one before it. -/
private theorem Remembers.reads_of_moved {loaded : Bool}
    (h : Remembers settings s (c.withLoaded false) v (.ok loaded) c')
    (hsave : settings.saveDirect = true) (hissued : c.sessionIssued = false)
    (hr : MemoryStore.Replays lifetime instant m (u ++ v) m') (hu : ∀ event ∈ u, event.Idle)
    (hfresh : ∀ id ∈ issuedIds v, m.sessions.get? id = none) (hlife : 0 ≤ lifetime.nanos) :
    ∃ id ∈ issuedIds v, c'.session = some id ∧ ∀ other key, m'.get? instant other key
      = if other = id then
          (if key = profilesKey then some s.toJson
            else c.session.bind fun old => m.get? instant old key)
        else if c.session = some other then none else m.get? instant other key := by
  generalize hkept : Except.ok loaded = kept at h
  cases h with
  | noted hl hd => cases hd.symm.trans hsave
  | unmoved hl hd hm => cases hkept
  | kept answer hl he => cases hl.symm.trans (Context.saysLoaded_withLoaded c false)
  | moved answer hl hd hm he =>
      cases answer with
      | error e => cases hkept
      | ok done =>
          have hdrawn : ∀ octets, ∀ event ∈ u ++ [.drawn sessionIdOctets octets], event.Idle :=
            fun octets => List.forall_mem_append.mpr ⟨hu, List.forall_mem_singleton.mpr trivial⟩
          cases hm with
          | kept hi => cases hi.symm.trans hissued
          | issued octets hi hs =>
              have hnone : c.session = none := hs
              cases he with
              | issued _ hgone => cases hgone
              | kept hid =>
                  cases hid
                  rw [← List.append_assoc] at hr
                  refine ⟨_, List.mem_cons_self, rfl, fun other key => ?_⟩
                  rw [MemoryStore.get?_of_write hr (hdrawn octets) hlife, hnone]
                  by_cases ho : other = sessionIdOf octets
                  · rw [if_pos ho, ho, MemoryStore.get?_of_none (hfresh _ List.mem_cons_self)]
                    by_cases hk : key = profilesKey
                    · rw [if_pos ⟨rfl, hk⟩, if_pos hk]
                    · rw [if_neg fun h => hk h.2, if_neg hk]
                      rfl
                  · rw [if_neg fun h => ho h.1, if_neg ho, if_neg (by simp)]
          | moved octets before _ hi hs =>
              have hbefore : c.session = some before := hs
              cases he with
              | issued _ hgone => cases hgone
              | kept hid =>
                  cases hid
                  have hmove : MemoryStore.Replays lifetime instant m
                      (u ++ [.drawn sessionIdOctets octets]
                        ++ [.stored (.renew before (sessionIdOf octets)) (.ok ()),
                          .stored (.set (sessionIdOf octets) profilesKey s.toJson) (.ok ())]) m' := by
                    rw [List.append_assoc]
                    exact hr
                  refine ⟨_, List.mem_cons_self, rfl, fun other key => ?_⟩
                  rw [MemoryStore.get?_of_move hmove (hdrawn octets)
                    (hfresh _ List.mem_cons_self) hlife, hbefore, Option.bind_some]
                  simp only [Option.some.injEq, eq_comm (a := before)]

/-- One write shows under no id but its own. -/
private theorem eq_of_ne {id key : String} {value : Json} {before after : String → String → Option Json}
    (h : ∀ other k, after other k = if other = id ∧ k = key then some value else before other k)
    {other : String} (hne : some id ≠ some other) : after other = before other := by
  funext k
  rw [h, if_neg fun heq => hne (congrArg some heq.1.symm)]

/-- Each of the three cases changes no more than its outcome says. -/
private theorem Amounts.framed (h : Amounts g config p c t r c') (hissued : c.sessionIssued = false)
    (hr : MemoryStore.Replays lifetime instant m t m')
    (hfresh : ∀ id ∈ issuedIds t, m.sessions.get? id = none) (hlife : 0 ≤ lifetime.nanos) :
    Framed g config p c t r c' (m.get? instant) (m'.get? instant) := by
  cases h with
  | quiet hidle hid hi hno haway =>
      rw [MemoryStore.eq_of_replays_idle hr hidle]
      exact {
        others := fun _ _ _ => rfl
        quiet := fun _ _ => ⟨rfl, hid, hi⟩
        sent := fun hsent => absurd hsent haway
        direct := fun _ grant _ heq => absurd heq (hno grant)
        loaded := fun grant heq => absurd heq (hno grant)
        moved := fun _ grant _ heq => absurd heq (hno grant) }
  | @sent u v cfg client a c' hsent hu hsends =>
      obtain ⟨id, hid, hfrom, hreads⟩ := hsends.reads hr hu hlife
      exact {
        others := fun other _ hne => eq_of_ne hreads (hid ▸ hne)
        quiet := fun _ hnot => absurd hsent hnot
        sent := fun _ => by
          refine ⟨id, hid, hfrom.imp_right fun ⟨hnone, hmem⟩ => ⟨hnone, ?_⟩, hreads⟩
          rw [issuedIds_append]
          exact List.mem_append_right _ hmem
        direct := fun _ _ _ heq => by cases heq
        loaded := fun _ heq => by cases heq
        moved := fun _ _ _ heq => by cases heq }
  | @granted u v cfg grant c' hcfg hu hm hsession =>
      have hfresh' : ∀ id ∈ issuedIds v, m.sessions.get? id = none := fun id hmem =>
        hfresh id (by rw [issuedIds_append]; exact List.mem_append_right _ hmem)
      have hloaded : grant.loadedFromSession = true → ∃ id, c.session = some id ∧
          c'.session = some id ∧ ∀ other key, m'.get? instant other key
            = if other = id ∧ key = profilesKey then some grant.profiles.toJson
              else m.get? instant other key := fun hl => by
        obtain ⟨id, hid⟩ := hsession hl
        rw [hl] at hm
        exact ⟨id, hid, hm.reads_of_loaded hid hr hu hlife⟩
      have hdirect : grant.loadedFromSession = false → cfg.settings.saveDirect = false →
          m' = m ∧ c'.session = c.session := fun hl hsave => by
        rw [hl] at hm
        exact hm.reads_of_direct hsave hr hu
      have hmoved : grant.loadedFromSession = false → cfg.settings.saveDirect = true →
          ∃ id ∈ issuedIds v, c'.session = some id ∧ ∀ other key, m'.get? instant other key
            = if other = id then
                (if key = profilesKey then some grant.profiles.toJson
                  else c.session.bind fun old => m.get? instant old key)
              else if c.session = some other then none
              else m.get? instant other key := fun hl hsave => by
        rw [hl] at hm
        exact hm.reads_of_moved hsave hissued hr hu hfresh' hlife
      exact {
        others := fun other hc hc' => by
          cases hl : grant.loadedFromSession with
          | true =>
              obtain ⟨id, -, hid, hreads⟩ := hloaded hl
              exact eq_of_ne hreads (hid ▸ hc')
          | false =>
              cases hsave : cfg.settings.saveDirect with
              | false => rw [(hdirect hl hsave).1]
              | true =>
                  obtain ⟨id, -, hid, hreads⟩ := hmoved hl hsave
                  funext key
                  rw [hreads, if_neg fun heq => hc' (hid.trans (congrArg some heq.symm)), if_neg hc]
        quiet := fun hno => absurd rfl (hno grant)
        sent := fun ⟨_, _, _, _, _, heq, _, _⟩ => by cases heq
        direct := fun cfg' _ hcfg' heq hl hsave => by
          cases heq
          cases hcfg.symm.trans hcfg'
          obtain ⟨rfl, hid⟩ := hdirect hl hsave
          exact ⟨rfl, hid⟩
        loaded := fun _ heq hl => by
          cases heq
          exact hloaded hl
        moved := fun cfg' _ hcfg' heq hl hsave => by
          cases heq
          cases hcfg.symm.trans hcfg'
          obtain ⟨id, hmem, hreads⟩ := hmoved hl hsave
          refine ⟨id, ?_, hreads⟩
          rw [issuedIds_append]
          exact List.mem_append_right _ hmem }

/-- Who writes the session, and what: every decision on a fresh request, over a
    store that works, changes of what can be read no more than its outcome says.
    The run must not leave the calendar, and the ids that are issued must be new. -/
theorem decide_framed {request : Request} {presented : Option String} {env : Surroundings}
    {w : World} (hworks : ∀ n step, env.fails n step = none) (hlife : 0 < env.lifetime.nanos)
    (hfresh : ∀ id ∈ issuedIds
      ((g.decide config p now (.ofRequest request presented)).trace env w),
      w.store.sessions.get? id = none)
    (hrun : ((g.decide config p now (.ofRequest request presented)).run env w).1 = (r, c'))
    (hr : r ≠ .error .calendar) :
    Framed g config p (.ofRequest request presented)
      ((g.decide config p now (.ofRequest request presented)).trace env w) r c'
      (w.store.get? env.now)
      (((g.decide config p now (.ofRequest request presented)).run env w).2.store.get? env.now) := by
  have hends := Plan.ends_trace env (g.decide config p now (.ofRequest request presented)) w
  rw [hrun] at hends
  have hamounts := (ends_decide hends).amounts rfl
    (fun e ⟨_, hmem⟩ => Plan.eq_calendar_of_trace hworks hmem) hr
  exact hamounts.framed rfl (Plan.replays_trace env _ w) hfresh (Int.le_of_lt hlife)

/-! A visitor whom nobody knows, with something in the session, is sent to a login page. -/

/-- A client with a login page. -/
def loginClient : Client where
  name := "Login"
  kind := .indirect
  fetch _ _ := .ok .absent
  build _ _ _ := .ok .absent
  redirect _ := .ok (.redirect "/login")

def loginConfig : Config := .ofClients [loginClient] {}

/-- A store with one session, in which nobody is known. -/
def basketStore : MemoryStore :=
  .ofSession "s" [("basket", .str "full")]

def basketRequest : Request := ⟨"GET", .root, [], []⟩

/-- A decision for the visitor. -/
def loginDecision : Plan (Except Error Outcome × Context) :=
  (ofSettings {}).decide (some loginConfig) default .epoch (.ofRequest basketRequest (some "s"))

/-- The visitor is sent away; the page to come back to stands beside what the
    session held, and every other session is as it was. -/
theorem decide_framed_login :
    SentAway (ofSettings {}) (some loginConfig) default (.ofRequest basketRequest (some "s"))
        (loginDecision.trace (.still .epoch) (World.ofStore basketStore))
        (.ok (.action (.redirect "/login"))) ∧
      ∀ id key, (loginDecision.run (.still .epoch) (World.ofStore basketStore)).2.store.get?
          .epoch id key
        = if id = "s" ∧ key = requestedUrlKey then some (.str "/")
          else basketStore.get? .epoch id key := by
  have hsent : SentAway (ofSettings {}) (some loginConfig) default
      (.ofRequest basketRequest (some "s"))
      (loginDecision.trace (.still .epoch) (World.ofStore basketStore))
      (.ok (.action (.redirect "/login"))) :=
    .intro ⟨⟨_, _, ⟨rfl, rfl, rfl, rfl, rfl⟩, rfl⟩, rfl⟩ rfl
      (List.mem_cons_of_mem _ List.mem_cons_self) rfl rfl rfl rfl rfl
  have hrun : (loginDecision.run (.still .epoch) (World.ofStore basketStore)).1
      = (.ok (.action (.redirect "/login")),
        (Context.ofRequest basketRequest (some "s")).withLoaded true) := rfl
  have hframed := decide_framed (by intro _ _; rfl) (by decide) (by intro _ hid; cases hid) hrun
    (by decide)
  obtain ⟨id, hid, -, hreads⟩ := hframed.sent hsent
  cases hid
  exact ⟨hsent, hreads⟩

end Gate

end AccessGate
