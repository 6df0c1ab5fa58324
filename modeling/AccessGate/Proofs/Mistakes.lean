import AccessGate.Proofs.Events
import AccessGate.Proofs.Resolution

/-! # Mistakes in how a gate was put together

    A mistake in the configuration should come to light before the gate does
    anything.  Every mistake does but one.  The names of clients and matchers are
    resolved before the visitor is looked for, the names of authorizers after it,
    so a name that has no authorizer is found out when clients were called and the
    context was changed.

    `Mistaken` lists the ways in which the gate itself reports a mistake, and
    `Decides.mistaken` shows that there are no others: any other error of this kind
    was the answer of a component.  `mistaken_iff` says when such a decision has
    done nothing at all. -/

namespace AccessGate

/-! ## Clients that take part -/

namespace ClientRegistry

/-- Names are looked up until one has no client. -/
private theorem mapM_lookUp (registry : ClientRegistry) (names : List String) :
    (∃ name, names.mapM registry.lookUp = .error (.config (.unknownClient name))) ∨
      ∃ clients, names.mapM registry.lookUp = .ok clients ∧
        ∀ client ∈ clients, client ∈ registry.clients := by
  cases hnames : names.mapM registry.lookUp with
  | error e =>
      obtain ⟨before, name, after, -, -, hname⟩ := mapM_eq_error.mp hnames
      obtain ⟨-, rfl⟩ := lookUp_eq_error.mp hname
      exact .inl ⟨name, rfl⟩
  | ok clients =>
      refine .inr ⟨clients, rfl, ?_⟩
      have hclients := mapM_eq_ok.mp hnames
      clear hnames
      induction hclients with
      | nil => exact List.forall_mem_nil _
      | cons hlook _ ih => exact List.forall_mem_cons.mpr ⟨(bears_of_lookUp hlook).1, ih⟩

/-- The clients that take part are registered, or there is no client, or a name is that of none. -/
theorem resolve_cases (registry : ClientRegistry) (parameter : String) (request : Request)
    (list : Option String) :
    registry.resolve parameter request list = .error (.config .noClient) ∨
      (∃ name, registry.resolve parameter request list
        = .error (.config (.unknownClient name))) ∨
      ∃ clients, registry.resolve parameter request list = .ok clients ∧
        ∀ client ∈ clients, client ∈ registry.clients := by
  have hnarrow : ∀ (clients : List Client) (requested : Option String),
      (∀ client ∈ clients, client ∈ registry.clients) →
      ∀ client ∈ narrow clients requested, client ∈ registry.clients := by
    intro clients requested hmem client hc
    rw [narrow] at hc
    split at hc
    · exact hmem client (List.mem_filter.mp hc).1
    · exact hmem client hc
  rw [resolve, listed]
  split
  · exact .inl rfl
  · refine .inr ?_
    split
    · next text _ =>
      rcases mapM_lookUp registry (Text.names text) with ⟨name, h⟩ | ⟨clients, h, hmem⟩
      · exact .inl ⟨name, by rw [h]; rfl⟩
      · exact .inr ⟨_, by rw [h]; rfl, hnarrow clients _ hmem⟩
    · exact .inr ⟨_, rfl, hnarrow registry.clients _ fun client hc => hc⟩

end ClientRegistry

namespace Gate

/-! ## Who reports an error -/

/-- An error is the answer of a component that was called, or of the store. -/
inductive Reported (config : Option Config) (now : Instant) (c c' : Context) (t : List Event)
    (e : Error) : Prop
  | matcher {cfg : Config} {rule : String × Matcher} : config = some cfg →
      rule ∈ cfg.matchers → rule.2 c = .error e → .called (.matcher rule.1) ∈ t →
      Reported config now c c' t e
  | client {cfg : Config} {registry : ClientRegistry} {client : Client} : config = some cfg →
      cfg.clients = some registry → client ∈ registry.clients → client.answer now c = .error e →
      .called (.fetch client.name) ∈ t → Reported config now c c' t e
  | redirect {cfg : Config} {registry : ClientRegistry} {client : Client} : config = some cfg →
      cfg.clients = some registry → client ∈ registry.clients →
      client.redirect (c.withLoaded true) = .error e → .called (.redirect client.name) ∈ t →
      Reported config now c c' t e
  | authorizer {cfg : Config} {rule : String × Authorizer} {profiles : ProfileSet} :
      config = some cfg → rule ∈ cfg.authorizers → rule.2 c' profiles = .error e →
      .called (.authorizer rule.1) ∈ t → Reported config now c c' t e
  | store : StoreFails e t → Reported config now c c' t e

/-- The ways in which the gate itself reports a mistake. -/
inductive Mistaken (g : Gate) (config : Option Config) (p : Parameters) (now : Instant)
    (c : Context) : List Event → ConfigError → Context → Prop
  | missing (part : String) :
      (∀ cfg registry parameter, ¬ Assembled g config cfg registry parameter) →
      Mistaken g config p now c [] (.missing part) c
  | unknownMatcher {cfg : Config} {registry : ClientRegistry} {parameter text : String}
      (name : String) : Assembled g config cfg registry parameter →
      Text.nonBlank p.matchers = some text →
      RuleRegistry.resolve cfg.matchers (Text.names text) = .error name →
      Mistaken g config p now c [] (.unknownMatcher name) c
  | unresolved {cfg : Config} {registry : ClientRegistry} {parameter : String}
      (cause : ConfigError) : Assembled g config cfg registry parameter →
      Matcher.answer cfg.matchers p.matchers c = .ok true →
      registry.resolve parameter c.request p.clients = .error (.config cause) →
      (cause = .noClient ∨ ∃ name, cause = .unknownClient name) →
      Mistaken g config p now c (asksMatchers cfg p c) cause c
  /-- By now it is known who the visitor is. -/
  | unknownAuthorizer {cfg : Config} {clients : List Client} {u : List Event} {s : ProfileSet}
      {source : Source} {text : String} (name : String) : Ready g config p c cfg clients →
      s.isEmpty = false → Finds now (wantsMany cfg p) clients c u s source →
      Text.nonBlank p.authorizers = some text →
      RuleRegistry.resolve cfg.authorizers (Text.names text) = .error name →
      Mistaken g config p now c (asksMatchers cfg p c ++ u) (.unknownAuthorizer name)
        (c.withLoaded (source.saysLoaded c))

/-- A decision has done nothing that lasts: every store is as before, and so is
    the context but for the note on where profiles come from, and no authorizer was
    called. -/
structure Preliminary (c : Context) (t : List Event) (c' : Context) : Prop where
  context : c' = c ∨ ∃ loaded, c' = c.withLoaded loaded
  store : ∀ lifetime now m m', MemoryStore.Replays lifetime now m t m' → m' = m
  unjudged : ∀ name, .called (.authorizer name) ∉ t

/-- A decision has done nothing: the context and every store are as before, and
    no component was called but matchers. -/
structure Untouched (c : Context) (t : List Event) (c' : Context) : Prop where
  context : c' = c
  store : ∀ lifetime now m m', MemoryStore.Replays lifetime now m t m' → m' = m
  uncalled : ∀ call, .called call ∈ t → ∃ name, call = .matcher name

/-- To look for the visitor changes nothing: their profiles are noted in the
    request, or no direct client takes part, and the note on where profiles come
    from is there already. -/
def Settled (g : Gate) (config : Option Config) (p : Parameters) (now : Instant)
    (c : Context) : Prop :=
  ∃ loaded, c.attribute? loadedKey = some (.bool loaded) ∧
    ((∃ s, c.noted now = .ok s ∧ s.isEmpty = false) ∨
      loaded = true ∧ ∃ cfg clients, Ready g config p c cfg clients ∧
        ∀ client ∈ clients, client.isIndirect = true)

variable {g : Gate} {config : Option Config} {p : Parameters} {now : Instant} {cfg : Config}
  {settings : Settings} {multi : Bool} {clients : List Client} {c c' : Context} {t u : List Event}
  {s : ProfileSet} {source : Source} {cause : ConfigError}

/-- While the visitor is looked for, only components and the store report mistakes. -/
private theorem Authenticates.reported
    (h : Authenticates now settings multi clients c t (.error (.config cause)) c') :
    (∃ client ∈ clients, client.answer now c = .error (.config cause) ∧
        .called (.fetch client.name) ∈ t) ∨
      (∃ client ∈ clients, client.redirect (c.withLoaded true) = .error (.config cause) ∧
        .called (.redirect client.name) ∈ t) ∨
      StoreFails (.config cause) t := by
  cases h with
  | unreadable _ hne hn => cases Context.noted_error hn
  | directFailed _ hne hn hs hd =>
      obtain ⟨client, hm, ha, hcalls⟩ := of_directAnswer_error hd
      exact .inl ⟨client, hm, ha, List.mem_map_of_mem (hcalls _ (client.fetch_mem_calls now c))⟩
  | session hne hn hs hd hf hi hc =>
      have hmono : ∀ {u : List Event}, StoreFails (.config cause) u →
          StoreFails (.config cause) ((directCalls now multi c clients).map .called ++ u) :=
        fun h => h.mono fun _ => List.mem_append_right _
      cases hc with
      | failed _ ha =>
          rcases ha.of_error with heq | hfails
          · cases heq
          · exact .inr (.inr (hmono hfails))
      | sent _ client ha hk hcl hr =>
          rcases hr.of_error with ⟨hred, hcall⟩ | hfails
          · exact .inr (.inl ⟨client, List.mem_of_find?_eq_some hcl, hred,
              List.mem_append_right _ (List.mem_append_right _ hcall)⟩)
          · exact .inr (.inr (hmono (hfails.mono fun _ => List.mem_append_right _)))

/-- A mistake that no component and no store reported was reported by the gate. -/
theorem Decides.mistaken (h : Decides g config p now c t (.error (.config cause)) c')
    (hown : ¬ Reported config now c c' t (.config cause)) :
    Mistaken g config p now c t cause c' := by
  generalize hr : Except.error (Error.config cause) = r at h
  cases h with
  | missing part hnone =>
      cases hr
      exact .missing part hnone
  | bypassed hparts hm => cases hr
  | unmatched _ hparts hm =>
      cases hr
      rcases Round.of_answer_error hm with ⟨text, name, ht, hres, heq, hcalls⟩ | ⟨rule, hmem, ha, hcall⟩
      · cases heq
        rw [asksMatchers, Matcher.calls, hcalls]
        exact .unknownMatcher name hparts ht hres
      · exact absurd (.matcher hparts.config hmem ha (List.mem_map_of_mem hcall)) hown
  | @unresolved cfg registry parameter _ hparts hm hc =>
      cases hr
      refine .unresolved cause hparts hm hc ?_
      rcases registry.resolve_cases parameter c.request p.clients with h | ⟨name, h⟩ | ⟨_, h, -⟩
      · cases hc.symm.trans h
        exact .inl rfl
      · cases hc.symm.trans h
        exact .inr ⟨name, rfl⟩
      · cases hc.symm.trans h
  | @ready cfg clients t u c₁ c' found r hready ha hc =>
      obtain ⟨registry, parameter, hparts, hres⟩ := hready.resolved
      have hmem : ∀ client ∈ clients, client ∈ registry.clients := by
        rcases registry.resolve_cases parameter c.request p.clients with h | ⟨name, h⟩ | ⟨_, h, hm⟩
        · cases hres.symm.trans h
        · cases hres.symm.trans h
        · cases hres.symm.trans h
          exact hm
      have hlate : ∀ {event : Event}, event ∈ t → event ∈ asksMatchers cfg p c ++ (t ++ u) :=
        fun h => List.mem_append_right _ (List.mem_append_left _ h)
      cases hc with
      | failed _ =>
          cases hr
          rcases ha.reported with ⟨client, hm, hans, hcall⟩ | ⟨client, hm, hred, hcall⟩ | hfails
          · exact absurd (.client hparts.config hparts.clients (hmem _ hm) hans (hlate hcall)) hown
          · exact absurd (.redirect hparts.config hparts.clients (hmem _ hm) hred (hlate hcall)) hown
          · exact absurd (.store (hfails.mono fun _ => hlate)) hown
      | answered a => cases hr
      | unknown => cases hr
      | refused a hv ho => cases hr
      | @unjudged s _ hv =>
          cases hr
          rcases Round.of_answer_error hv with
            ⟨text, name, ht, hres, heq, hcalls⟩ | ⟨rule, hrule, hask, hcall⟩
          · cases heq
            obtain ⟨hs, source, rfl, hf⟩ := ha.finds
            rw [asksAuthorizers, Authorizer.calls, hcalls, List.map_nil, List.append_nil]
            exact .unknownAuthorizer name hready hs hf ht hres
          · exact absurd (.authorizer hparts.config hrule hask
              (List.mem_append_right _ (List.mem_append_right _ (List.mem_map_of_mem hcall)))) hown
      | @passed s v kept c' hv hm =>
          cases kept with
          | ok loaded => cases hr
          | error e' =>
              cases hr
              refine absurd (.store (hm.of_error.mono fun _ hmem => ?_)) hown
              exact List.mem_append_right _ (List.mem_append_right _ (List.mem_append_right _ hmem))

/-! ## What is done by then -/

/-- To ask the matchers touches nothing. -/
theorem Untouched.of_matchers (cfg : Config) (p : Parameters) (c : Context) :
    Untouched c (asksMatchers cfg p c) c where
  context := rfl
  store _ _ _ _ hr := MemoryStore.eq_of_replays_idle hr (idle_called _)
  uncalled call hmem := by
    obtain ⟨name, heq⟩ := asksMatchers_events cfg p c _ hmem
    cases heq
    exact ⟨name, rfl⟩

theorem Untouched.of_nothing (c : Context) : Untouched c [] c where
  context := rfl
  store _ _ _ _ hr := MemoryStore.replays_nil.mp hr
  uncalled _ hmem := by cases hmem

/-- Where all clients are indirect, none is called as a direct one. -/
theorem directCalls_of_indirect (h : ∀ client ∈ clients, client.isIndirect = true) :
    directCalls now multi c clients = [] := by
  induction clients with
  | nil => rfl
  | cons client rest ih =>
      obtain ⟨hclient, hrest⟩ := List.forall_mem_cons.mp h
      rw [directCalls, if_pos hclient]
      exact ih hrest

/-- A note on the source changes nothing just when it is there already. -/
theorem withLoaded_eq_self {loaded : Bool} :
    c.withLoaded loaded = c ↔ c.attribute? loadedKey = some (.bool loaded) := by
  constructor
  · intro h
    rw [← h, Context.loaded_withLoaded]
  · intro h
    rw [Context.withLoaded, Context.setAttribute, Dict.insert_eq_self h]

/-- When a visitor was found nothing was done just when all was settled before. -/
private theorem Finds.untouched_iff (hf : Finds now multi clients c u s source)
    (hready : Ready g config p c cfg clients) (hs : s.isEmpty = false) :
    Untouched c (asksMatchers cfg p c ++ u) (c.withLoaded (source.saysLoaded c)) ↔
      Settled g config p now c := by
  constructor
  · intro h
    have hnote := withLoaded_eq_self.mp h.context
    -- a call of a direct client would stand on the trace
    have huncalled : ∀ call, .called call ∈ u → ∃ name, call = .matcher name := fun call hmem =>
      h.uncalled call (List.mem_append_right _ hmem)
    cases hf with
    | request hcl hn => exact ⟨_, hnote, .inl ⟨s, hn, hs⟩⟩
    | direct hn hnil hd =>
        obtain ⟨entry, he⟩ := List.isEmpty_eq_false_iff_exists_mem.mp hs
        rcases of_directAnswer hd entry he with he | ⟨client, -, -, hbuild⟩
        · cases he
        · obtain ⟨name, heq⟩ := huncalled _ (List.mem_map_of_mem hbuild)
          cases heq
    | session hn hnil hd hfound hid hv =>
        refine ⟨true, hnote, .inr ⟨rfl, cfg, clients, hready, ?_⟩⟩
        intro client hm
        by_contra hi
        obtain ⟨-, hfetch⟩ := absent_of_directAnswer hd hfound client hm (Bool.eq_false_iff.mpr hi)
        obtain ⟨name, heq⟩ := huncalled _ (List.mem_append_left _ (List.mem_map_of_mem hfetch))
        cases heq
  · rintro ⟨loaded, hnote, hfrom⟩
    cases hf with
    | request hcl hn =>
        have hmark : c.saysLoaded = loaded := by
          rw [Context.saysLoaded, Context.loaded?, hnote]
          rfl
        rw [Source.saysLoaded, hmark, withLoaded_eq_self.mpr hnote, List.append_nil]
        exact .of_matchers cfg p c
    | direct hn hnil hd =>
        exfalso
        rcases hfrom with ⟨noted, hn', hne⟩ | ⟨-, cfg', clients', hready', hindirect⟩
        · cases hn.symm.trans hn'
          cases hnil.symm.trans hne
        · obtain ⟨rfl, rfl⟩ := hready.unique hready'
          obtain ⟨entry, he⟩ := List.isEmpty_eq_false_iff_exists_mem.mp hs
          rcases of_directAnswer hd entry he with he | ⟨client, hm, hbuilt, -⟩
          · cases he
          · cases hbuilt.1.symm.trans (hindirect client hm)
    | session hn hnil hd hfound hid hv =>
        rcases hfrom with ⟨noted, hn', hne⟩ | ⟨rfl, cfg', clients', hready', hindirect⟩
        · cases hn.symm.trans hn'
          cases hnil.symm.trans hne
        · obtain ⟨rfl, rfl⟩ := hready.unique hready'
          rw [directCalls_of_indirect hindirect]
          refine ⟨withLoaded_eq_self.mpr hnote, ?_, ?_⟩
          · intro lifetime instant m m' hr
            exact MemoryStore.eq_of_replays_idle hr (List.forall_mem_append.mpr ⟨idle_called _,
              List.forall_mem_singleton.mpr trivial⟩)
          · intro call hmem
            rcases List.mem_append.mp hmem with hmem | hmem
            · exact (Untouched.of_matchers cfg p c).uncalled call hmem
            · cases List.mem_singleton.mp hmem

/-- What touches nothing is preliminary. -/
theorem Untouched.preliminary (h : Untouched c t c') : Preliminary c t c' where
  context := .inl h.context
  store := h.store
  unjudged name hmem := by
    obtain ⟨_, heq⟩ := h.uncalled _ hmem
    cases heq

private theorem Finds.preliminary (hf : Finds now multi clients c u s source) :
    Preliminary c (asksMatchers cfg p c ++ u) (c.withLoaded (source.saysLoaded c)) where
  context := .inr ⟨_, rfl⟩
  store _ _ _ _ hr := MemoryStore.eq_of_replays_idle hr
    (List.forall_mem_append.mpr ⟨idle_called _, hf.idle⟩)
  unjudged name hmem := by
    rcases List.mem_append.mp hmem with hmem | hmem
    · obtain ⟨_, heq⟩ := asksMatchers_events cfg p c _ hmem
      cases heq
    · cases hf.events _ hmem

/-- A mistake that the gate itself reports comes before anything that lasts.
    Nothing at all was done just when the mistake is not the name of an
    authorizer, or all was settled before. -/
theorem mistaken_iff (h : (g.decide config p now c).Ends t (.error (.config cause), c'))
    (hown : ¬ Reported config now c c' t (.config cause)) :
    Preliminary c t c' ∧
      (Untouched c t c' ↔
        ∀ name, cause = .unknownAuthorizer name → Settled g config p now c) := by
  have huntouched : Untouched c t c' → (∀ name, cause ≠ .unknownAuthorizer name) →
      Preliminary c t c' ∧ (Untouched c t c' ↔
        ∀ name, cause = .unknownAuthorizer name → Settled g config p now c) :=
    fun hu hne => ⟨hu.preliminary, fun _ name heq => absurd heq (hne name), fun _ => hu⟩
  cases (ends_decide h).mistaken hown with
  | missing part hnone => exact huntouched (.of_nothing c) fun name heq => by cases heq
  | unknownMatcher name hparts ht hres =>
      exact huntouched (.of_nothing c) fun name heq => by cases heq
  | unresolved _ hparts hm hc hcause =>
      refine huntouched (.of_matchers _ p c) ?_
      rintro name rfl
      rcases hcause with heq | ⟨other, heq⟩
      · cases heq
      · cases heq
  | unknownAuthorizer name hready hs hf ht hres =>
      refine ⟨hf.preliminary, (hf.untouched_iff hready hs).trans ?_⟩
      exact ⟨fun hset _ _ => hset, fun hset => hset name rfl⟩

/-! A visitor is known by a token, and the list of authorizers has a name that is none's. -/

/-- A client that knows one visitor, whatever the request. -/
def tokenClient : Client where
  name := "A"
  kind := .direct
  fetch _ _ := .ok (.produced (.token "jdoe"))
  build _ _ _ := .ok (.produced (.ofId "jdoe"))

/-- A request with nothing in it. -/
def plainRequest : Context := .ofRequest ⟨"GET", .root, [], []⟩ none

/-- A decision with the name of an authorizer that there is not. -/
def misnamedDecision : Plan (Except Error Outcome × Context) :=
  (ofSettings {}).decide (some (.ofClients [tokenClient] {}))
    { (default : Parameters) with authorizers := some "nobody" } .epoch plainRequest

/-- The client is called before the mistake is found. -/
def misnamedEvents : List Event := [.called (.fetch "A"), .called (.build "A")]

theorem misnamedDecision_ends :
    misnamedDecision.Ends misnamedEvents
      (.error (.config (.unknownAuthorizer "nobody")), plainRequest.withLoaded false) :=
  ⟨_, rfl, _, rfl, rfl, rfl⟩

theorem misnamed_not_reported :
    ¬ Reported (some (.ofClients [tokenClient] {})) .epoch plainRequest
      (plainRequest.withLoaded false) misnamedEvents
      (.config (.unknownAuthorizer "nobody")) := by
  intro h
  cases h with
  | matcher hcfg hrule hask hcall =>
      cases hcfg
      cases hrule
  | client hcfg hreg hclient hans hcall =>
      cases hcfg
      cases hreg
      cases List.mem_singleton.mp hclient
      cases hans
  | redirect hcfg hreg hclient hred hcall =>
      cases hcfg
      cases hreg
      cases List.mem_singleton.mp hclient
      cases hred
  | authorizer hcfg hrule hask hcall =>
      cases hcfg
      cases hrule
  | store hfails =>
      obtain ⟨step, hmem⟩ := hfails
      rcases List.mem_cons.mp hmem with heq | hmem
      · cases heq
      · cases List.mem_singleton.mp hmem

/-- The gate reports the mistake when the client was called and the context was changed. -/
theorem mistake_after_call :
    misnamedDecision.Ends misnamedEvents
        (.error (.config (.unknownAuthorizer "nobody")), plainRequest.withLoaded false) ∧
      ¬ Reported (some (.ofClients [tokenClient] {})) .epoch plainRequest
        (plainRequest.withLoaded false) misnamedEvents
        (.config (.unknownAuthorizer "nobody")) ∧
      plainRequest.withLoaded false ≠ plainRequest ∧
      .called (.fetch "A") ∈ misnamedEvents ∧ .called (.build "A") ∈ misnamedEvents :=
  ⟨misnamedDecision_ends, misnamed_not_reported, by decide, List.mem_cons_self,
    List.mem_cons_of_mem _ List.mem_cons_self⟩

/-- The same decision has done nothing that lasts, but it has done something. -/
theorem mistaken_iff_misnamed :
    Preliminary plainRequest misnamedEvents (plainRequest.withLoaded false) ∧
      ¬ Untouched plainRequest misnamedEvents (plainRequest.withLoaded false) := by
  obtain ⟨hpre, hiff⟩ := mistaken_iff misnamedDecision_ends misnamed_not_reported
  refine ⟨hpre, fun hu => ?_⟩
  obtain ⟨loaded, hnote, -⟩ := hiff.mp hu "nobody" rfl
  cases hnote

end Gate

end AccessGate
