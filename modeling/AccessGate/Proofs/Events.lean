import AccessGate.Proofs.Decision

/-! # Who does what — the events of each stage

    Most of what is asked of a trace is that events of some kind are not on it: no
    write, no call of a client, no look-up.  So each stage has an inductive
    predicate on single events that lists what can happen in it, and a theorem
    that its traces hold nothing else.  A kind of event that is missing from the
    list is then ruled out by its constructor. -/

namespace AccessGate

/-! ## Calls -/

/-- A round calls nobody but its rules. -/
theorem Round.of_mem_callsAll {α β : Type} [DecidableEq β] {q : Round α β}
    {rules : List (String × α)} {call : Call} (h : call ∈ q.callsAll rules) :
    ∃ name, call = q.call name := by
  induction rules with
  | nil => cases h
  | cons rule rest ih =>
      obtain ⟨name, r⟩ := rule
      rw [callsAll] at h
      cases ha : q.ask r with
      | error e =>
          rw [ha] at h
          exact ⟨name, List.mem_singleton.mp h⟩
      | ok b =>
          simp only [ha] at h
          by_cases hb : b = q.good
          · rw [if_pos hb] at h
            rcases List.mem_cons.mp h with h | h
            · exact ⟨name, h⟩
            · exact ih h
          · rw [if_neg hb] at h
            exact ⟨name, List.mem_singleton.mp h⟩

/-- A round makes no calls but its own. -/
theorem Round.of_mem_calls {α β : Type} [DecidableEq β] {q : Round α β}
    {registry : RuleRegistry α} {list : Option String} {call : Call}
    (h : call ∈ q.calls registry list) : ∃ name, call = q.call name := by
  rw [calls] at h
  cases ht : Text.nonBlank list with
  | none =>
      rw [ht] at h
      cases h
  | some text =>
      simp only [ht] at h
      cases hr : RuleRegistry.resolve registry (Text.names text) with
      | error name =>
          simp only [hr] at h
          cases h
      | ok rules =>
          simp only [hr] at h
          exact of_mem_callsAll h

/-- A client is called for credentials and for a profile. -/
theorem Client.of_mem_calls {client : Client} {now : Instant} {c : Context} {call : Call}
    (h : call ∈ client.calls now c) : call = .fetch client.name ∨ call = .build client.name := by
  rw [calls] at h
  split at h
  · rcases List.mem_cons.mp h with h | h
    · exact .inl h
    · exact .inr (List.mem_singleton.mp h)
  · exact .inl (List.mem_singleton.mp h)

/-- The calls of the direct clients are made for one of them. -/
theorem Gate.client_of_mem_directCalls {now : Instant} {multi : Bool} {c : Context}
    {clients : List Client} {call : Call} (h : call ∈ directCalls now multi c clients) :
    ∃ client ∈ clients, client.isIndirect = false ∧ call ∈ client.calls now c := by
  induction clients with
  | nil => cases h
  | cons client rest ih =>
      rw [directCalls] at h
      by_cases hi : client.isIndirect = true
      · rw [if_pos hi] at h
        obtain ⟨other, hm, hother⟩ := ih h
        exact ⟨other, List.mem_cons_of_mem _ hm, hother⟩
      · rw [if_neg hi] at h
        -- whatever the client answers, its own calls come first and those of the rest may follow
        have hcons : call ∈ client.calls now c ++ directCalls now multi c rest →
            ∃ other ∈ client :: rest, other.isIndirect = false ∧ call ∈ other.calls now c := by
          intro h
          rcases List.mem_append.mp h with h | h
          · exact ⟨client, List.mem_cons_self, Bool.eq_false_iff.mpr hi, h⟩
          · obtain ⟨other, hm, hother⟩ := ih h
            exact ⟨other, List.mem_cons_of_mem _ hm, hother⟩
        split at h
        · exact hcons h
        · split at h
          · exact hcons h
          · exact hcons (List.mem_append_left _ h)
        · exact hcons (List.mem_append_left _ h)

/-- Direct clients are asked for credentials and for a profile, and for nothing else. -/
theorem Gate.of_mem_directCalls {now : Instant} {multi : Bool} {c : Context}
    {clients : List Client} {call : Call} (h : call ∈ directCalls now multi c clients) :
    ∃ client, call = .fetch client ∨ call = .build client := by
  obtain ⟨client, -, -, hcall⟩ := client_of_mem_directCalls h
  exact ⟨client.name, Client.of_mem_calls hcall⟩

namespace Gate

/-! ## Kinds of events -/

/-- What happens while the first indirect client answers a request of some URL. -/
inductive Redirecting (url : String) : Event → Prop
  | asked (client : String) : Redirecting url (.called (.redirect client))
  | drawn (octets : List UInt8) : Redirecting url (.drawn sessionIdOctets octets)
  | remembered (id : String) (answer : Except Error Unit) :
      Redirecting url (.stored (.set id requestedUrlKey (.str url)) answer)

/-- What happens while the visitor is looked for. -/
inductive Looking : Event → Prop
  | fetched (client : String) : Looking (.called (.fetch client))
  | built (client : String) : Looking (.called (.build client))
  | lookedUp (id : String) (answer : Except Error (Option Json)) :
      Looking (.stored (.get id profilesKey) answer)

/-- What happens until it is known who the visitor is, or that nobody is. -/
inductive Searching (url : String) : Event → Prop
  | looking {event : Event} : Looking event → Searching url event
  | redirecting {event : Event} : Redirecting url event → Searching url event

/-- What happens while a session is moved to a fresh id. -/
inductive Moving : Event → Prop
  | drawn (octets : List UInt8) : Moving (.drawn sessionIdOctets octets)
  | moved (old new : String) (answer : Except Error Unit) : Moving (.stored (.renew old new) answer)

/-- What happens while profiles are remembered. -/
inductive Remembering (profiles : ProfileSet) : Event → Prop
  | moving {event : Event} : Moving event → Remembering profiles event
  | written (id : String) (answer : Except Error Unit) :
      Remembering profiles (.stored (.set id profilesKey profiles.toJson) answer)

/-- What happens once it is known who the visitor is. -/
inductive Concluding (found : Except Error (Attempt ProfileSet)) : Event → Prop
  | asked (name : String) : Concluding found (.called (.authorizer name))
  | remembering {profiles : ProfileSet} {event : Event} : found = .ok (.produced profiles) →
      Remembering profiles event → Concluding found event

end Gate

/-! ## Stages -/

/-- To come to a session id nothing is done but to draw one. -/
theorem Scopes.Ensures.drawn {c c' : Context} {t : List Event} {id : String}
    (h : Ensures c t id c') : ∀ event ∈ t, ∃ octets, event = .drawn sessionIdOctets octets := by
  cases h with
  | kept hs => exact List.forall_mem_nil _
  | issued octets hs => exact List.forall_mem_singleton.mpr ⟨octets, rfl⟩

/-- Ensuring a session leaves the store alone. -/
theorem Scopes.Ensures.idle {c c' : Context} {t : List Event} {id : String}
    (h : Ensures c t id c') : ∀ event ∈ t, event.Idle := by
  intro event hm
  obtain ⟨octets, rfl⟩ := h.drawn event hm
  trivial

namespace Gate

variable {now : Instant} {settings : Settings} {multi : Bool} {clients : List Client}
  {cfg : Config} {p : Parameters} {c c' : Context} {t : List Event} {s : ProfileSet}

/-- Before the search there are calls of matchers only. -/
theorem asksMatchers_events (cfg : Config) (p : Parameters) (c : Context) :
    ∀ event ∈ asksMatchers cfg p c, ∃ name, event = .called (.matcher name) := by
  intro event he
  obtain ⟨call, hcall, rfl⟩ := List.mem_map.mp he
  obtain ⟨name, rfl⟩ := Round.of_mem_calls hcall
  exact ⟨name, rfl⟩

/-- After it there are calls of authorizers only. -/
theorem asksAuthorizers_events (cfg : Config) (p : Parameters) (s : ProfileSet) (c : Context) :
    ∀ event ∈ asksAuthorizers cfg p s c, ∃ name, event = .called (.authorizer name) := by
  intro event he
  obtain ⟨call, hcall, rfl⟩ := List.mem_map.mp he
  obtain ⟨name, rfl⟩ := Round.of_mem_calls hcall
  exact ⟨name, rfl⟩

/-- Direct clients are called as part of the search. -/
theorem directCalls_events (now : Instant) (multi : Bool) (c : Context) (clients : List Client) :
    ∀ event ∈ (directCalls now multi c clients).map Event.called, Looking event := by
  intro event he
  obtain ⟨call, hcall, rfl⟩ := List.mem_map.mp he
  obtain ⟨client, rfl | rfl⟩ := of_mem_directCalls hcall
  · exact .fetched client
  · exact .built client

/-- To look for profiles changes nothing in the store. -/
theorem Looking.idle {event : Event} (h : Looking event) : event.Idle := by
  cases h with
  | fetched client => trivial
  | built client => trivial
  | lookedUp id answer => trivial

/-- To ask a session is to look for profiles. -/
theorem Asks.events {r : Except Error ProfileSet} (h : Asks now c t r) :
    ∀ event ∈ t, Looking event := by
  cases h with
  | nowhere hs => exact List.forall_mem_nil _
  | asked answer hs => exact List.forall_mem_singleton.mpr (.lookedUp _ answer)

theorem Asks.idle {r : Except Error ProfileSet} (h : Asks now c t r) :
    ∀ event ∈ t, event.Idle := fun event hm => (h.events event hm).idle

/-- A redirect writes nothing but the URL that was asked for. -/
theorem Redirects.events {client : Client} {r : Except Error (Attempt ProfileSet)}
    (h : Redirects settings client c t r c') : ∀ event ∈ t, Redirecting c.request.url event := by
  cases h with
  | failed e ha => exact List.forall_mem_singleton.mpr (.asked _)
  | answered a ha hl => exact List.forall_mem_singleton.mpr (.asked _)
  | toldOff a ha hl ht => exact List.forall_mem_singleton.mpr (.asked _)
  | forgotten a ha hl ht hk => exact List.forall_mem_singleton.mpr (.asked _)
  | remembered a answer ha hl ht hk he =>
      refine List.forall_mem_cons.mpr ⟨.asked _, List.forall_mem_append.mpr ⟨?_, ?_⟩⟩
      · intro event hm
        obtain ⟨octets, rfl⟩ := he.drawn event hm
        exact .drawn octets
      · exact List.forall_mem_singleton.mpr (.remembered _ answer)

/-- What comes after the direct clients is still part of the search. -/
theorem Consults.events {indirect : Option Client} {r : Except Error (Attempt ProfileSet)}
    (h : Consults now settings indirect c t r c') : ∀ event ∈ t, Searching c.request.url event := by
  have hasks : ∀ {u : List Event} {held : Except Error ProfileSet}, Asks now c u held →
      ∀ event ∈ u, Searching c.request.url event := fun ha event hm =>
    .looking (ha.events event hm)
  cases h with
  | failed e ha => exact hasks ha
  | known s ha hk => exact hasks ha
  | unknown s ha hk hnone => exact hasks ha
  | sent s client ha hk hcl hr =>
      exact List.forall_mem_append.mpr ⟨hasks ha, fun event hm => .redirecting (hr.events event hm)⟩

/-- The session is asked first, if there is one. -/
theorem Consults.exists_get {indirect : Option Client} {r : Except Error (Attempt ProfileSet)}
    {id : String} (h : Consults now settings indirect c t r c') (hid : c.session = some id) :
    ∃ answer rest, t = .stored (.get id profilesKey) answer :: rest := by
  have hasks : ∀ {u : List Event} {held : Except Error ProfileSet}, Asks now c u held →
      ∃ answer, u = [.stored (.get id profilesKey) answer] := by
    intro u held ha
    cases ha with
    | nowhere hs => cases hid.symm.trans hs
    | asked answer hs =>
        cases hid.symm.trans hs
        exact ⟨answer, rfl⟩
  cases h with
  | failed e ha =>
      obtain ⟨answer, rfl⟩ := hasks ha
      exact ⟨answer, [], rfl⟩
  | known held ha hk =>
      obtain ⟨answer, rfl⟩ := hasks ha
      exact ⟨answer, [], rfl⟩
  | unknown held ha hk hnone =>
      obtain ⟨answer, rfl⟩ := hasks ha
      exact ⟨answer, [], rfl⟩
  | sent held client ha hk hcl hr =>
      obtain ⟨answer, rfl⟩ := hasks ha
      exact ⟨answer, _, rfl⟩

/-- A look-up of profiles that came to something is all that is asked of the session. -/
theorem Consults.of_read {indirect : Option Client} {r : Except Error (Attempt ProfileSet)}
    {id : String} {value : Json} (h : Consults now settings indirect c t r c')
    (hget : .stored (.get id profilesKey) (.ok (some value)) ∈ t)
    (hv : ProfileSet.ofValue now value = .ok s) (hs : s.isEmpty = false) :
    c.session = some id ∧ t = [.stored (.get id profilesKey) (.ok (some value))] ∧
      r = .ok (.produced s) ∧ c' = c := by
  -- the answer of the session is that of the look-up
  have hasks : ∀ {u : List Event} {held : Except Error ProfileSet}, Asks now c u held →
      .stored (.get id profilesKey) (.ok (some value)) ∈ u →
      c.session = some id ∧ u = [.stored (.get id profilesKey) (.ok (some value))] ∧
        held = .ok s := by
    intro u held ha hmem
    cases ha with
    | nowhere hnone => cases hmem
    | asked answer hid =>
        cases List.mem_singleton.mp hmem
        exact ⟨hid, rfl, hv⟩
  cases h with
  | failed e ha =>
      obtain ⟨-, -, hheld⟩ := hasks ha hget
      cases hheld
  | known held ha hk =>
      obtain ⟨hid, ht, hheld⟩ := hasks ha hget
      cases hheld
      exact ⟨hid, ht, rfl, rfl⟩
  | unknown held ha hk hnone =>
      obtain ⟨-, -, hheld⟩ := hasks ha hget
      cases hheld
      cases hs.symm.trans hk
  | sent held client ha hk hcl hr =>
      rcases List.mem_append.mp hget with hget | hget
      · obtain ⟨-, -, hheld⟩ := hasks ha hget
        cases hheld
        cases hs.symm.trans hk
      · cases hr.events _ hget

/-- All of authentication is a search. -/
theorem Authenticates.events {r : Except Error (Attempt ProfileSet)}
    (h : Authenticates now settings multi clients c t r c') :
    ∀ event ∈ t, Searching c.request.url event := by
  have hdirect : ∀ event ∈ (directCalls now multi c clients).map Event.called,
      Searching c.request.url event := fun event hm =>
    .looking (directCalls_events now multi c clients event hm)
  cases h with
  | nobody hnil => exact List.forall_mem_nil _
  | unreadable e hne hn => exact List.forall_mem_nil _
  | earlier s hne hn hs => exact List.forall_mem_nil _
  | directFailed e hne hn hs hd => exact hdirect
  | directAction a hne hn hs hd => exact hdirect
  | direct found hne hn hs hd hf => exact hdirect
  | unasked hne hn hs hd hf hi hsave => exact hdirect
  | session hne hn hs hd hf hi hc => exact List.forall_mem_append.mpr ⟨hdirect, hc.events⟩

/-- To find a visitor nothing is done but to look. -/
theorem Finds.events {source : Source} (h : Finds now multi clients c t s source) :
    ∀ event ∈ t, Looking event := by
  cases h with
  | request hcl hn => exact List.forall_mem_nil _
  | direct hn hs hd => exact directCalls_events _ _ _ _
  | session hn hs hd hf hid hv =>
      exact List.forall_mem_append.mpr ⟨directCalls_events _ _ _ _,
        List.forall_mem_singleton.mpr (.lookedUp _ _)⟩

/-- To find a visitor changes nothing. -/
theorem Finds.idle {source : Source} (h : Finds now multi clients c t s source) :
    ∀ event ∈ t, event.Idle := fun event hm => (h.events event hm).idle

/-- To renew a session is to move it. -/
theorem Renews.events {r : Except Error Unit} (h : Scopes.Renews c t r c') :
    ∀ event ∈ t, Moving event := by
  cases h with
  | kept hi => exact List.forall_mem_nil _
  | issued octets hi hs => exact List.forall_mem_singleton.mpr (.drawn octets)
  | moved octets before _ hi hs =>
      exact List.forall_mem_cons.mpr ⟨.drawn octets,
        List.forall_mem_singleton.mpr (.moved before _ r)⟩

/-- To remember profiles is to move a session and to write them to it. -/
theorem Remembers.events {r : Except Error Bool} (h : Remembers settings s c t r c') :
    ∀ event ∈ t, Remembering s event := by
  have hwrite : ∀ {u : List Event} {id : String} {c c' : Context} (answer : Except Error Unit),
      Scopes.Ensures c u id c' →
      ∀ event ∈ u ++ [.stored (.set id profilesKey s.toJson) answer], Remembering s event := by
    intro u id c c' answer he
    refine List.forall_mem_append.mpr ⟨?_, List.forall_mem_singleton.mpr (.written id answer)⟩
    intro event hm
    obtain ⟨octets, rfl⟩ := he.drawn event hm
    exact .moving (.drawn octets)
  have hmove : ∀ {u : List Event} {moved : Except Error Unit} {c' : Context},
      Scopes.Renews c u moved c' → ∀ event ∈ u, Remembering s event := fun hm event he =>
    .moving (Renews.events hm event he)
  cases h with
  | noted hl hd => exact List.forall_mem_nil _
  | unmoved hl hd hm => exact hmove hm
  | moved answer hl hd hm he =>
      exact List.forall_mem_append.mpr ⟨hmove hm, hwrite answer he⟩
  | kept answer hl he => exact hwrite answer he

/-- After the search, profiles are written only if they were found. -/
theorem Concludes.events {found : Except Error (Attempt ProfileSet)} {r : Except Error Outcome}
    (h : Concludes cfg p c found t r c') : ∀ event ∈ t, Concluding found event := by
  have hasked : ∀ s, ∀ event ∈ asksAuthorizers cfg p s c, Concluding found event := by
    intro s event hm
    obtain ⟨name, rfl⟩ := asksAuthorizers_events cfg p s c event hm
    exact .asked name
  cases h with
  | failed e => exact List.forall_mem_nil _
  | answered a => exact List.forall_mem_nil _
  | unknown => exact List.forall_mem_nil _
  | unjudged e hv => exact hasked _
  | refused a hv ho => exact hasked _
  | passed hv hm =>
      exact List.forall_mem_append.mpr ⟨hasked _,
        fun event he => .remembering rfl (hm.events event he)⟩

/-- What a decision with profiles that pass does to look for the visitor, it does
    while it finds the visitor out. -/
theorem mem_of_looking {u v : List Event} {kept : Except Error Bool} {c₁ : Context} {event : Event}
    (hm : Remembers settings s c₁ v kept c') (hlook : Looking event)
    (h : event ∈ asksMatchers cfg p c ++ (u ++ (asksAuthorizers cfg p s c₁ ++ v))) :
    event ∈ u := by
  rcases List.mem_append.mp h with h | h
  · obtain ⟨_, rfl⟩ := asksMatchers_events cfg p c _ h
    cases hlook
  · rcases List.mem_append.mp h with h | h
    · exact h
    · rcases List.mem_append.mp h with h | h
      · obtain ⟨_, rfl⟩ := asksAuthorizers_events cfg p s c₁ _ h
        cases hlook
      · cases hm.events _ h with
        | moving hmove =>
            cases hmove with
            | drawn octets => cases hlook
            | moved old new answer => cases hlook
        | written id answer => cases hlook

/-! ## Errors

    The gate itself reports nothing but mistakes in how it was put together and
    values that it cannot read.  Any other error was the answer to something that
    stands on the trace. -/

/-- The session store failed with an error. -/
def StoreFails (e : Error) (t : List Event) : Prop := ∃ step, .stored step (.error e) ∈ t

variable {e : Error}

theorem StoreFails.mono {u : List Event} (h : StoreFails e t) (hs : ∀ event ∈ t, event ∈ u) :
    StoreFails e u := h.imp fun _ hmem => hs _ hmem

/-- A session fails to answer if its value cannot be read, or if the store fails. -/
theorem Asks.of_error (h : Asks now c t (.error e)) : e = .json ∨ StoreFails e t := by
  generalize hr : Except.error e = r at h
  cases h with
  | nowhere hs => cases hr
  | asked answer hs =>
      match answer with
      | .error e' =>
          cases hr
          exact .inr ⟨_, List.mem_cons_self⟩
      | .ok none => cases hr
      | .ok (some value) => exact .inl (ProfileSet.ofValue_error hr.symm)

/-- A redirect fails by its client, or by the store. -/
theorem Redirects.of_error {client : Client} (h : Redirects settings client c t (.error e) c') :
    client.redirect c = .error e ∧ .called (.redirect client.name) ∈ t ∨ StoreFails e t := by
  generalize hr : Except.error e = r at h
  cases h with
  | failed e' ha =>
      cases hr
      exact .inl ⟨ha, List.mem_cons_self⟩
  | answered a ha hl => cases hr
  | toldOff a ha hl ht => cases hr
  | forgotten a ha hl ht hk => cases hr
  | remembered a answer ha hl ht hk he =>
      cases answer with
      | ok done => cases hr
      | error e' =>
          cases hr
          exact .inr ⟨_, List.mem_cons_of_mem _ (List.mem_append_right _ List.mem_cons_self)⟩

/-- To renew a session fails by the store alone. -/
theorem Renews.of_error (h : Scopes.Renews c t (.error e) c') : StoreFails e t := by
  cases h with
  | moved octets before _ hi hs => exact ⟨_, List.mem_cons_of_mem _ List.mem_cons_self⟩

/-- Profiles are remembered unless the store fails. -/
theorem Remembers.of_error (h : Remembers settings s c t (.error e) c') : StoreFails e t := by
  generalize hr : Except.error e = r at h
  cases h with
  | noted hl hd => cases hr
  | unmoved hl hd hm =>
      cases hr
      exact Renews.of_error hm
  | moved answer hl hd hm he =>
      cases answer with
      | ok done => cases hr
      | error e' =>
          cases hr
          exact ⟨_, List.mem_append_right _ (List.mem_append_right _ List.mem_cons_self)⟩
  | kept answer hl he =>
      cases answer with
      | ok done => cases hr
      | error e' =>
          cases hr
          exact ⟨_, List.mem_append_right _ List.mem_cons_self⟩

end Gate

end AccessGate
