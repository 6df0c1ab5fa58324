import AccessGate.Proofs.Decision

/-! # What a grant has passed

    A grant is the one outcome that lets a visitor in, so it must be earned on
    every path.  `Warranted` collects what stands behind a grant: the matchers
    and the authorizers that the decision names, and a source for the profiles.
    `granted_warranted` derives it for every decision that grants, whatever
    the store answers and whatever octets are drawn. -/

namespace AccessGate

namespace Gate

/-- Where the profiles of a grant come from.  `t` is what happened during the
    decision and `c` the context as it stood before. -/
inductive Sourced (now : Instant) (multi : Bool) (clients : List Client) (c : Context)
    (t : List Event) (s : ProfileSet) : Prop
  /-- The set that is noted in the request, without what is stale. -/
  | request {value : Json} {noted : ProfileSet} : c.attribute? profilesKey = some value →
      ProfileSet.ofJson? value = some noted → s = noted.unexpired now →
      Sourced now multi clients c t s
  /-- Profiles that direct clients built during the decision. -/
  | direct : (∀ entry ∈ s.entries, ∃ client ∈ clients, BuiltBy now c client entry ∧
        .called (.build client.name) ∈ t) →
      (multi = false → s.size = 1) →
      Sourced now multi clients c t s
  /-- The set that the session held when the decision began, without what is
      stale: nothing but calls came before the store was asked. -/
  | session {id : String} {value : Json} {stored : ProfileSet} {calls : List Call}
      {rest : List Event} : c.session = some id →
      t = calls.map .called ++ .stored (.get id profilesKey) (.ok (some value)) :: rest →
      ProfileSet.ofJson? value = some stored → s = stored.unexpired now →
      (∀ client ∈ clients, client.isIndirect = false →
        client.answer now c = .ok .absent ∧ .called (.fetch client.name) ∈ t) →
      Sourced now multi clients c t s

/-- All that stands behind a grant. -/
structure Warranted (cfg : Config) (clients : List Client) (p : Parameters) (now : Instant)
    (c : Context) (t : List Event) (grant : Grant) : Prop where
  matched : ∀ text, p.matchers = some text → ∀ name ∈ Text.names text,
    ∃ rule, RuleRegistry.find? cfg.matchers name = some rule ∧ rule.2 c = .ok true ∧
      .called (.matcher rule.1) ∈ t
  known : grant.profiles.isEmpty = false
  /-- The authorizers saw exactly the profiles of the grant. -/
  allowed : ∀ text, p.authorizers = some text → ∀ name ∈ Text.names text,
    ∃ rule, RuleRegistry.find? cfg.authorizers name = some rule ∧
      rule.2 (c.withLoaded grant.loadedFromSession) grant.profiles = .ok .allowed ∧
      .called (.authorizer rule.1) ∈ t
  sourced : Sourced now (wantsMany cfg p) clients c t grant.profiles

end Gate

/-! ## Sources -/

namespace Gate

variable {now : Instant} {multi : Bool} {clients : List Client} {c : Context}

/-- A visitor who was found out has a source, in any trace that the finding is a part of. -/
private theorem Finds.sourced {u rest : List Event} {calls : List Call} {s : ProfileSet}
    {source : Source} (h : Finds now multi clients c u s source) (hs : s.isEmpty = false) :
    Sourced now multi clients c (calls.map .called ++ (u ++ rest)) s := by
  -- a call of the direct clients is a call of the whole
  have hcall : ∀ call ∈ directCalls now multi c clients, ∀ v : List Event,
      Event.called call ∈ calls.map .called ++ ((directCalls now multi c clients).map .called
        ++ v) := by
    intro call hm v
    exact List.mem_append_right _ (List.mem_append_left _ (List.mem_map_of_mem hm))
  cases h with
  | request hcl hn =>
      obtain ⟨value, hv, hof⟩ := Context.of_noted hn hs
      obtain ⟨full, hj, hfull⟩ := ProfileSet.of_ofValue hof
      exact .request hv hj hfull
  | direct hn hne hd =>
      refine .direct ?_ ?_
      -- the round began with nothing, so every entry was built in it
      · intro entry he
        rcases of_directAnswer hd entry he with he | ⟨client, hm, hb, hbuild⟩
        · cases he
        · exact ⟨client, hm, hb, hcall _ hbuild rest⟩
      · intro hmulti
        subst hmulti
        exact size_of_directAnswer hd hs
  | @session noted found s id value hn hne hd hf hid hv =>
      obtain ⟨full, hj, hfull⟩ := ProfileSet.of_ofValue hv
      rw [List.append_assoc]
      -- all that came before the look-up are the calls of the matchers and the clients
      have ht : calls.map Event.called ++ ((directCalls now multi c clients).map .called
          ++ (.stored (.get id profilesKey) (.ok (some value)) :: rest))
          = (calls ++ directCalls now multi c clients).map .called
            ++ .stored (.get id profilesKey) (.ok (some value)) :: rest := by
        rw [List.map_append, List.append_assoc]
      refine .session hid ht hj hfull ?_
      intro client hm hi
      obtain ⟨habsent, hfetch⟩ := absent_of_directAnswer hd hf client hm hi
      exact ⟨habsent, hcall _ hfetch _⟩

/-- No unauthorized access: whoever is granted was earned on every path. -/
theorem granted_warranted {g : Gate} {config : Option Config} {p : Parameters}
    {c' : Context} {t : List Event} {grant : Grant}
    (h : (g.decide config p now c).Ends t (.ok (.granted grant), c')) :
    ∃ cfg clients, Ready g config p c cfg clients ∧ Warranted cfg clients p now c t grant := by
  obtain ⟨cfg, clients, u, v, source, hp, -, hl, -, rfl⟩ := (ends_decide h).of_granted
  refine ⟨cfg, clients, hp.ready, ?_, hp.known, ?_, hp.found.sourced hp.known⟩
  · intro text ht name hn
    obtain ⟨rule, hfind, hmatch, hcall⟩ := Round.of_answer hp.ready.matched text ht name hn
    exact ⟨rule, hfind, hmatch, List.mem_append_left _ (List.mem_map_of_mem hcall)⟩
  · intro text ht name hn
    rw [hl]
    obtain ⟨rule, hfind, hallow, hcall⟩ := Round.of_answer hp.allowed text ht name hn
    refine ⟨rule, hfind, hallow, ?_⟩
    exact List.mem_append_right _ (List.mem_append_right _
      (List.mem_append_left _ (List.mem_map_of_mem hcall)))

/-- The reads of anybody: everybody is known as the visitor whom nobody knows, and only a
    read that comes with a profile passes. -/
def readsConfig : Config :=
  { Config.anonymous {} with
    authorizers := [("Known", fun _ s => .ok (.ofBool (!s.isEmpty)))]
    matchers := [("Reads", Matcher.ofMethods ["GET"])] }

def readsOnly : Parameters :=
  { (default : Parameters) with authorizers := some "known", matchers := some "reads," }

def aRead : Context := .ofRequest ⟨"GET", .root, [], []⟩ none

/-- A read of nobody in particular is granted, and has passed the matcher, the
    direct client and the authorizer on its way. -/
theorem granted_warranted_read :
    ∃ t grant, ((ofSettings {}).decide (some readsConfig) readsOnly .epoch aRead).Ends t
        (.ok (.granted grant), grant.context) ∧
      ∃ cfg clients, Ready (ofSettings {}) (some readsConfig) readsOnly aRead cfg clients ∧
        Warranted cfg clients readsOnly .epoch aRead t grant := by
  let known := Profile.anonymous.withClientName "AnonymousClient"
  let grant : Grant := ⟨(aRead.withLoaded false).withProfiles (.single "AnonymousClient" known),
    .single "AnonymousClient" known, .empty, false⟩
  let t : List Event := [.called (.matcher "Reads"), .called (.fetch "AnonymousClient"),
    .called (.build "AnonymousClient"), .called (.authorizer "Known")]
  have h : ((ofSettings {}).decide (some readsConfig) readsOnly .epoch aRead).Ends t
      (.ok (.granted grant), grant.context) := ⟨_, rfl, _, rfl, _, rfl, _, rfl, rfl, rfl⟩
  exact ⟨t, grant, h, granted_warranted h⟩

end Gate

end AccessGate
