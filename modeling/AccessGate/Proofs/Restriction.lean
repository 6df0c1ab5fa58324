import AccessGate.Proofs.Provenance

/-! # Which clients a grant rests on, over the decisions of one request

    A decision names the clients that take part in it.  It does not ask them when
    an earlier decision of the same request has found out who the visitor is: the
    profiles that were noted then are taken up as they are, whichever clients they
    come from.  So a list of clients binds the decision that asks, and not those
    that take up its profiles.

    `granted_named` says whose list a grant of direct profiles does rest on: that of
    the decision itself when nothing fresh was noted, else that of one before it. -/

namespace AccessGate

/-! ## Names through the wire form -/

namespace ProfileSet

/-- The profiles of a set come from clients of a list. -/
def Named (clients : List Client) (s : ProfileSet) : Prop :=
  ∀ name ∈ s.clients, ∃ client ∈ clients, client.isIndirect = false ∧ client.name = name

theorem mem_clients_insertAll {s : ProfileSet} {entries : List (String × Profile)} {name : String}
    (h : name ∈ (s.insertAll entries).clients) :
    name ∈ s.clients ∨ name ∈ entries.map Prod.fst := by
  induction entries generalizing s with
  | nil => exact .inl h
  | cons entry rest ih =>
      rcases ih h with h | h
      · rcases mem_keys_putInOrder h with rfl | h
        · exact .inr List.mem_cons_self
        · exact .inl h
      · exact .inr (List.mem_cons_of_mem _ h)

/-- Entries that are read back stand at the clients at which they were written. -/
theorem keys_of_mapM_readEntry {entries read : List (String × Profile)}
    (h : (entries.map fun e => Json.arr [.str e.1, e.2.toJson]).mapM readEntry = some read) :
    read.map Prod.fst = entries.map Prod.fst := by
  induction entries generalizing read with
  | nil =>
      cases h
      rfl
  | cons entry rest ih =>
      rw [List.map_cons, List.mapM_cons] at h
      obtain ⟨first, hfirst, h⟩ := Option.bind_eq_some_iff.mp h
      obtain ⟨others, hothers, h⟩ := Option.bind_eq_some_iff.mp h
      obtain ⟨profile, -, rfl⟩ := Option.map_eq_some_iff.mp hfirst
      cases h
      exact congrArg (entry.1 :: ·) (ih hothers)

theorem clients_unexpired (s : ProfileSet) (now : Instant) :
    ∀ name ∈ (s.unexpired now).clients, name ∈ s.clients :=
  fun _ h => (List.filter_sublist.map Prod.fst).subset h

/-- What is read back of a set comes from its clients. -/
theorem clients_of_toJson {s back : ProfileSet} {now : Instant}
    (hback : ofValue now s.toJson = .ok back) : ∀ name ∈ back.clients, name ∈ s.clients := by
  obtain ⟨full, hfull, rfl⟩ := of_ofValue hback
  obtain ⟨entries, hentries, rfl⟩ := Option.map_eq_some_iff.mp hfull
  intro name hname
  rcases mem_clients_insertAll (clients_unexpired _ now name hname) with hmem | hmem
  · cases hmem
  · rw [keys_of_mapM_readEntry hentries] at hmem
    exact hmem

/-- Profiles that are read back come from clients from which they were written. -/
theorem Named.of_toJson {clients : List Client} {s back : ProfileSet} {now : Instant}
    (h : s.Named clients) (hback : ofValue now s.toJson = .ok back) : back.Named clients :=
  fun name hname => h name (clients_of_toJson hback name hname)

end ProfileSet

namespace Gate

/-! ## The decisions of a request -/

/-- One decision of a request: the gate, what it was asked, when, and the context
    as it stood before. -/
structure Use where
  gate : Gate
  config : Option Config
  parameters : Parameters
  now : Instant
  before : Context

/-- The clients of a list take part in a decision. -/
def Use.Resolves (use : Use) (clients : List Client) : Prop :=
  ∃ cfg, Ready use.gate use.config use.parameters use.before cfg clients

/-- The decisions of a request one after the other, from a context in which
    nothing is noted: all of them, the time of the last one and the context it left. -/
inductive Uses : List Use → Instant → Context → Prop
  | start (now : Instant) {c : Context} : c.attributes = .empty → Uses [] now c
  | decision {uses : List Use} {last now : Instant} {c c' : Context} {t : List Event} {g : Gate}
      {config : Option Config} {p : Parameters} {r : Except Error Outcome} :
      Uses uses last c → now.before last = false → (g.decide config p now c).Ends t (r, c') →
      Uses (uses ++ [⟨g, config, p, now, c⟩]) now c'

/-- Noted profiles that do not count as loaded come from the clients of one of the
    decisions, as long as they are fresh. -/
def Rested (uses : List Use) (last : Instant) (c : Context) : Prop :=
  ∀ now s, now.before last = false → c.noted now = .ok s → s.isEmpty = false →
    c.saysLoaded = false → ∃ use ∈ uses, ∃ clients, use.Resolves clients ∧ s.Named clients

variable {g : Gate} {config : Option Config} {p : Parameters} {last now : Instant} {cfg : Config}
  {multi : Bool} {clients : List Client} {c c' : Context} {t u : List Event} {s : ProfileSet}
  {source : Source} {r : Except Error Outcome} {uses : List Use}

/-- What direct clients built in a decision comes from the clients of its list. -/
theorem named_of_directAnswer
    (h : directAnswer now multi c clients .empty = .ok (.profiles s)) : s.Named clients := by
  intro name hname
  obtain ⟨entry, he, rfl⟩ := List.mem_map.mp hname
  rcases of_directAnswer h entry he with he | ⟨client, hm, ⟨hdirect, -, hkey, -⟩, -⟩
  · cases he
  · exact ⟨client, hm, hdirect, hkey.symm⟩

/-- One decision keeps noted profiles resting on the clients of some decision. -/
theorem Decides.rested (h : Decides g config p now c t r c') (hnow : now.before last = false)
    (hrest : Rested uses last c) : Rested (uses ++ [⟨g, config, p, now, c⟩]) now c' := by
  intro later s hlater hn hs hl
  have hearlier : (∃ use ∈ uses, ∃ clients, use.Resolves clients ∧ s.Named clients) →
      ∃ use ∈ uses ++ [⟨g, config, p, now, c⟩], ∃ clients, use.Resolves clients ∧ s.Named clients :=
    fun ⟨use, hmem, hrests⟩ => ⟨use, List.mem_append_left _ hmem, hrests⟩
  rcases h.notes with hsame | ⟨cfg, clients, u, noted, source, hp, hattr, hmark⟩
  · -- the profiles were noted and fresh before, so the flag is as it was
    have hn' : c.noted later = .ok s := by
      rw [Context.noted, ← hsame]
      exact hn
    by_cases hempty : ∃ cfg, Ready g config p c cfg []
    · obtain ⟨cfg, hready⟩ := hempty
      cases hl.symm.trans (h.of_emptied hready)
    · obtain ⟨before, hbefore, hne⟩ := Context.noted_mono hlater hn' hs
      have hmark := h.saysLoaded_eq (fun cfg hready => hempty ⟨cfg, hready⟩) hbefore hne
      exact hearlier (hrest later s (Instant.not_before_trans hnow hlater) hn' hs
        (hmark.symm.trans hl))
  · -- the profiles passed in this decision
    have hback : ProfileSet.ofValue later noted.toJson = .ok s := by
      rw [Context.noted, hattr] at hn
      exact hn
    have hflag : source.saysLoaded c = false := hmark.symm.trans hl
    cases hp.found with
    | session hn' hnil hd hf hid hv => cases hflag
    | direct hn' hnil hd =>
        refine ⟨_, List.mem_append_right _ List.mem_cons_self, clients, ⟨cfg, hp.ready⟩, ?_⟩
        exact (named_of_directAnswer hd).of_toJson hback
    | request hcl hn' =>
        obtain ⟨use, hmem, clients', hres, hnamed⟩ := hrest now noted hnow hn' hp.known hflag
        exact hearlier ⟨use, hmem, clients', hres, hnamed.of_toJson hback⟩

/-- Whatever the decisions of a request were, the noted profiles rest on one of them. -/
theorem Uses.rested (h : Uses uses last c) : Rested uses last c := by
  induction h with
  | start now hempty =>
      intro later s _ hn hs
      rw [Context.noted, Context.attribute?, hempty] at hn
      cases hn
      cases hs
  | decision _ hnow hends ih => exact (ends_decide hends).rested hnow ih

/-- A grant of profiles that do not come from the session rests on the clients of
    one decision of the request: of the one that grants, when nothing fresh was
    noted before it; else the profiles are the noted ones, and rest on an earlier
    decision, whatever clients take part in this one. -/
theorem granted_named {grant : Grant} (h : Uses uses last c) (hnow : now.before last = false)
    (hends : (g.decide config p now c).Ends t (.ok (.granted grant), c'))
    (hloaded : grant.loadedFromSession = false) :
    ∃ clients, Use.Resolves ⟨g, config, p, now, c⟩ clients ∧
      ((∃ stale, c.noted now = .ok stale ∧ stale.isEmpty = true) ∧ grant.profiles.Named clients ∨
        c.noted now = .ok grant.profiles ∧
          ∃ use ∈ uses, ∃ clients', use.Resolves clients' ∧ grant.profiles.Named clients') := by
  obtain ⟨cfg, clients, u, v, source, hp, -, hl, -, -⟩ := (ends_decide hends).of_granted
  refine ⟨clients, ⟨cfg, hp.ready⟩, ?_⟩
  have hflag : source.saysLoaded c = false := hl.symm.trans hloaded
  cases hp.found with
  | session hn hnil hd hf hid hv => cases hflag
  | direct hn hnil hd => exact .inl ⟨⟨_, hn, hnil⟩, named_of_directAnswer hd⟩
  | request hcl hn => exact .inr ⟨hn, h.rested now _ hnow hn hp.known hflag⟩

/-! A request is let in by the client of visitors whom nobody knows, then decided
    on for a client that knows nobody. -/

/-- A request that names no client. -/
def openRequest : Context := .ofRequest ⟨"GET", .root, [], []⟩ none

def openVisitor : ProfileSet :=
  .single "AnonymousClient" (Profile.anonymous.withClientName "AnonymousClient")

/-- The context of that request when the visitor has passed. -/
def openPassed (c : Context) : Context := (c.withLoaded false).withProfiles openVisitor

/-- The second decision, on what the first one left. -/
def restrictedUse : Use :=
  ⟨.ofSettings {}, some openConfig,
    { (default : Parameters) with clients := some "Strangers" }, .epoch, openPassed openRequest⟩

theorem restrictedUse_resolves : restrictedUse.Resolves [strangers] :=
  ⟨_, ⟨_, _, ⟨rfl, rfl, rfl, rfl, rfl⟩, rfl⟩, rfl⟩

/-- A decision for one client is granted on a profile of another, that an earlier
    decision of the request noted. -/
theorem restriction_outlived :
    ∃ c₁ c₂ w₁ w₂,
      (decisionFor "AnonymousClient" openRequest).run (.still .epoch) (World.ofStore .empty)
          = ((.ok (.granted ⟨c₁, openVisitor, .empty, false⟩), c₁), w₁) ∧
        (decisionFor "Strangers" c₁).run (.still .epoch) w₁
          = ((.ok (.granted ⟨c₂, openVisitor, .empty, false⟩), c₂), w₂) ∧
        c₁ = restrictedUse.before ∧ restrictedUse.Resolves [strangers] ∧
        openVisitor.clients = ["AnonymousClient"] ∧ strangers.name ≠ "AnonymousClient" :=
  ⟨_, _, _, _, rfl, rfl, rfl, restrictedUse_resolves, rfl, by decide⟩

/-- The same decisions: the second grant rests on the clients of the first. -/
theorem granted_named_open :
    ∃ uses t grant c', Uses uses .epoch (openPassed openRequest) ∧
      (decisionFor "Strangers" (openPassed openRequest)).Ends t (.ok (.granted grant), c') ∧
      grant.loadedFromSession = false ∧
      ∃ use ∈ uses, ∃ clients, use.Resolves clients ∧ grant.profiles.Named clients := by
  have hfirst : (decisionFor "AnonymousClient" openRequest).Ends
      [.called (.fetch "AnonymousClient"), .called (.build "AnonymousClient")]
      (.ok (.granted ⟨openPassed openRequest, openVisitor, .empty, false⟩),
        openPassed openRequest) := ⟨_, rfl, _, rfl, rfl, rfl⟩
  have huses := Uses.decision (.start .epoch (c := openRequest) rfl) rfl hfirst
  have hsecond : (decisionFor "Strangers" (openPassed openRequest)).Ends []
      (.ok (.granted ⟨openPassed (openPassed openRequest), openVisitor, .empty, false⟩),
        openPassed (openPassed openRequest)) := ⟨rfl, rfl⟩
  obtain ⟨clients, -, hnamed⟩ := granted_named huses rfl hsecond rfl
  refine ⟨_, _, _, _, huses, hsecond, rfl, ?_⟩
  rcases hnamed with ⟨⟨stale, hn, hs⟩, -⟩ | ⟨-, hrests⟩
  · cases hn
    cases hs
  · exact hrests

end Gate

end AccessGate
