import AccessGate.Proofs.Mistakes

/-! # Stale profiles — the one way into a grant

    A profile with an end is dropped after it wherever profiles are read, from the
    request and from the session alike.  What a direct client has just built is read
    from nowhere, and nobody looks at its end.

    `mem_stale_iff` says that this is the only way: the stale profiles of a grant
    are those that direct clients built in the very decision that grants.  That
    every one of them is there rests on the names of the clients: no other client
    has the name of one, so nothing takes its place. -/

namespace AccessGate

/-! ## What is dropped, and what is kept -/

/-- Nothing that is read at an instant is stale then. -/
theorem ProfileSet.isExpired_of_mem_unexpired {s : ProfileSet} {now : Instant}
    {entry : String × Profile} (h : entry ∈ (s.unexpired now).entries) :
    entry.2.isExpired now = false :=
  (Bool.not_eq_true' _).mp (List.mem_filter.mp h).2

theorem ProfileSet.isExpired_of_ofValue {value : Json} {s : ProfileSet} {now : Instant}
    (h : ofValue now value = .ok s) {entry : String × Profile} (he : entry ∈ s.entries) :
    entry.2.isExpired now = false := by
  obtain ⟨full, -, rfl⟩ := of_ofValue h
  exact isExpired_of_mem_unexpired he

theorem mem_putInOrder_self {α : Type} (key : String) (value : α) (l : List (String × α)) :
    (key, value) ∈ putInOrder key value l := by
  induction l with
  | nil => exact List.mem_cons_self
  | cons head rest ih =>
      obtain ⟨k, v⟩ := head
      rw [putInOrder]
      split
      · exact List.mem_cons_self
      · exact List.mem_cons_of_mem _ ih

/-- An entry stays when nothing else is put in its place. -/
theorem mem_putInOrder_of_mem {α : Type} {key : String} {value : α} {l : List (String × α)}
    {e : String × α} (he : e ∈ l) (hsame : e.1 = key → e.2 = value) :
    e ∈ putInOrder key value l := by
  by_cases hkey : e.1 = key
  · rw [show e = (key, value) from Prod.ext hkey (hsame hkey)]
    exact mem_putInOrder_self key value l
  · induction l with
    | nil => cases he
    | cons head rest ih =>
        obtain ⟨k, v⟩ := head
        rw [putInOrder]
        rcases List.mem_cons.mp he with rfl | he
        · rw [if_neg hkey]
          exact List.mem_cons_self
        · split
          · exact List.mem_cons_of_mem _ he
          · exact List.mem_cons_of_mem _ (ih he)

/-! ## Clients of one name -/

namespace ClientRegistry

/-- A client is known by its name. -/
theorem eq_of_name {r : ClientRegistry} {a b : Client} (ha : a ∈ r.clients) (hb : b ∈ r.clients)
    (hab : a.name = b.name) : a = b := by
  have hbears : r.Bears b.name a := ⟨ha, hab ▸ Text.sameName_self a.name⟩
  exact eq_of_bears hbears ⟨hb, Text.sameName_self b.name⟩

theorem mem_of_resolve {r : ClientRegistry} {parameter : String} {request : Request}
    {list : Option String} {clients : List Client}
    (h : r.resolve parameter request list = .ok clients) :
    ∀ client ∈ clients, client ∈ r.clients := by
  rcases r.resolve_cases parameter request list with he | ⟨name, he⟩ | ⟨found, hf, hmem⟩
  · cases h.symm.trans he
  · cases h.symm.trans he
  · cases h.symm.trans hf
    exact hmem

end ClientRegistry

namespace Gate

variable {g : Gate} {config : Option Config} {p : Parameters} {now : Instant} {multi : Bool}
  {clients : List Client} {client : Client} {c c' : Context} {t u : List Event}
  {found s : ProfileSet} {profile : Profile} {source : Source}

/-! ## What direct clients built -/

/-- A profile that was found stays, as long as only its own client could replace it. -/
private theorem mem_of_directAnswer_of_mem
    (h : directAnswer now multi c clients found = .ok (.profiles s))
    (hproduced : client.answer now c = .ok (.produced profile))
    (hsame : ∀ other ∈ clients, other.name = client.name → other = client)
    (hmem : (client.name, profile) ∈ found.entries) : (client.name, profile) ∈ s.entries := by
  induction clients generalizing found with
  | nil =>
      cases h
      exact hmem
  | cons first rest ih =>
      obtain ⟨hfirst, hrest⟩ := List.forall_mem_cons.mp hsame
      rw [directAnswer] at h
      split at h
      · exact ih h hrest hmem
      · split at h
        · cases h
        · exact ih h hrest hmem
        · cases h
        · next q hq =>
          have hkept : (client.name, profile) ∈ (found.insert first.name q).entries := by
            refine mem_putInOrder_of_mem hmem fun hname => ?_
            rw [hfirst hname.symm, hproduced] at hq
            cases hq
            rfl
          split at h
          · exact ih h hrest hkept
          · cases h
            exact hkept

/-- Every profile that a direct client built in a round is found by it. -/
private theorem mem_of_directAnswer
    (h : directAnswer now multi c clients found = .ok (.profiles s))
    (hm : client ∈ clients) (hdirect : client.isIndirect = false)
    (hproduced : client.answer now c = .ok (.produced profile))
    (hsame : ∀ other ∈ clients, other.name = client.name → other = client)
    (hcall : .build client.name ∈ directCalls now multi c clients) :
    (client.name, profile) ∈ s.entries := by
  induction clients generalizing found with
  | nil => cases hm
  | cons first rest ih =>
      obtain ⟨hfirst, hrest⟩ := List.forall_mem_cons.mp hsame
      -- a call of the first client to build with this name is one of this client
      have hself : .build client.name ∈ first.calls now c → first = client := by
        intro hcall
        rcases Client.of_mem_calls hcall with heq | heq
        · cases heq
        · exact hfirst (Call.build.inj heq).symm
      rw [directAnswer] at h
      rw [directCalls] at hcall
      by_cases hi : first.isIndirect = true
      · rw [if_pos hi] at h hcall
        rcases List.mem_cons.mp hm with rfl | hm
        · cases hdirect.symm.trans hi
        · exact ih h hm hrest hcall
      · rw [if_neg hi] at h hcall
        cases ha : first.answer now c with
        | error e => rw [ha] at h; cases h
        | ok outcome =>
            rw [ha] at h hcall
            cases outcome with
            | action a => cases h
            | absent =>
                have hne : first ≠ client := by
                  rintro rfl
                  cases ha.symm.trans hproduced
                have hm : client ∈ rest := (List.mem_cons.mp hm).resolve_left hne.symm
                exact ih h hm hrest
                  ((List.mem_append.mp hcall).resolve_left fun hown => hne (hself hown))
            | produced q =>
                cases multi with
                | false =>
                    -- the round ended with this client
                    cases h
                    obtain rfl := hself hcall
                    cases ha.symm.trans hproduced
                    exact mem_putInOrder_self _ _ _
                | true =>
                    by_cases heq : first = client
                    · subst heq
                      cases ha.symm.trans hproduced
                      exact mem_of_directAnswer_of_mem h hproduced hrest (mem_putInOrder_self _ _ _)
                    · have hm : client ∈ rest := (List.mem_cons.mp hm).resolve_left (Ne.symm heq)
                      exact ih h hm hrest
                        ((List.mem_append.mp hcall).resolve_left fun hown => heq (hself hown))

/-! ## Stale profiles -/

/-- The stale profiles of a grant are those that direct clients built in the
    decision that grants. -/
theorem mem_stale_iff {cfg : Config} {registry : ClientRegistry} {grant : Grant}
    {entry : String × Profile} (hcfg : config = some cfg) (hreg : cfg.clients = some registry)
    (h : (g.decide config p now c).Ends t (.ok (.granted grant), c'))
    (hstale : entry.2.isExpired now = true) :
    entry ∈ grant.profiles.entries ↔
      ∃ client ∈ registry.clients, BuiltBy now c client entry ∧
        .called (.build client.name) ∈ t := by
  obtain ⟨cfg', clients, u, v, source, hp, hm, -, -, rfl⟩ := (ends_decide h).of_granted
  obtain ⟨registry', parameter, hparts, hres⟩ := hp.ready.resolved
  cases hcfg.symm.trans hparts.config
  cases hreg.symm.trans hparts.clients
  have hregistered := ClientRegistry.mem_of_resolve hres
  constructor
  · intro he
    cases hp.found with
    | request hcl hn =>
        obtain ⟨value, -, hv⟩ := Context.of_noted hn hp.known
        cases hstale.symm.trans (ProfileSet.isExpired_of_ofValue hv he)
    | session hn hnil hd hf hid hv =>
        cases hstale.symm.trans (ProfileSet.isExpired_of_ofValue hv he)
    | direct hn hnil hd =>
        rcases of_directAnswer hd entry he with he | ⟨client, hc, hbuilt, hcall⟩
        · cases he
        · exact ⟨client, hregistered client hc, hbuilt, List.mem_append_right _
            (List.mem_append_left _ (List.mem_map_of_mem hcall))⟩
  · rintro ⟨client, hc, ⟨hdirect, hproduced, hkey, -⟩, hevent⟩
    have hcall := mem_of_looking hm (.built _) hevent
    clear hevent
    -- the client that was asked to build is one of those that take part
    have htakes : .build client.name ∈ directCalls now (wantsMany cfg p) c clients →
        client ∈ clients := by
      intro hbuild
      obtain ⟨other, ho, -, hother⟩ := client_of_mem_directCalls hbuild
      rcases Client.of_mem_calls hother with heq | heq
      · cases heq
      · exact ClientRegistry.eq_of_name hc (hregistered other ho) (Call.build.inj heq) ▸ ho
    cases hp.found with
    | request hcl hn => cases hcall
    | session hn hnil hd hf hid hv =>
        rcases List.mem_append.mp hcall with hcall | hcall
        · have hbuild := mem_of_called hcall
          cases hproduced.symm.trans (absent_of_directAnswer hd hf client (htakes hbuild) hdirect).1
        · cases List.mem_singleton.mp hcall
    | direct hn hnil hd =>
        have hbuild := mem_of_called hcall
        obtain ⟨name, profile⟩ := entry
        cases hkey
        exact mem_of_directAnswer hd (htakes hbuild) hdirect hproduced
          (fun other ho hname => ClientRegistry.eq_of_name (hregistered other ho) hc hname) hbuild

/-! A client builds profiles that ended long ago. -/

/-- A client whose profiles are stale from the start. -/
def staleClient : Client where
  name := "A"
  kind := .direct
  fetch _ _ := .ok (.produced (.token "jdoe"))
  build _ _ _ := .ok (.produced ((Profile.ofId "jdoe").withExpiry (.mk 946684800 0)))

/-- The profile that it builds. -/
def staleProfile : Profile :=
  ((Profile.ofId "jdoe").withExpiry (.mk 946684800 0)).withClientName "A"

/-- A decision that asks it, a quarter of a century later. -/
def staleDecision : Plan (Except Error Outcome × Context) :=
  (ofSettings {}).decide (some (.ofClients [staleClient] {})) default (.mk 1735689600 0) plainRequest

/-- The request of a visitor who passed with the stale profile. -/
def stalePassed : Context := (plainRequest.withLoaded false).withProfiles (.single "A" staleProfile)

theorem staleDecision_ends :
    staleDecision.Ends [.called (.fetch "A"), .called (.build "A")]
      (.ok (.granted ⟨stalePassed, .single "A" staleProfile, .empty, false⟩), stalePassed) :=
  ⟨_, rfl, _, rfl, rfl, rfl⟩

/-- The stale profile earns a grant. -/
theorem stale_granted :
    (staleDecision.run (.still (.mk 1735689600 0)) (World.ofStore .empty)).1
        = (.ok (.granted ⟨stalePassed, .single "A" staleProfile, .empty, false⟩), stalePassed) ∧
      staleProfile.expiresAt = some (.mk 946684800 0) ∧
      Instant.before (.mk 946684800 0) (.mk 1735689600 0) = true :=
  ⟨rfl, rfl, by decide⟩

/-- The grant holds it because the client built it in that decision. -/
theorem mem_stale_iff_built :
    ("A", staleProfile) ∈ (ProfileSet.single "A" staleProfile).entries ∧
      staleProfile.isExpired (.mk 1735689600 0) = true := by
  have hbuilt : BuiltBy (.mk 1735689600 0) plainRequest staleClient ("A", staleProfile) :=
    ⟨rfl, rfl, rfl, rfl⟩
  refine ⟨(mem_stale_iff rfl rfl staleDecision_ends (by decide)).mpr ?_, by decide⟩
  exact ⟨staleClient, List.mem_cons_self, hbuilt, List.mem_cons_of_mem _ List.mem_cons_self⟩

end Gate

end AccessGate
