import AccessGate.Proofs.Restriction

/-! # One profile at a time — what single-profile mode promises

    A decision in single-profile mode takes the first profile that a direct client
    builds and asks no other client.  The mode is chosen for each decision, though,
    while profile sets outlive it, in the request and in the session.  A set that
    is taken up from there is taken up as it is.

    `size_of_granted_iff` says when a grant in this mode holds one profile.
    `size_of_history` says that it always does as long as nobody ever wanted more:
    the invariant `Lone`, at most one profile in a value, is kept by everything that
    a request can do to its context and to the store. -/

namespace AccessGate

/-! ## Values with at most one profile -/

namespace ProfileSet

theorem size_insertAll_le (s : ProfileSet) (entries : List (String × Profile)) :
    (s.insertAll entries).size ≤ s.size + entries.length := by
  have hput : ∀ (key : String) (value : Profile) (l : List (String × Profile)),
      (putInOrder key value l).length ≤ l.length + 1 := by
    intro key value l
    induction l with
    | nil => exact Nat.le_refl 1
    | cons head rest ih =>
        rw [putInOrder]
        split
        · exact Nat.le_succ _
        · exact Nat.succ_le_succ ih
  induction entries generalizing s with
  | nil => exact Nat.le_refl _
  | cons entry rest ih =>
      calc (s.insertAll (entry :: rest)).size
          ≤ (s.insert entry.1 entry.2).size + rest.length := ih (s.insert entry.1 entry.2)
        _ ≤ (s.size + 1) + rest.length := Nat.add_le_add_right (hput entry.1 entry.2 s.entries) _
        _ = s.size + (entry :: rest).length := by rw [List.length_cons]; omega

/-- A part of a set is no larger. -/
theorem size_filter_le (s : ProfileSet) (keep : String × Profile → Bool) :
    (s.filter keep).size ≤ s.size := List.length_filter_le keep s.entries

/-- A value holds at most one profile, if it can be read as profiles at all. -/
def Lone (value : Json) : Prop := ∀ s, ofJson? value = some s → s.size ≤ 1

/-- What is written of a small set is read back as one. -/
theorem lone_toJson {s : ProfileSet} (h : s.size ≤ 1) : Lone s.toJson := by
  intro back hback
  obtain ⟨entries, hentries, rfl⟩ := Option.map_eq_some_iff.mp hback
  have hlength : entries.length = s.size := by
    rw [← List.length_map Prod.fst, keys_of_mapM_readEntry hentries, List.length_map]
    rfl
  calc (ofList entries).size ≤ empty.size + entries.length := size_insertAll_le empty entries
    _ ≤ 1 := by rw [hlength]; exact (Nat.zero_add _).trans_le h

/-- A value that spells one profile at most is read as a set of one at most. -/
theorem Lone.size_le {value : Json} {now : Instant} {s : ProfileSet} (h : Lone value)
    (hs : ofValue now value = .ok s) : s.size ≤ 1 := by
  obtain ⟨full, hfull, rfl⟩ := of_ofValue hs
  exact (size_filter_le full _).trans (h full hfull)

/-- A set with one profile at most, and with one at least, has one. -/
theorem size_eq_one {s : ProfileSet} (hle : s.size ≤ 1) (hs : s.isEmpty = false) : s.size = 1 := by
  have hpos : 0 < s.size := List.length_pos_iff.mpr (List.isEmpty_eq_false_iff.mp hs)
  omega

end ProfileSet

/-! ## What a decision takes up -/

namespace Gate

variable {g : Gate} {config : Option Config} {p : Parameters} {now : Instant} {cfg : Config}
  {c c' : Context} {t : List Event} {s : ProfileSet} {grant : Grant}

/-- A set that a decision does not find out itself: the fresh profiles that are
    noted in the request or, when there are none, those that it read in the session. -/
inductive TakesUp (now : Instant) (c : Context) (t : List Event) : ProfileSet → Prop
  | noted {s : ProfileSet} : c.noted now = .ok s → s.isEmpty = false → TakesUp now c t s
  | stored {stale s : ProfileSet} {id : String} {value : Json} : c.noted now = .ok stale →
      stale.isEmpty = true → .stored (.get id profilesKey) (.ok (some value)) ∈ t →
      ProfileSet.ofValue now value = .ok s → TakesUp now c t s

/-- In single-profile mode a grant holds one profile just when every set that the
    decision takes up does. -/
theorem size_of_granted_iff (hcfg : config = some cfg) (hsingle : wantsMany cfg p = false)
    (h : (g.decide config p now c).Ends t (.ok (.granted grant), c')) :
    grant.profiles.size = 1 ↔ ∀ s, TakesUp now c t s → s.size = 1 := by
  obtain ⟨cfg', clients, u, v, source, hp, hm, -, -, rfl⟩ := (ends_decide h).of_granted
  obtain ⟨registry, parameter, hparts, -⟩ := hp.ready.resolved
  cases hcfg.symm.trans hparts.config
  constructor
  · -- what is taken up is what is granted
    intro hsize s htakes
    cases htakes with
    | noted hn hs =>
        cases hp.found with
        | request hcl hn' =>
            cases hn.symm.trans hn'
            exact hsize
        | direct hn' hnil hd =>
            cases hn.symm.trans hn'
            cases hs.symm.trans hnil
        | session hn' hnil hd hf hid hv =>
            cases hn.symm.trans hn'
            cases hs.symm.trans hnil
    | @stored stale s id value hn hs hread hv =>
        have hget := mem_of_looking hm (.lookedUp id (.ok (some value))) hread
        clear hread
        cases hp.found with
        | request hcl hn' => cases hget
        | direct hn' hnil hd => exact absurd hget (not_stored_called _)
        | session hn' hnil hd hf hid hv' =>
            rcases List.mem_append.mp hget with hget | hget
            · exact absurd hget (not_stored_called _)
            · cases List.mem_singleton.mp hget
              cases hv.symm.trans hv'
              exact hsize
  · intro hall
    cases hp.found with
    | request hcl hn => exact hall _ (.noted hn hp.known)
    | direct hn hnil hd =>
        rw [hsingle] at hd
        exact size_of_directAnswer hd hp.known
    | session hn hnil hd hf hid hv =>
        exact hall _ (.stored hn hnil (List.mem_append_right _ (List.mem_append_left _
          (List.mem_append_right _ List.mem_cons_self))) hv)

/-! A visitor who is known to two clients is let in where several profiles are
    wanted, and comes back to where only one is. -/

/-- A client that knows visitors by what a header field says. -/
def badgeClient (name field : String) : Client where
  name := name
  kind := .direct
  fetch _ c := .ok (.ofOption ((c.request.header? field).map .token))
  build _ credentials _ := .ok (match credentials with
    | .token id => .produced (.ofId id)
    | _ => .absent)

/-- A decision on two such clients, which keeps in the session whom they know. -/
def badgeDecision (multi : Bool) (c : Context) : Plan (Except Error Outcome × Context) :=
  (ofSettings {}).decide
    (some (.ofClients [badgeClient "A" "x-a", badgeClient "B" "x-b"] { saveDirect := true }))
    { (default : Parameters) with multiProfile := some multi } .epoch c

/-- The visit with two badges. -/
def firstVisit : Context :=
  .ofRequest ⟨"GET", .root, [("x-a", "jdoe"), ("x-b", "jroe")], []⟩ none

/-- The visit after it, with no more than the session. -/
def nextVisit : Context :=
  .ofRequest ⟨"GET", .root, [], []⟩ (some (sessionIdOf (List.replicate 32 0)))

/-- The two profiles. -/
def badgeProfiles : ProfileSet :=
  (ProfileSet.single "A" ((Profile.ofId "jdoe").withClientName "A")).insert "B"
    ((Profile.ofId "jroe").withClientName "B")

/-- The store between the visits. -/
def badgeStore : MemoryStore :=
  .ofSession (sessionIdOf (List.replicate 32 0)) [(profilesKey, badgeProfiles.toJson)]

/-- A decision in single-profile mode grants two profiles. -/
theorem several_granted :
    ∃ c₁ c₂,
      ((badgeDecision true firstVisit).run (.still .epoch) (World.ofStore .empty)).1
          = (.ok (.granted ⟨c₁, badgeProfiles, .empty, false⟩), c₁) ∧
        ((badgeDecision true firstVisit).run (.still .epoch) (World.ofStore .empty)).2.store
          = badgeStore ∧
        ((badgeDecision false nextVisit).run (.still .epoch) (World.ofStore badgeStore)).1
          = (.ok (.granted ⟨c₂, badgeProfiles, .empty, true⟩), c₂) ∧
        badgeProfiles.size = 2 :=
  ⟨_, _, rfl, rfl, rfl, rfl⟩

/-- The second grant holds more than one profile because the session does. -/
theorem size_of_granted_iff_several :
    ∃ t grant c', (badgeDecision false nextVisit).Ends t (.ok (.granted grant), c') ∧
      ¬ ∀ s, TakesUp .epoch nextVisit t s → s.size = 1 := by
  let id := sessionIdOf (List.replicate 32 0)
  let c' := (nextVisit.withLoaded true).withProfiles badgeProfiles
  have hends : (badgeDecision false nextVisit).Ends
      [.called (.fetch "A"), .called (.fetch "B"),
        .stored (.get id profilesKey) (.ok (some badgeProfiles.toJson)),
        .stored (.set id profilesKey badgeProfiles.toJson) (.ok ())]
      (.ok (.granted ⟨c', badgeProfiles, .empty, true⟩), c') :=
    ⟨_, rfl, _, rfl, _, _, rfl, _, _, rfl, rfl, rfl⟩
  refine ⟨_, _, _, hends, fun hall => ?_⟩
  have hsize := (size_of_granted_iff rfl rfl hends).mpr hall
  cases hsize

end Gate

/-! ## What is kept in a store -/

namespace MemoryStore

variable {lifetime : Lifetime} {now : Instant} {m m' : MemoryStore} {key : String} {value : Json}

/-- A value is kept at a key in some session, whether that lives or not. -/
def Keeps (m : MemoryStore) (key : String) (value : Json) : Prop :=
  ∃ id s, m.sessions.get? id = some s ∧ s.values.get? key = some value

/-- A value that can be read is one that the store keeps. -/
theorem Keeps.of_get? {id : String} (h : m.get? now id key = some value) : m.Keeps key value := by
  obtain ⟨s, hs, -, hv⟩ := get?_eq_some.mp h
  exact ⟨id, s, hs, hv⟩

/-- After a write the store keeps what it kept, and what was written. -/
private theorem keeps_of_set? {id k : String} {v : Json}
    (h : m.set? lifetime now id k v = some m') (hk : m'.Keeps key value) :
    m.Keeps key value ∨ k = key ∧ v = value := by
  obtain ⟨other, s, hs, hv⟩ := hk
  obtain ⟨deadline, -, hget⟩ := sessions_set? h other
  rw [hget] at hs
  by_cases ho : other = id
  · rw [if_pos ho] at hs
    cases hs
    by_cases hkey : key = k
    · rw [hkey, Dict.get?_insert_self] at hv
      exact .inr ⟨hkey.symm, Option.some.inj hv⟩
    · rw [Dict.get?_insert_of_ne _ _ hkey, get?_valuesAt] at hv
      exact .inl (.of_get? hv)
  · rw [if_neg ho] at hs
    exact .inl ⟨other, s, hs, hv⟩

/-- After a removal it keeps nothing new. -/
private theorem keeps_of_remove {id k : String} (hk : (m.remove id k).Keeps key value) :
    m.Keeps key value := by
  obtain ⟨other, s, hs, hv⟩ := hk
  rw [sessions_remove] at hs
  split at hs
  · obtain ⟨before, hid, rfl⟩ := Option.map_eq_some_iff.mp hs
    rw [Dict.get?_erase] at hv
    split at hv
    · cases hv
    · exact ⟨id, before, hid, hv⟩
  · exact ⟨other, s, hs, hv⟩

/-- What is kept after an event was kept before, or the event wrote it. -/
theorem keeps_of_does {event : Event} (h : Does lifetime now m event m')
    (hk : m'.Keeps key value) :
    m.Keeps key value ∨ ∃ id, event = .stored (.set id key value) (.ok ()) := by
  cases h with
  | fails step e => exact .inl hk
  | drawn count octets => exact .inl hk
  | called call => exact .inl hk
  | works step =>
      cases step with
      | get id k => exact .inl hk
      | set id k v =>
          rw [apply] at hk ⊢
          cases hm : m.set? lifetime now id k v with
          | none =>
              rw [hm] at hk
              exact .inl hk
          | some after =>
              rw [hm] at hk
              rcases keeps_of_set? hm hk with hk | ⟨rfl, rfl⟩
              · exact .inl hk
              · exact .inr ⟨id, rfl⟩
      | remove id k => exact .inl (keeps_of_remove hk)
      | destroy id =>
          obtain ⟨other, s, hs, hv⟩ := hk
          rw [apply, destroy, Dict.get?_erase] at hs
          split at hs
          · cases hs
          · exact .inl ⟨other, s, hs, hv⟩
      | renew old new =>
          obtain ⟨other, s, hs, hv⟩ := hk
          rcases sessions_renew hs with hs | ⟨-, before, hb, hvalues⟩
          · exact .inl ⟨other, s, hs, hv⟩
          · exact .inl ⟨old, before, hb, hvalues ▸ hv⟩

/-- At most one profile is kept in each session. -/
def Lone (m : MemoryStore) : Prop := ∀ value, m.Keeps profilesKey value → ProfileSet.Lone value

/-- What is kept after a trace was kept before, or the trace wrote it. -/
theorem keeps_of_replays {t : List Event} (hr : Replays lifetime now m t m')
    (hk : m'.Keeps key value) :
    m.Keeps key value ∨ ∃ id, .stored (.set id key value) (.ok ()) ∈ t := by
  induction hr with
  | nil => exact .inl hk
  | cons hd _ ih =>
      rcases ih hk with hk | ⟨id, hmem⟩
      · rcases keeps_of_does hd hk with hk | ⟨id, rfl⟩
        · exact .inl hk
        · exact .inr ⟨id, List.mem_cons_self⟩
      · exact .inr ⟨id, List.mem_cons_of_mem _ hmem⟩

/-- Events that write at most one profile keep the invariant. -/
theorem Lone.replays {t : List Event} (h : m.Lone)
    (hw : ∀ id value answer, .stored (.set id profilesKey value) answer ∈ t →
      ProfileSet.Lone value)
    (hr : Replays lifetime now m t m') : m'.Lone := by
  intro value hk
  rcases keeps_of_replays hr hk with hk | ⟨id, hmem⟩
  · exact h value hk
  · exact hw id value _ hmem

end MemoryStore

/-- At most one profile is noted in a request. -/
def Context.Lone (c : Context) : Prop :=
  ∀ value, c.attribute? profilesKey = some value → ProfileSet.Lone value

/-! ## What a part of a request keeps -/

namespace Turn

variable {α β : Type}

/-- A turn keeps at most one profile in its context and in the store, and its
    result has a property. -/
structure Keeps (x : Turn α) (P : α → Prop) : Prop where
  of_ends : ∀ {lifetime : Lifetime} {now : Instant} {m m' : MemoryStore} {c c' : Context}
    {t : List Event} {r : Except Error α}, m.Lone → c.Lone → (x c).Ends t (r, c') →
    MemoryStore.Replays lifetime now m t m' → m'.Lone ∧ c'.Lone ∧ ∀ a, r = .ok a → P a

/-- A turn that only answers keeps stores and contexts as they are. -/
theorem Keeps.pure {P : α → Prop} {a : α} (h : P a) : Keeps (pure a) P := by
  refine ⟨?_⟩
  rintro lifetime now m m' c c' t r hm hc ⟨rfl, hr⟩ hreplays
  cases hr
  rw [MemoryStore.replays_nil.mp hreplays]
  exact ⟨hm, hc, fun b hb => Except.ok.inj hb ▸ h⟩

/-- Turns in a row keep them if each does. -/
theorem Keeps.bind {P : α → Prop} {Q : β → Prop} {x : Turn α} {f : α → Turn β} (hx : x.Keeps P)
    (hf : ∀ a, P a → (f a).Keeps Q) : (x >>= f).Keeps Q := by
  refine ⟨?_⟩
  intro lifetime now m m' c c' t r hm hc h hreplays
  rw [bind_apply] at h
  obtain ⟨t₁, ⟨r₁, c₁⟩, t₂, rfl, h₁, h₂⟩ := Plan.ends_bind.mp h
  obtain ⟨m₁, hr₁, hr₂⟩ := MemoryStore.replays_append.mp hreplays
  obtain ⟨hm₁, hc₁, hP⟩ := hx.of_ends hm hc h₁ hr₁
  cases r₁ with
  | ok a => exact (hf a (hP a rfl)).of_ends hm₁ hc₁ h₂ hr₂
  | error e =>
      -- a part that failed ends the whole
      obtain ⟨rfl, h₂⟩ := h₂
      cases h₂
      rw [MemoryStore.replays_nil.mp hr₂]
      exact ⟨hm₁, hc₁, fun b hb => by cases hb⟩

/-- Less may be known of an answer. -/
theorem Keeps.mono {P Q : α → Prop} {x : Turn α} (hx : x.Keeps P) (h : ∀ a, P a → Q a) :
    x.Keeps Q := by
  refine ⟨?_⟩
  intro lifetime now m m' c c' t r hm hc hends hreplays
  obtain ⟨hm', hc', hP⟩ := hx.of_ends hm hc hends hreplays
  exact ⟨hm', hc', fun a ha => h a (hP a ha)⟩

/-- The context of a request holds one profile at most. -/
theorem keeps_context : context.Keeps Context.Lone := by
  refine ⟨?_⟩
  rintro lifetime now m m' c c' t r hm hc ⟨rfl, hr⟩ hreplays
  cases hr
  rw [MemoryStore.replays_nil.mp hreplays]
  exact ⟨hm, hc, fun a ha => Except.ok.inj ha ▸ hc⟩

/-- A change keeps them if it makes no more of the profiles of a context. -/
theorem keeps_change {f : Context → Context} (h : ∀ c, c.Lone → (f c).Lone) :
    (change f).Keeps fun _ => True := by
  refine ⟨?_⟩
  rintro lifetime now m m' c c' t r hm hc ⟨rfl, hr⟩ hreplays
  cases hr
  rw [MemoryStore.replays_nil.mp hreplays]
  exact ⟨hm, h c hc, fun _ _ => trivial⟩

/-- To draw octets changes nothing. -/
theorem keeps_random (count : Nat) : (random count).Keeps fun _ => True := by
  refine ⟨?_⟩
  rintro lifetime now m m' c c' t r hm hc ⟨octets, rest, rfl, rfl, hr⟩ hreplays
  cases hr
  refine ⟨hm.replays ?_ hreplays, hc, fun _ _ => trivial⟩
  intro id value answer hmem
  cases List.mem_singleton.mp hmem

/-- A store step keeps at most one profile if it writes no more. -/
theorem keeps_store {step : StoreStep}
    (h : ∀ id value, step = .set id profilesKey value → ProfileSet.Lone value) :
    (Turn.store step).Keeps fun _ => True := by
  refine ⟨?_⟩
  rintro lifetime now m m' c c' t r hm hc ⟨answer, rest, rfl, rfl, hr⟩ hreplays
  cases hr
  refine ⟨hm.replays ?_ hreplays, hc, fun _ _ => trivial⟩
  intro id value answer hmem
  cases List.mem_singleton.mp hmem
  exact h id value rfl

end Turn

namespace Context

/-- A context in which one profile was noted holds one at most. -/
theorem Lone.withProfiles {c : Context} {s : ProfileSet} (h : s.size ≤ 1) :
    (c.withProfiles s).Lone := by
  intro value hv
  rw [profiles_withProfiles] at hv
  exact Option.some.inj hv ▸ ProfileSet.lone_toJson h

/-- What is noted of something else than profiles does not count. -/
theorem Lone.setAttribute {c : Context} {name : String} {value : Json} (h : c.Lone)
    (hname : profilesKey ≠ name) : (c.setAttribute name value).Lone := by
  intro v hv
  rw [attribute?, Context.setAttribute, Dict.get?_insert_of_ne _ _ hname] at hv
  exact h v hv

/-- A context without an attribute holds no more than before. -/
theorem Lone.removeAttribute {c : Context} (h : c.Lone) (name : String) :
    (c.removeAttribute name).Lone := by
  intro v hv
  rw [attribute?, Context.removeAttribute, Dict.get?_erase] at hv
  split at hv
  · cases hv
  · exact h v hv

/-- What is read from such a context is one profile at most. -/
theorem Lone.noted {c : Context} {now : Instant} {s : ProfileSet} (h : c.Lone)
    (hn : c.noted now = .ok s) : s.size ≤ 1 := by
  rw [Context.noted] at hn
  cases hv : c.attribute? profilesKey with
  | none =>
      rw [hv] at hn
      cases hn
      exact Nat.zero_le 1
  | some value =>
      rw [hv] at hn
      exact (h value hv).size_le hn

end Context

namespace Scopes

open Turn

/-- To begin a session adds no profile. -/
theorem keeps_ensureSession : ensureSession.Keeps fun _ => True := by
  refine keeps_context.bind fun c _ => ?_
  cases c.session with
  | some id => exact .pure trivial
  | none =>
      refine (keeps_random _).bind fun octets _ => ?_
      exact Keeps.bind (keeps_change fun _ hc => hc) fun _ _ => .pure trivial

/-- One profile at most is read from the request. -/
theorem keeps_loadRequest (now : Instant) : (loadRequest now).Keeps fun s => s.size ≤ 1 := by
  refine ⟨?_⟩
  intro lifetime instant m m' c c' t r hm hc h hreplays
  rw [loadRequest_apply] at h
  obtain ⟨rfl, hr⟩ := h
  cases hr
  rw [MemoryStore.replays_nil.mp hreplays]
  exact ⟨hm, hc, fun s hs => hc.noted hs⟩

/-- One profile at most is read from the session. -/
theorem keeps_loadSession (now : Instant) : (loadSession now).Keeps fun s => s.size ≤ 1 := by
  refine ⟨?_⟩
  intro lifetime instant m m' c c' t r hm hc h hreplays
  obtain ⟨ha, rfl⟩ := Gate.ends_loadSession h
  cases MemoryStore.eq_of_replays_idle hreplays ha.idle
  refine ⟨hm, hc, ?_⟩
  rintro s rfl
  generalize hr : Except.ok s = r at ha
  cases ha with
  | nowhere hs =>
      cases hr
      exact Nat.zero_le 1
  | asked answer hs =>
      match answer with
      | .error e => cases hr
      | .ok none =>
          cases hr
          exact Nat.zero_le 1
      | .ok (some value) =>
          have hget := MemoryStore.get?_of_replays (t := []) hreplays (List.forall_mem_nil _)
          exact (hm value (.of_get? hget)).size_le hr.symm

/-- One profile is saved where one is given. -/
theorem keeps_save {profiles : ProfileSet} (h : profiles.size ≤ 1) (toSession : Bool) :
    (save profiles toSession).Keeps fun _ => True := by
  refine (keeps_change fun _ _ => .withProfiles h).bind fun _ _ => ?_
  cases toSession with
  | false => exact .pure trivial
  | true =>
      refine keeps_ensureSession.bind fun id _ => keeps_store ?_
      rintro _ _ ⟨⟩
      exact ProfileSet.lone_toJson h

/-- A profile that is saved alone replaces all others. -/
theorem keeps_saveProfile (now : Instant) (client : String) (profile : Profile)
    (toSession : Bool) : (saveProfile now client profile toSession false).Keeps fun _ => True :=
  (Keeps.pure (P := fun s : ProfileSet => s = .empty) rfl).bind fun _ hbase =>
    keeps_save (hbase ▸ Nat.le_refl 1) toSession

/-- To remove a client adds no profile. -/
theorem keeps_remove (now : Instant) (client : String) :
    (remove now client).Keeps fun _ => True := by
  refine (keeps_loadRequest now).bind fun request hrequest => ?_
  -- the profiles of the request are written only when there is one to take out
  have hrequest : ∀ x : Turn Unit, x.Keeps (fun _ => True) →
      (if request.contains client then
          (change fun c => c.withProfiles (request.erase client)) >>= fun _ => x
        else x).Keeps fun _ => True := by
    intro x hx
    cases request.contains client with
    | false => exact hx
    | true =>
        refine Keeps.bind (keeps_change fun _ _ => ?_) fun _ _ => hx
        exact .withProfiles ((ProfileSet.size_filter_le _ _).trans hrequest)
  refine hrequest _ (keeps_context.bind fun c _ => ?_)
  cases c.session with
  | none => exact .pure trivial
  | some id =>
      refine (keeps_loadSession now).bind fun session hsession => ?_
      cases session.contains client with
      | false => exact .pure trivial
      | true =>
          refine keeps_store ?_
          rintro _ _ ⟨⟩
          exact ProfileSet.lone_toJson ((ProfileSet.size_filter_le _ _).trans hsession)

theorem keeps_removeAll : removeAll.Keeps fun _ => True := by
  refine (keeps_change fun _ hc => hc.removeAttribute _).bind fun _ _ => ?_
  refine keeps_context.bind fun c _ => ?_
  cases c.session with
  | none => exact .pure trivial
  | some id => exact keeps_store fun _ _ heq => by cases heq

theorem keeps_setLoaded (loaded : Bool) : (setLoaded loaded).Keeps fun _ => True :=
  keeps_change fun _ hc => hc.setAttribute (by decide)

/-- A session that is moved takes its values along and gets no others. -/
theorem keeps_renewSession : renewSession.Keeps fun _ => True := by
  refine keeps_context.bind fun c _ => ?_
  cases c.sessionIssued with
  | true => exact .pure trivial
  | false =>
      have hreplace : replaceSession.Keeps fun _ => True :=
        Keeps.bind (keeps_random _) fun _ _ => keeps_context.bind fun _ _ =>
          Keeps.bind (keeps_change fun _ hc => hc) fun _ _ => .pure trivial
      refine hreplace.bind fun before _ => ?_
      cases before with
      | none => exact .pure trivial
      | some old =>
          exact keeps_ensureSession.bind fun id _ => keeps_store fun _ _ heq => by cases heq

theorem keeps_saveRequestedUrl (url : String) : (saveRequestedUrl url).Keeps fun _ => True := by
  refine keeps_ensureSession.bind fun id _ => keeps_store ?_
  rintro _ _ heq
  injection heq with _ hkey _
  exact absurd hkey (by decide)

end Scopes

namespace Gate

variable {g : Gate} {config : Option Config} {p : Parameters} {now : Instant} {cfg : Config}
  {c c' : Context} {t u : List Event} {s : ProfileSet} {source : Source} {clients : List Client}
  {lifetime : Lifetime} {instant : Instant} {m m' : MemoryStore}

/-- A set that is found in single-profile mode has at most one profile, wherever it is found. -/
private theorem Finds.size_le {calls : List Call} {rest : List Event} (hm : m.Lone) (hc : c.Lone)
    (h : Finds now false clients c u s source) (hs : s.isEmpty = false)
    (hr : MemoryStore.Replays lifetime instant m (calls.map .called ++ (u ++ rest)) m') :
    s.size ≤ 1 := by
  cases h with
  | request hcl hn => exact hc.noted hn
  | direct hn hnil hd => exact (size_of_directAnswer hd hs).le
  | session hn hnil hd hf hid hv =>
      rw [List.append_assoc, ← List.append_assoc] at hr
      exact (hm _ (.of_get? (MemoryStore.get?_of_replays hr
        (List.forall_mem_append.mpr ⟨idle_called _, idle_called _⟩)))).size_le hv

/-- A decision in single-profile mode grants one profile and keeps one at most. -/
theorem keeps_decide (hsingle : ∀ cfg, config = some cfg → wantsMany cfg p = false) :
    (g.decide config p now).Keeps fun outcome =>
      ∀ grant, outcome = .granted grant → grant.profiles.size = 1 := by
  refine ⟨?_⟩
  intro lifetime instant m m' c c' t r hm hc hends hreplays
  rcases (ends_decide hends).passes_or_rests with
    ⟨cfg, clients, u, v, s, source, kept, hp, hremembers, rfl, rfl⟩ | hrests
  · obtain ⟨registry, parameter, hparts, -⟩ := hp.ready.resolved
    have hfound := hp.found
    rw [hsingle cfg hparts.config] at hfound
    have hle : s.size ≤ 1 := hfound.size_le hm hc hp.known hreplays
    refine ⟨hm.replays ?_ hreplays, ?_, ?_⟩
    · intro id value answer hmem
      exact hremembers.eq_of_write hp.found hmem ▸ ProfileSet.lone_toJson hle
    · intro value hvalue
      rcases hremembers.attribute?_eq with hnoted | hsame
      · exact Option.some.inj (hnoted.symm.trans hvalue) ▸ ProfileSet.lone_toJson hle
      · exact hc.setAttribute (by decide) value (hsame.symm.trans hvalue)
    · intro outcome hr grant houtcome
      cases kept with
      | error e => cases hr
      | ok loaded =>
          cases hr
          cases houtcome
          exact ProfileSet.size_eq_one hle hp.known
  · refine ⟨hm.replays (fun id value answer hmem => absurd hmem (hrests.unwritten _ _ _)) hreplays,
      fun value hvalue => hc value (hrests.unnoted.symm.trans hvalue), ?_⟩
    rintro outcome rfl grant rfl
    exact absurd rfl (hrests.ungranted grant)

end Gate

/-! ## Histories -/

/-- What can be done to a request and the session store by those who serve it. -/
inductive Operation where
  | save (profiles : ProfileSet) (toSession : Bool)
  | saveProfile (now : Instant) (client : String) (profile : Profile) (toSession multi : Bool)
  | remove (now : Instant) (client : String)
  | removeAll
  | setLoaded (loaded : Bool)
  | renewSession
  | saveRequestedUrl (url : String)
  | decide (gate : Gate) (config : Option Config) (parameters : Parameters) (now : Instant)

namespace Operation

/-- The turn of an operation. -/
def turn : Operation → Turn Unit
  | .save profiles toSession => Scopes.save profiles toSession
  | .saveProfile now client profile toSession multi =>
      Scopes.saveProfile now client profile toSession multi
  | .remove now client => Scopes.remove now client
  | .removeAll => Scopes.removeAll
  | .setLoaded loaded => Scopes.setLoaded loaded
  | .renewSession => Scopes.renewSession
  | .saveRequestedUrl url => Scopes.saveRequestedUrl url
  | .decide gate config p now => do
      let _ ← gate.decide config p now
      pure ()

/-- Nobody wants more than one profile. -/
def Single : Operation → Prop
  | .save profiles _ => profiles.size ≤ 1
  | .saveProfile _ _ _ _ multi => multi = false
  | .decide _ config p _ => ∀ cfg, config = some cfg → Gate.wantsMany cfg p = false
  | _ => True

/-- Every operation of such a request keeps one profile at most in each place. -/
theorem Single.keeps {op : Operation} (h : op.Single) : op.turn.Keeps fun _ => True := by
  cases op with
  | save profiles toSession => exact Scopes.keeps_save h toSession
  | saveProfile now client profile toSession multi =>
      cases (show multi = false from h)
      exact Scopes.keeps_saveProfile now client profile toSession
  | remove now client => exact Scopes.keeps_remove now client
  | removeAll => exact Scopes.keeps_removeAll
  | setLoaded loaded => exact Scopes.keeps_setLoaded loaded
  | renewSession => exact Scopes.keeps_renewSession
  | saveRequestedUrl url => exact Scopes.keeps_saveRequestedUrl url
  | decide gate config p now => exact (Gate.keeps_decide h).bind fun _ _ => .pure trivial

end Operation

/-- The worlds and the requests that operations lead to, when nobody ever wants
    more than one profile.  Requests come with any session id and take turns in any
    order; every operation has surroundings of its own. -/
inductive History : World → List Context → Prop
  | start : History (World.ofStore .empty) []
  | request {w : World} {cs : List Context} {c : Context} : History w cs →
      c.attribute? profilesKey = none → History w (c :: cs)
  | operation {w : World} {cs : List Context} {c : Context} (op : Operation) (env : Surroundings) :
      History w cs → c ∈ cs → op.Single →
      History ((op.turn c).run env w).2 (((op.turn c).run env w).1.2 :: cs)

/-- One turn of a request keeps the invariant. -/
private theorem Turn.Keeps.run {α : Type} {P : α → Prop} {x : Turn α} (hx : x.Keeps P)
    {env : Surroundings} {w : World} {c : Context} (hm : w.store.Lone) (hc : c.Lone) :
    ((x c).run env w).2.store.Lone ∧ ((x c).run env w).1.2.Lone ∧
      ∀ a, ((x c).run env w).1.1 = .ok a → P a :=
  hx.of_ends hm hc (Plan.ends_trace env (x c) w) (Plan.replays_trace env (x c) w)

/-- The invariant holds of the store and of every request. -/
theorem lone_of_history {w : World} {cs : List Context} (h : History w cs) :
    w.store.Lone ∧ ∀ c ∈ cs, c.Lone := by
  induction h with
  | start =>
      refine ⟨?_, List.forall_mem_nil _⟩
      rintro value ⟨id, s, hs, -⟩
      cases hs
  | request _ hnone ih =>
      refine ⟨ih.1, List.forall_mem_cons.mpr ⟨?_, ih.2⟩⟩
      intro value hv
      cases hnone.symm.trans hv
  | operation op env _ hc hsingle ih =>
      obtain ⟨hm', hc', -⟩ := hsingle.keeps.run ih.1 (ih.2 _ hc)
      exact ⟨hm', List.forall_mem_cons.mpr ⟨hc', ih.2⟩⟩

/-- As long as nobody ever wanted more than one profile, a grant in single-profile
    mode holds exactly one. -/
theorem size_of_history {w : World} {cs : List Context} {c : Context} {g : Gate}
    {config : Option Config} {p : Parameters} {now : Instant} {env : Surroundings} {grant : Grant}
    (h : History w cs) (hc : c ∈ cs)
    (hsingle : ∀ cfg, config = some cfg → Gate.wantsMany cfg p = false)
    (hgrant : ((g.decide config p now c).run env w).1.1 = .ok (.granted grant)) :
    grant.profiles.size = 1 := by
  obtain ⟨hm, hcs⟩ := lone_of_history h
  have hkeeps : (g.decide config p now).Keeps fun outcome =>
      ∀ grant, outcome = .granted grant → grant.profiles.size = 1 := Gate.keeps_decide hsingle
  obtain ⟨-, -, hone⟩ := hkeeps.run hm (hcs c hc)
  exact hone _ hgrant grant rfl

end AccessGate
