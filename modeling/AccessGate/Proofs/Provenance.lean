import AccessGate.Proofs.Fixation
import AccessGate.Proofs.Issue

/-! # Direct profiles and the session, over the decisions of one request

    Several decisions may be made on one request, and a later one takes up the
    profiles that an earlier one noted.  Those that direct clients built are to
    stay out of the session unless the settings ask for it.  What decides is a
    flag in the context that EVERY decision overwrites, while the profiles stay.

    `Served` follows the decisions of a request and keeps, beside the context,
    the origin of the noted profiles: a record of the run that no decision reads.
    The flag agrees with that record (`Served.saysLoaded_eq`) but for one thing.
    A decision for which no client takes part sets the flag and leaves the
    profiles, so from then on they count as loaded from the session.
    `apart_iff` says that this doubt is all that can go wrong. -/

namespace AccessGate

/-- Where the noted profiles come from.  Direct ones are in doubt when a decision
    for which no client took part came since they were noted. -/
inductive Origin where
  | nothing
  | session
  | direct (doubted : Bool)
  deriving DecidableEq, Repr

/-- A decision for which no client takes part. -/
def Origin.doubt : Origin → Origin
  | .direct _ => .direct true
  | other => other

/-- The origin of profiles of a source, when those noted before have an origin. -/
def Gate.Source.origin (o : Origin) : Gate.Source → Origin
  | .request => o
  | .direct => .direct false
  | .session => .session

namespace Gate

/-- What one decision makes of the origin of the noted profiles. -/
inductive Leaves (g : Gate) (config : Option Config) (p : Parameters) (now : Instant)
    (c c' : Context) (o : Origin) : Origin → Prop
  /-- No client takes part. -/
  | emptied {cfg : Config} : Ready g config p c cfg [] → Leaves g config p now c c' o o.doubt
  /-- Profiles pass and are noted. -/
  | noted {cfg : Config} {clients : List Client} {u : List Event} {s : ProfileSet}
      {source : Source} : Passes g config p now c cfg clients u s source →
      c'.attribute? profilesKey = some s.toJson →
      Leaves g config p now c c' o (source.origin o)
  /-- What was noted stays. -/
  | kept : (∀ cfg, ¬ Ready g config p c cfg []) →
      c'.attribute? profilesKey = c.attribute? profilesKey →
      Leaves g config p now c c' o o

/-- The decisions of a request one after the other, from a context in which
    nothing is noted: all that happened, the time of the last one, the context it
    left, and the origin of the profiles noted there. -/
inductive Served (request : Request) (presented : Option String) :
    List Event → Instant → Context → Origin → Prop
  | start (now : Instant) :
      Served request presented [] now (.ofRequest request presented) .nothing
  | decision {t u : List Event} {last now : Instant} {c c' : Context} {o o' : Origin}
      {g : Gate} {config : Option Config} {p : Parameters} {r : Except Error Outcome} :
      Served request presented t last c o → now.before last = false →
      (g.decide config p now c).Ends u (r, c') → Leaves g config p now c c' o o' →
      Served request presented (t ++ u) now c' o'

/-- A decision keeps direct profiles apart from the session.  It writes no
    profiles unless the settings ask for it, writes none under the id that the
    caller presented unless the gate issued that very id, and reports no grant as
    loaded from the session. -/
structure Apart (settings : Settings) (presented : Option String) (t u : List Event)
    (r : Except Error Outcome) : Prop where
  unwritten : settings.saveDirect = false → ∀ id value answer,
    .stored (.set id profilesKey value) answer ∉ u
  unpresented : ∀ id value answer, .stored (.set id profilesKey value) answer ∈ u →
    presented = some id → id ∈ issuedIds (t ++ u)
  unloaded : ∀ grant, r = .ok (.granted grant) → grant.loadedFromSession = false

/-- A decision could do no harm with profiles in doubt: the settings ask for the
    session, its id is not the caller's, and the write failed. -/
def Excused (settings : Settings) (c : Context) (r : Except Error Outcome) : Prop :=
  settings.saveDirect = true ∧ (c.sessionIssued = true ∨ c.session = none) ∧ ∃ e, r = .error e

end Gate

/-! ## Time -/

/-- A profile that is fresh was so before. -/
theorem Profile.fresh_of_fresh {p : Profile} {now later : Instant} (hlater : later.before now = false)
    (h : p.isExpired later = false) : p.isExpired now = false := by
  rw [isExpired] at h ⊢
  cases hend : p.expiresAt with
  | none => rfl
  | some t =>
      rw [hend] at h
      exact Instant.not_before_trans hlater h

/-- Time only takes profiles away. -/
theorem ProfileSet.isEmpty_unexpired_mono {s : ProfileSet} {last now : Instant}
    (h : now.before last = false) (hne : (s.unexpired now).isEmpty = false) :
    (s.unexpired last).isEmpty = false := by
  obtain ⟨entry, he⟩ := List.isEmpty_eq_false_iff_exists_mem.mp hne
  refine List.isEmpty_eq_false_iff_exists_mem.mpr ⟨entry, ?_⟩
  obtain ⟨hmem, hfresh⟩ := List.mem_filter.mp he
  refine List.mem_filter.mpr ⟨hmem, ?_⟩
  rw [Bool.not_eq_true'] at hfresh ⊢
  exact Profile.fresh_of_fresh h hfresh

/-- Profiles that are still fresh were so before. -/
theorem Context.noted_mono {c : Context} {last now : Instant} {s : ProfileSet}
    (h : now.before last = false) (hn : c.noted now = .ok s) (hs : s.isEmpty = false) :
    ∃ before, c.noted last = .ok before ∧ before.isEmpty = false := by
  rw [Context.noted] at hn ⊢
  cases hv : c.attribute? profilesKey with
  | none =>
      rw [hv] at hn
      cases hn
      cases hs
  | some value =>
      rw [hv, Option.elim_some, ProfileSet.ofValue] at hn
      rw [Option.elim_some, ProfileSet.ofValue]
      cases hj : ProfileSet.ofJson? value with
      | none =>
          rw [hj] at hn
          cases hn
      | some full =>
          rw [hj] at hn
          cases hn
          exact ⟨full.unexpired last, rfl, ProfileSet.isEmpty_unexpired_mono h hs⟩

namespace Gate

variable {g : Gate} {config : Option Config} {p : Parameters} {now : Instant}
  {settings : Settings} {multi : Bool} {cfg : Config} {clients : List Client}
  {c c₁ c' : Context} {t u v : List Event} {s : ProfileSet} {source : Source}
  {r : Except Error Outcome}

/-! ## Decisions on noted profiles -/

/-- A decision for which no client takes part sets the flag. -/
theorem Decides.of_emptied (h : Decides g config p now c t r c')
    (hready : Ready g config p c cfg []) : c'.saysLoaded = true := by
  obtain ⟨u, v, found, c₁, rfl, ha, hc⟩ := h.of_ready hready
  rw [hc.saysLoaded]
  cases ha with
  | nobody hnil => exact Context.saysLoaded_withLoaded c true
  | unreadable e hne hn => exact absurd rfl hne
  | earlier s hne hn hs => exact absurd rfl hne
  | directFailed e hne hn hs hd => exact absurd rfl hne
  | directAction a hne hn hs hd => exact absurd rfl hne
  | direct found hne hn hs hd hf => exact absurd rfl hne
  | unasked hne hn hs hd hf hi hsave => exact absurd rfl hne
  | session hne hn hs hd hf hi hc => exact absurd rfl hne

/-- While fresh profiles are noted, every other decision leaves the flag as it is. -/
theorem Decides.saysLoaded_eq (h : Decides g config p now c t r c')
    (hready : ∀ cfg, ¬ Ready g config p c cfg []) (hn : c.noted now = .ok s)
    (hs : s.isEmpty = false) : c'.saysLoaded = c.saysLoaded := by
  cases h with
  | missing part hnone => rfl
  | unmatched e hparts hm => rfl
  | bypassed hparts hm => rfl
  | unresolved e hparts hm hc => rfl
  | @ready cfg clients u v c₁ c' found r hr ha hc =>
      have hne : clients ≠ [] := by
        rintro rfl
        exact hready cfg hr
      obtain ⟨-, -, rfl⟩ := ha.of_finds (.request hne hn) hs (by decide)
      rw [hc.saysLoaded, Context.saysLoaded_withLoaded]
      rfl

/-! ## The record agrees with the flag -/

variable {request : Request} {presented : Option String} {last : Instant} {o o' : Origin}
  {doubted : Bool}

/-- The session id of a request is that of the caller until one is issued. -/
theorem Served.follows (h : Served request presented t last c o) :
    (Context.ofRequest request presented).Follows t c := by
  induction h with
  | start now => exact Context.follows_nil _
  | decision _ _ hends _ ih => exact ih.trans (ends_decide hends).follows

/-- One decision keeps flag and record in agreement. -/
private theorem Leaves.saysLoaded_eq {now' : Instant}
    (h : Leaves g config p now c c' o (.direct doubted)) (hd : Decides g config p now c t r c')
    (ih : ∀ before, o = .direct before → ∀ s, c.noted now = .ok s → s.isEmpty = false →
      c.saysLoaded = before)
    (hnow : now'.before now = false) (hn : c'.noted now' = .ok s) (hs : s.isEmpty = false) :
    c'.saysLoaded = doubted := by
  generalize ho : Origin.direct doubted = left at h
  cases h with
  | emptied hready =>
      rw [hd.of_emptied hready]
      cases o with
      | nothing => cases ho
      | session => cases ho
      | direct before =>
          cases ho
          rfl
  | @noted cfg clients u s' source hp hattr =>
      have hsource : source ≠ .session := by
        rintro rfl
        cases ho
      obtain ⟨w, kept, hm, -, -⟩ := hd.of_passes hp hsource
      rw [hm.saysLoaded, Context.saysLoaded_withLoaded]
      cases hf : source with
      | session => exact absurd hf hsource
      | direct =>
          subst hf
          cases ho
          rfl
      | request =>
          -- they were noted before, and the flag with them
          subst hf
          cases hp.found with
          | request hcl hn' => exact ih doubted ho.symm s' hn' hp.known
  | kept hready hattr =>
      -- fresh later means fresh then, so the decision took them up and kept the flag
      have hsame : c.noted now' = .ok s := by
        rw [Context.noted, ← hattr]
        exact hn
      obtain ⟨before, hbefore, hne⟩ := Context.noted_mono hnow hsame hs
      rw [hd.saysLoaded_eq hready hbefore hne]
      exact ih doubted ho.symm before hbefore hne

/-- Direct profiles count as loaded from the session just when they are in doubt. -/
theorem Served.saysLoaded_eq (h : Served request presented t last c (.direct doubted))
    (hnow : now.before last = false) (hn : c.noted now = .ok s) (hs : s.isEmpty = false) :
    c.saysLoaded = doubted := by
  generalize ho : Origin.direct doubted = left at h
  -- on the decisions of the request; the instant and the set are those of the next one
  induction h generalizing now s doubted with
  | start now => cases ho
  | decision _ hafter hends hleaves ih =>
      subst ho
      refine hleaves.saysLoaded_eq (ends_decide hends) ?_ hnow hn hs
      intro before hbefore s' hn' hs'
      exact ih hafter hn' hs' hbefore.symm

end Gate

/-! ## Writes -/

section Writes

variable {c c' : Context} {t : List Event} {id key : String} {value : Json}
  {answer : Except Error Unit}

theorem Scopes.Ensures.not_write {own : String} (h : Scopes.Ensures c t own c') :
    .stored (.set id key value) answer ∉ t := by
  intro hmem
  obtain ⟨octets, heq⟩ := h.drawn _ hmem
  cases heq

theorem Scopes.Renews.not_write {r : Except Error Unit} (h : Scopes.Renews c t r c') :
    .stored (.set id key value) answer ∉ t := by
  intro hmem
  cases Gate.Renews.events h _ hmem

private theorem Gate.Finds.not_write {now : Instant} {multi : Bool} {clients : List Client}
    {s : ProfileSet} {source : Gate.Source} (h : Gate.Finds now multi clients c t s source) :
    .stored (.set id key value) answer ∉ t := by
  intro hmem
  cases h.events _ hmem

end Writes

namespace Gate

variable {now : Instant} {settings : Settings} {multi : Bool} {clients : List Client}
  {c c' : Context} {t u v : List Event} {s : ProfileSet} {source : Source}
  {request : Request} {presented : Option String}

/-- Until an id is issued a request has the one that its caller presented. -/
private theorem session_of_follows (h : (Context.ofRequest request presented).Follows t c) :
    (c.sessionIssued = true → ∃ id ∈ issuedIds t, c.session = some id) ∧
      (c.sessionIssued = false → c.session = presented ∧ issuedIds t = []) := by
  cases h with
  | same hs hi hn =>
      refine ⟨fun hissued => ?_, fun _ => ⟨hs, hn⟩⟩
      cases hi.symm.trans hissued
  | issued hm hs hi =>
      refine ⟨fun _ => ⟨_, hm, hs⟩, fun hissued => ?_⟩
      cases hi.symm.trans hissued

/-- Profiles that do not count as loaded go to the session only if they may, and
    then under an id that was issued. -/
private theorem Remembers.apart {kept : Except Error Bool}
    (h : Remembers settings s c u kept c') (hl : c.saysLoaded = false)
    (hf : (Context.ofRequest request presented).Follows t c) :
    (settings.saveDirect = false → u = []) ∧
      (∀ id value answer, .stored (.set id profilesKey value) answer ∈ u →
        id ∈ issuedIds (t ++ u)) ∧
      ∀ loaded, kept = .ok loaded → loaded = false := by
  cases h with
  | noted hl' hd =>
      refine ⟨fun _ => rfl, ?_, ?_⟩
      · intro id value answer hmem
        cases hmem
      · rintro loaded ⟨⟩
        rfl
  | unmoved hl' hd hm =>
      refine ⟨?_, ?_, ?_⟩
      · intro hsave
        cases hd.symm.trans hsave
      · intro id value answer hmem
        exact absurd hmem hm.not_write
      · intro loaded hk
        cases hk
  | @moved t₁ t₂ id c₁ c' answer hl' hd hm he =>
      refine ⟨?_, ?_, ?_⟩
      · intro hsave
        cases hd.symm.trans hsave
      · intro other value answer' hmem
        -- the id was issued when the session was moved, or before
        obtain ⟨fresh, hfresh, hsession⟩ :=
          (session_of_follows (hf.trans hm.follows)).1 hm.sessionIssued
        have hid : id = fresh := by
          cases he with
          | kept hs => exact Option.some.inj (hs.symm.trans hsession)
          | issued octets hnone => cases hnone.symm.trans hsession
        have hother : other = id := by
          rcases List.mem_append.mp hmem with hmem | hmem
          · exact absurd hmem hm.not_write
          rcases List.mem_append.mp hmem with hmem | hmem
          · exact absurd hmem he.not_write
          · cases List.mem_singleton.mp hmem
            rfl
        rw [hother, hid, ← List.append_assoc, issuedIds_append]
        exact List.mem_append_left _ hfresh
      · intro loaded hk
        cases answer with
        | error e => cases hk
        | ok done =>
            cases hk
            rfl
  | kept answer hl' he => cases hl.symm.trans hl'

/-- Profiles that count as loaded go back to the session, under the id of the
    request or, when it has none, under one that is issued for them. -/
private theorem Remembers.written {kept : Except Error Bool}
    (h : Remembers settings s c u kept c') (hl : c.saysLoaded = true) :
    ∃ id answer, .stored (.set id profilesKey s.toJson) answer ∈ u ∧
      (∀ other value answer', .stored (.set other profilesKey value) answer' ∈ u → other = id) ∧
      kept = answer.map (fun _ => true) ∧
      (c.session = some id ∧ issuedIds u = [] ∨ c.session = none ∧ id ∈ issuedIds u) := by
  cases h with
  | noted hl' hd => cases hl.symm.trans hl'
  | unmoved hl' hd hm => cases hl.symm.trans hl'
  | moved answer hl' hd hm he => cases hl.symm.trans hl'
  | @kept u id c' answer hl' he =>
      refine ⟨id, answer, List.mem_append_right _ List.mem_cons_self, ?_, rfl, ?_⟩
      · intro other value answer' hmem
        rcases List.mem_append.mp hmem with hmem | hmem
        · exact absurd hmem he.not_write
        · cases List.mem_singleton.mp hmem
          rfl
      · cases he with
        | kept hs => exact .inl ⟨hs, rfl⟩
        | issued octets hnone => exact .inr ⟨hnone, List.mem_cons_self⟩

/-! ## Apart but for the doubt -/

variable {g : Gate} {config : Option Config} {p : Parameters} {cfg : Config}
  {r : Except Error Outcome} {last : Instant} {o : Origin} {doubted : Bool}

/-- A decision with direct profiles that are not in doubt. -/
private theorem apart_of_calm {calls calls' : List Call} {kept : Except Error Bool}
    (hf : Finds now multi clients c u s source)
    (hm : Remembers cfg.settings s (c.withLoaded false) v kept c')
    (hfollows : (Context.ofRequest request presented).Follows t c) :
    Apart cfg.settings presented t
      (calls.map .called ++ (u ++ (calls'.map .called ++ v)))
      (kept.map fun loaded => .granted ⟨c', s, p.extra, loaded⟩) := by
  obtain ⟨hunwritten, hissued, hkept⟩ :=
    hm.apart (Context.saysLoaded_withLoaded c false) (hfollows.withLoaded false)
  have honly : ∀ id value answer, .stored (.set id profilesKey value) answer
      ∈ calls.map Event.called ++ (u ++ (calls'.map Event.called ++ v)) →
      .stored (.set id profilesKey value) answer ∈ v := by
    intro id value answer hmem
    rcases List.mem_append.mp hmem with hmem | hmem
    · exact absurd hmem (not_stored_called _)
    rcases List.mem_append.mp hmem with hmem | hmem
    · exact absurd hmem hf.not_write
    rcases List.mem_append.mp hmem with hmem | hmem
    · exact absurd hmem (not_stored_called _)
    · exact hmem
  refine ⟨?_, ?_, ?_⟩
  · intro hsave id value answer hmem
    have hv := honly id value answer hmem
    rw [hunwritten hsave] at hv
    cases hv
  · intro id value answer hmem _
    have hid := hissued id value answer (honly id value answer hmem)
    rw [issuedIds_append, List.mem_append] at hid
    rw [issuedIds_append, issuedIds_append, issuedIds_append, issuedIds_append]
    rcases hid with hid | hid
    · exact List.mem_append_left _ hid
    · exact List.mem_append_right _ (List.mem_append_right _ (List.mem_append_right _
        (List.mem_append_right _ hid)))
  · intro grant hgrant
    cases kept with
    | error e => cases hgrant
    | ok loaded =>
        cases hgrant
        exact hkept loaded rfl

/-- A decision with profiles noted before that count as loaded. -/
private theorem apart_of_doubted {calls calls' : List Call} {kept : Except Error Bool}
    (hm : Remembers cfg.settings s (c.withLoaded true) v kept c')
    (hfollows : (Context.ofRequest request presented).Follows t c) :
    Apart cfg.settings presented t (calls.map .called ++ ([] ++ (calls'.map .called ++ v)))
        (kept.map fun loaded => .granted ⟨c', s, p.extra, loaded⟩) ↔
      Excused cfg.settings c (kept.map fun loaded => .granted ⟨c', s, p.extra, loaded⟩) := by
  obtain ⟨id, answer, hwrite, honly, rfl, hid⟩ :=
    hm.written (Context.saysLoaded_withLoaded c true)
  rw [Context.session_withLoaded] at hid
  have hids : issuedIds (t ++ (calls.map .called ++ ([] ++ (calls'.map .called ++ v))))
      = issuedIds t ++ issuedIds v := by
    rw [issuedIds_append, issuedIds_append, issuedIds_append, issuedIds_append,
      issuedIds_called, issuedIds_called]
    rfl
  have hmem : .stored (.set id profilesKey s.toJson) answer
      ∈ calls.map Event.called ++ ([] ++ (calls'.map Event.called ++ v)) :=
    List.mem_append_right _ (List.mem_append_right _ (List.mem_append_right _ hwrite))
  obtain ⟨hissued, hown⟩ := session_of_follows hfollows
  constructor
  · rintro ⟨hunwritten, hunpresented, hunloaded⟩
    refine ⟨?_, ?_, ?_⟩
    · cases hsave : cfg.settings.saveDirect with
      | true => rfl
      | false => exact absurd hmem (hunwritten hsave _ _ _)
    · cases hi : c.sessionIssued with
      | true => exact .inl rfl
      | false =>
          -- the id would be the caller's, and none was issued
          obtain ⟨hpresented, hnone⟩ := hown hi
          rcases hid with ⟨hs, hv⟩ | ⟨hs, -⟩
          · have hbad := hunpresented id _ _ hmem (hpresented.symm.trans hs)
            rw [hids, hnone, hv] at hbad
            cases hbad
          · exact .inr hs
    · cases answer with
      | error e => exact ⟨e, rfl⟩
      | ok done => cases hunloaded _ rfl
  · rintro ⟨hsave, hsession, e, he⟩
    refine ⟨?_, ?_, ?_⟩
    · intro hnot
      cases hsave.symm.trans hnot
    · intro other value answer' hother _
      have hv : .stored (.set other profilesKey value) answer' ∈ v := by
        rcases List.mem_append.mp hother with hother | hother
        · exact absurd hother (not_stored_called _)
        rcases List.mem_append.mp hother with hother | hother
        · cases hother
        rcases List.mem_append.mp hother with hother | hother
        · exact absurd hother (not_stored_called _)
        · exact hother
      rw [hids, honly other value answer' hv]
      rcases hid with ⟨hs, -⟩ | ⟨-, hnew⟩
      · rcases hsession with hi | hnone
        · obtain ⟨fresh, hfresh, hs'⟩ := hissued hi
          cases hs.symm.trans hs'
          exact List.mem_append_left _ hfresh
        · cases hs.symm.trans hnone
      · exact List.mem_append_right _ hnew
    · intro grant hgrant
      cases he.symm.trans hgrant

/-- The direct profiles of a request are kept apart from the session by every
    decision in which they pass, unless they are in doubt.  With profiles in doubt
    a decision fails to, but for the one case in which it could do no harm.  A
    decision in which they do not pass neither writes nor grants them
    (`Decides.passes_of_write`, `Decides.of_granted`). -/
theorem apart_iff (h : Served request presented t last c o) (hnow : now.before last = false)
    (hends : (g.decide config p now c).Ends u (r, c'))
    (hp : Passes g config p now c cfg clients v s source)
    (ho : source.origin o = .direct doubted) :
    Apart cfg.settings presented t u r ↔ (doubted = true → Excused cfg.settings c r) := by
  have hsource : source ≠ .session := by
    rintro rfl
    cases ho
  obtain ⟨w, kept, hm, rfl, rfl⟩ := (ends_decide hends).of_passes hp hsource
  have hflag : source.saysLoaded c = doubted := by
    cases source with
    | session => exact absurd rfl hsource
    | direct =>
        cases ho
        rfl
    | request =>
        cases hp.found with
        | request hcl hn =>
            subst ho
            exact h.saysLoaded_eq hnow hn hp.known
  -- from here on the flag is known, and only the remembering matters
  rw [hflag] at hm ⊢
  cases doubted with
  | false =>
      constructor
      · intro _ hd
        exact Bool.noConfusion hd
      · intro _
        exact apart_of_calm hp.found hm h.follows
  | true =>
      have hreq : source = .request := by
        cases source with
        | session => exact absurd rfl hsource
        | direct => cases ho
        | request => rfl
      subst hreq
      cases hp.found with
      | request hcl hn =>
          exact (apart_of_doubted hm h.follows).trans ⟨fun hx _ => hx, fun hx => hx rfl⟩

/-! ## Every decision has its place -/

/-- Until profiles pass, nothing is noted but where they would come from. -/
theorem Authenticates.attribute?_eq {found : Except Error (Attempt ProfileSet)}
    {c₁ : Context} (h : Authenticates now settings multi clients c t found c₁) :
    c₁.attribute? profilesKey = c.attribute? profilesKey := by
  cases h with
  | nobody hnil => exact c.profiles_withLoaded _
  | unreadable e hne hn => rfl
  | earlier _ hne hn hs => exact c.profiles_withLoaded _
  | directFailed e hne hn hs hd => rfl
  | directAction a hne hn hs hd => exact c.profiles_withLoaded _
  | direct _ hne hn hs hd hf => exact c.profiles_withLoaded _
  | unasked hne hn hs hd hf hi hsave => exact c.profiles_withLoaded _
  | session hne hn hs hd hf hi hc =>
      cases hc with
      | failed e ha => exact c.profiles_withLoaded _
      | known _ ha hk => exact c.profiles_withLoaded _
      | unknown _ ha hk hnone => exact c.profiles_withLoaded _
      | sent _ client ha hk hcl hr =>
          cases hr with
          | failed e hred => exact c.profiles_withLoaded _
          | answered a hred hl => exact c.profiles_withLoaded _
          | toldOff a hred hl ht => exact c.profiles_withLoaded _
          | forgotten a hred hl ht hkeep => exact c.profiles_withLoaded _
          | remembered a answer hred hl ht hkeep he =>
              cases he with
              | kept hs' => exact c.profiles_withLoaded _
              | issued octets hnone => exact c.profiles_withLoaded _

/-- Remembered profiles are noted, unless the session could not be moved. -/
theorem Remembers.attribute?_eq {kept : Except Error Bool}
    (h : Remembers settings s c t kept c') :
    c'.attribute? profilesKey = some s.toJson ∨
      c'.attribute? profilesKey = c.attribute? profilesKey := by
  cases h with
  | noted hl hd => exact .inl (c.profiles_withProfiles s)
  | unmoved hl hd hm =>
      cases hm with
      | moved octets before answer hi hs => exact .inr rfl
  | moved answer hl hd hm he =>
      cases he with
      | kept hs => exact .inl (Context.profiles_withProfiles _ s)
      | issued octets hnone => exact .inl (Context.profiles_withProfiles _ s)
  | kept answer hl he =>
      cases he with
      | kept hs => exact .inl (Context.profiles_withProfiles _ s)
      | issued octets hnone => exact .inl (Context.profiles_withProfiles _ s)

/-- A decision in which profiles pass remembers them, and can fail at that alone. -/
def PassesAlong (g : Gate) (config : Option Config) (p : Parameters) (now : Instant)
    (c : Context) (t : List Event) (r : Except Error Outcome) (c' : Context) : Prop :=
  ∃ cfg clients u v s source kept, Passes g config p now c cfg clients u s source ∧
    Remembers cfg.settings s (c.withLoaded (source.saysLoaded c)) v kept c' ∧
    r = kept.map (fun loaded => .granted ⟨c', s, p.extra, loaded⟩) ∧
    t = asksMatchers cfg p c
      ++ (u ++ (asksAuthorizers cfg p s (c.withLoaded (source.saysLoaded c)) ++ v))

/-- A decision that rests writes no profiles, notes none and grants nothing. -/
structure Rests (c : Context) (t : List Event) (r : Except Error Outcome) (c' : Context) :
    Prop where
  unnoted : c'.attribute? profilesKey = c.attribute? profilesKey
  unwritten : ∀ id value answer, .stored (.set id profilesKey value) answer ∉ t
  ungranted : ∀ grant, r ≠ .ok (.granted grant)

/-- Calls alone write nothing. -/
private theorem Rests.of_calls (calls : List Call)
    (hnoted : c'.attribute? profilesKey = c.attribute? profilesKey)
    (hr : ∀ grant, r ≠ .ok (.granted grant)) : Rests c (calls.map .called) r c' :=
  ⟨hnoted, fun _ _ _ => not_stored_called calls, hr⟩

/-- Every decision rests, unless profiles pass in it. -/
theorem Decides.passes_or_rests (h : Decides g config p now c t r c') :
    PassesAlong g config p now c t r c' ∨ Rests c t r c' := by
  cases h with
  | missing part hnone => exact .inr (.of_calls [] rfl fun _ heq => by cases heq)
  | unmatched e hparts hm => exact .inr (.of_calls _ rfl fun _ heq => by cases heq)
  | bypassed hparts hm => exact .inr (.of_calls _ rfl fun _ heq => by cases heq)
  | unresolved e hparts hm hc => exact .inr (.of_calls _ rfl fun _ heq => by cases heq)
  | @ready cfg clients u v c₁ c' found r hready ha hc =>
      -- on the way to a visitor profiles are brought under no id at all
      have hrests : ∀ calls : List Call, v = calls.map .called → c' = c₁ →
          (∀ grant, r ≠ .ok (.granted grant)) →
          Rests c (asksMatchers cfg p c ++ (u ++ v)) r c' := by
        rintro calls rfl rfl hr
        refine ⟨ha.attribute?_eq, fun id value answer hw => ?_, hr⟩
        rcases List.mem_append.mp hw with hw | hw
        · exact not_stored_called _ hw
        rcases List.mem_append.mp hw with hw | hw
        · have hnowhere : Event.Within [] _ := ha.within _ hw
          cases hnowhere rfl
        · exact not_stored_called _ hw
      cases hc with
      | failed e => exact .inr (hrests [] rfl rfl fun _ heq => by cases heq)
      | answered a => exact .inr (hrests [] rfl rfl fun _ heq => by cases heq)
      | unknown => exact .inr (hrests [] rfl rfl fun _ heq => by cases heq)
      | unjudged e hv => exact .inr (hrests _ rfl rfl fun _ heq => by cases heq)
      | refused a hv ho => exact .inr (hrests _ rfl rfl fun _ heq => by cases heq)
      | passed hv hm =>
          obtain ⟨hs, source, rfl, hf⟩ := ha.finds
          exact .inl ⟨_, _, u, _, _, source, _, ⟨hready, hs, hf, hv⟩, hm, rfl, rfl⟩

/-- What is written while profiles pass are these profiles. -/
theorem Remembers.eq_of_write {kept : Except Error Bool} {c₁ : Context} {id : String}
    {value : Json} {answer : Except Error Unit}
    (hf : Finds now multi clients c u s source) (hm : Remembers settings s c₁ v kept c')
    (hw : .stored (.set id profilesKey value) answer
      ∈ asksMatchers cfg p c ++ (u ++ (asksAuthorizers cfg p s c₁ ++ v))) : value = s.toJson := by
  rcases List.mem_append.mp hw with hw | hw
  · exact absurd hw (not_stored_called _)
  rcases List.mem_append.mp hw with hw | hw
  · cases hf.events _ hw
  rcases List.mem_append.mp hw with hw | hw
  · exact absurd hw (not_stored_called _)
  · cases hm.events _ hw with
    | moving hmove => cases hmove
    | written _ _ => rfl

/-- Profiles are written by no decision but one in which they pass. -/
theorem Decides.passes_of_write {id : String} {value : Json} {answer : Except Error Unit}
    (h : Decides g config p now c t r c')
    (hw : .stored (.set id profilesKey value) answer ∈ t) :
    ∃ cfg clients u s source, Passes g config p now c cfg clients u s source ∧
      value = s.toJson := by
  rcases h.passes_or_rests with ⟨cfg, clients, u, v, s, source, kept, hp, hm, -, rfl⟩ | hrests
  · exact ⟨cfg, clients, u, s, source, hp, hm.eq_of_write hp.found hw⟩
  · exact absurd hw (hrests.unwritten _ _ _)

/-- A decision notes profiles only when they pass, and then with where they came from. -/
theorem Decides.notes (h : Decides g config p now c t r c') :
    c'.attribute? profilesKey = c.attribute? profilesKey ∨
      ∃ cfg clients u s source, Passes g config p now c cfg clients u s source ∧
        c'.attribute? profilesKey = some s.toJson ∧ c'.saysLoaded = source.saysLoaded c := by
  rcases h.passes_or_rests with ⟨cfg, clients, u, v, s, source, kept, hp, hm, -, -⟩ | hrests
  · rcases hm.attribute?_eq with hnoted | hsame
    · refine .inr ⟨cfg, clients, u, s, source, hp, hnoted, ?_⟩
      rw [hm.saysLoaded, Context.saysLoaded_withLoaded]
    · exact .inl (hsame.trans (c.profiles_withLoaded _))
  · exact .inl hrests.unnoted

/-- Whatever a decision does, it leaves profiles of some origin: the decisions
    that `Served` follows are all there are. -/
theorem exists_leaves (hends : (g.decide config p now c).Ends t (r, c')) (o : Origin) :
    ∃ o', Leaves g config p now c c' o o' := by
  by_cases hempty : ∃ cfg, Ready g config p c cfg []
  · obtain ⟨cfg, hready⟩ := hempty
    exact ⟨_, .emptied hready⟩
  · rcases (ends_decide hends).notes with hsame | ⟨cfg, clients, u, s, source, hp, hnoted, -⟩
    · exact ⟨o, .kept (fun cfg hready => hempty ⟨cfg, hready⟩) hsame⟩
    · exact ⟨_, .noted hp hnoted⟩

/-! A request insists on one client.  A decision for another client, between two
    for the first, is left with none. -/

/-- A client that knows nobody. -/
def strangers : Client where
  name := "Strangers"
  kind := .direct
  fetch _ _ := .ok .absent
  build _ _ _ := .ok .absent

/-- A request that insists on the client of visitors whom nobody knows. -/
def insisting : Context :=
  .ofRequest ⟨"GET", .root, [], [("force_client", "AnonymousClient")]⟩ (some "s")

/-- The configuration with both clients. -/
def openConfig : Config := .ofClients [Client.anonymous, strangers] {}

/-- A decision for the clients of a list. -/
def decisionFor (names : String) (c : Context) : Plan (Except Error Outcome × Context) :=
  (ofSettings {}).decide (some openConfig)
    { (default : Parameters) with clients := some names } .epoch c

/-- Profiles that a direct client built are written under the id that the caller
    presented, though the settings do not ask for it, and are granted as loaded
    from the session, though no session held them. -/
theorem direct_profiles_in_session :
    ∃ s c₁ c₂ c₃ w₁ w₂ w₃,
      (decisionFor "AnonymousClient" insisting).run (.still .epoch) (World.ofStore .empty)
        = ((.ok (.granted ⟨c₁, s, .empty, false⟩), c₁), w₁) ∧
      (decisionFor "Strangers" c₁).run (.still .epoch) w₁
        = ((.ok (.action .unauthorized), c₂), w₂) ∧
      (decisionFor "AnonymousClient" c₂).run (.still .epoch) w₂
        = ((.ok (.granted ⟨c₃, s, .empty, true⟩), c₃), w₃) ∧
      w₂.store = .empty ∧ w₃.store.get? .epoch "s" profilesKey = some s.toJson :=
  ⟨_, _, _, _, _, _, _, rfl, rfl, rfl, rfl, rfl⟩

/-- The same decisions, followed with the origin of the profiles. -/
theorem apart_iff_insisting :
    ∃ t c u r c', Served insisting.request (some "s") t .epoch c (.direct true) ∧
      (decisionFor "AnonymousClient" c).Ends u (r, c') ∧ ¬ Apart {} (some "s") t u r := by
  let known := Profile.anonymous.withClientName "AnonymousClient"
  let s := ProfileSet.single "AnonymousClient" known
  let c₁ := (insisting.withLoaded false).withProfiles s
  let c₂ := c₁.withLoaded true
  let c₃ := (c₂.withLoaded true).withProfiles s
  have hfirst : (decisionFor "AnonymousClient" insisting).Ends
      [.called (.fetch "AnonymousClient"), .called (.build "AnonymousClient")]
      (.ok (.granted ⟨c₁, s, .empty, false⟩), c₁) := ⟨_, rfl, _, rfl, rfl, rfl⟩
  have hsecond : (decisionFor "Strangers" c₁).Ends [] (.ok (.action .unauthorized), c₂) :=
    ⟨rfl, rfl⟩
  have hthird : (decisionFor "AnonymousClient" c₂).Ends
      [.stored (.set "s" profilesKey s.toJson) (.ok ())]
      (.ok (.granted ⟨c₃, s, .empty, true⟩), c₃) := ⟨_, _, rfl, rfl, rfl⟩
  have hready : ∀ (names : String) (c : Context) (clients : List Client),
      ClientRegistry.resolve (.mk [Client.anonymous, strangers] none) "force_client" c.request
        (some names) = .ok clients →
      Ready (ofSettings {}) (some openConfig) { (default : Parameters) with clients := some names } c
        openConfig clients := fun names c clients h => ⟨⟨_, _, ⟨rfl, rfl, rfl, rfl, rfl⟩, h⟩, rfl⟩
  have hnoted : Leaves (ofSettings {}) (some openConfig)
      { (default : Parameters) with clients := some "AnonymousClient" } .epoch insisting c₁
      .nothing (Source.direct.origin .nothing) :=
    .noted ⟨hready _ _ [Client.anonymous] rfl, rfl, .direct rfl rfl rfl, rfl⟩ rfl
  have hserved : Served insisting.request (some "s") _ .epoch c₁ (.direct false) :=
    .decision (.start .epoch) rfl hfirst hnoted
  have hdoubted : Served insisting.request (some "s") _ .epoch c₂ (.direct true) :=
    .decision hserved rfl hsecond (.emptied (hready _ _ [] rfl))
  refine ⟨_, c₂, _, _, c₃, hdoubted, hthird, ?_⟩
  intro hapart
  have hpass : Passes (ofSettings {}) (some openConfig)
      { (default : Parameters) with clients := some "AnonymousClient" } .epoch c₂ openConfig
      [Client.anonymous] [] s .request := ⟨hready _ _ _ rfl, rfl, .request (by decide) rfl, rfl⟩
  obtain ⟨hsave, -, -⟩ := (apart_iff hdoubted rfl hthird hpass rfl).mp hapart rfl
  exact Bool.noConfusion hsave

end Gate

end AccessGate
