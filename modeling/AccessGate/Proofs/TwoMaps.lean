import AccessGate.Proofs.Leakage
import AccessGate.Proofs.Order

/-! # The two maps of a request

    The profiles of a request stand in an attribute and in a session, in their wire form,
    under an id that may not be there yet; what is stale is dropped whenever they are read.
    Whoever uses them thinks of two ordered maps.  `Maps` is a pair of plain lists, and
    each operation is said of it with the list operations `putAt`, `without` and `overlay`.

    `Mirrors` ties the two together: at whatever instant of a span of time the places are
    read, they hold the entries of the maps.  Each operation keeps it (`mirrors_after`), so
    a course of them does (`mirrors_course`), and what is loaded on the way is what the
    maps hold (`loads_maps`). -/

namespace AccessGate

/-! ## The maps -/

/-- What a request holds and what its session holds, in order. -/
structure Maps where
  request : List (String × Profile)
  session : List (String × Profile)
  deriving DecidableEq

namespace Maps

/-- The profiles of the request, and over them those of the session when they are asked
    for. -/
def all (maps : Maps) (withSession : Bool) : List (String × Profile) :=
  if withSession then overlay maps.request maps.session else maps.request

/-- Keep entries in the request, and in the session when asked to. -/
def keep (maps : Maps) (entries : List (String × Profile)) (toSession : Bool) : Maps :=
  ⟨entries, if toSession then entries else maps.session⟩

/-- What an operation on profiles makes of the maps. -/
def after (maps : Maps) : Operation → Maps
  | .save profiles toSession => maps.keep profiles.entries toSession
  | .saveProfile _ client profile toSession multi =>
      maps.keep (putAt client profile (if multi then maps.all toSession else [])) toSession
  | .remove _ client => ⟨without client maps.request, without client maps.session⟩
  | .removeAll => ⟨[], []⟩
  | _ => maps

/-- What operations that are done one after the other make of the maps. -/
def course (maps : Maps) (operations : List Operation) : Maps := operations.foldl after maps

/-- The operations that write to the session: the others leave its deadline alone. -/
def Writes (maps : Maps) : Operation → Prop
  | .save _ toSession => toSession = true
  | .saveProfile _ _ _ toSession _ => toSession = true
  | .remove _ client => client ∈ maps.session.map Prod.fst
  | _ => False

end Maps

/-! ## A span of time in which nothing ends -/

/-- An instant of a span of time. -/
structure Instant.Within (first last now : Instant) : Prop where
  notBefore : now.before first = false
  notAfter : last.before now = false

/-- The entries of a list are fresh. -/
def Fresh (entries : List (String × Profile)) (now : Instant) : Prop :=
  ∀ entry ∈ entries, entry.2.isExpired now = false

/-- A span in which nothing that is fresh at its beginning goes stale keeps a set as it is:
    what was stale before stays so. -/
theorem ProfileSet.unexpired_of_within {s : ProfileSet} {first last now : Instant}
    (hnow : Instant.Within first last now) (h : Fresh (s.unexpired first).entries last) :
    s.unexpired now = s.unexpired first := by
  have hkeep : ∀ entry ∈ s.entries, (!entry.2.isExpired now) = !entry.2.isExpired first := by
    intro entry he
    cases hfirst : entry.2.isExpired first with
    | true =>
        -- stale at the beginning, so stale later
        cases hstale : entry.2.isExpired now with
        | true => rfl
        | false => exact absurd (Profile.fresh_of_fresh hnow.notBefore hstale) (by simp [hfirst])
    | false =>
        have hmem : entry ∈ (s.unexpired first).entries :=
          List.mem_filter.mpr ⟨he, by rw [hfirst]; rfl⟩
        rw [Profile.fresh_of_fresh hnow.notAfter (h entry hmem)]
  have hentries : s.entries.filter (fun entry => !entry.2.isExpired now)
      = s.entries.filter fun entry => !entry.2.isExpired first := List.filter_congr hkeep
  simp only [unexpired, filter, hentries]

/-- A value that is fresh to the end of a span reads the same all through it. -/
theorem ProfileSet.ofValue_of_within {value : Json} {s : ProfileSet} {first last now : Instant}
    (hnow : Instant.Within first last now) (h : ofValue first value = .ok s)
    (hfresh : Fresh s.entries last) : ofValue now value = .ok s := by
  obtain ⟨full, hfull, rfl⟩ := of_ofValue h
  rw [ofValue, hfull, Option.elim_some, unexpired_of_within hnow hfresh]

/-- A set that is written keeps its entries for as long as they are fresh. -/
theorem ProfileSet.ofValue_toJson_of_within {s : ProfileSet} {first last now : Instant}
    (hnow : Instant.Within first last now) (hfresh : Fresh s.entries last) :
    ofValue now s.toJson = .ok s :=
  ofValue_toJson fun entry he => Profile.fresh_of_fresh hnow.notAfter (hfresh entry he)

variable {first last now : Instant} {maps : Maps} {env : Surroundings} {w : World}
  {m : MemoryStore} {c : Context}

/-- A request and a store hold the entries of the maps, at every instant of a span. -/
structure Mirrors (first last : Instant) (maps : Maps) (m : MemoryStore) (c : Context) :
    Prop where
  request : ∃ s : ProfileSet, s.entries = maps.request ∧
    ∀ now, Instant.Within first last now → c.noted now = .ok s
  session : ∃ s : ProfileSet, s.entries = maps.session ∧
    ∀ instant now, Instant.Within first last instant → Instant.Within first last now →
      m.profilesFor instant now c = .ok s
  fresh : Fresh (maps.request ++ maps.session) last

/-- What a request begins with: its profiles and those of its session can be read, and
    what is fresh then stays so, the session as well. -/
structure Begins (first last : Instant) (request session : ProfileSet) (m : MemoryStore)
    (c : Context) : Prop where
  noted : c.noted first = .ok request
  held : m.profilesFor first first c = .ok session
  fresh : Fresh (request.entries ++ session.entries) last
  lasts : ∀ id s, c.session = some id → m.live? first id = some s → s.isLive last = true

/-- A session that does not end in the span reads the same all through it, and so does one
    that had ended before. -/
theorem MemoryStore.get?_of_within {id : String} {instant : Instant}
    (hinstant : Instant.Within first last instant)
    (h : ∀ s, m.live? first id = some s → s.isLive last = true) (key : String) :
    m.get? instant id key = m.get? first id key := by
  cases hid : m.sessions.get? id with
  | none => rw [get?_of_none hid, get?_of_none hid]
  | some s =>
      have hlive : s.isLive instant = s.isLive first := by
        cases hfirst : s.isLive first with
        | true =>
            have hlast : s.isLive last = true := h s (by rw [live?, hid, Option.filter_some, if_pos hfirst])
            rw [Session.isLive, Bool.not_eq_true'] at hlast ⊢
            exact Instant.not_before_trans hinstant.notAfter hlast
        | false =>
            rw [Session.isLive, Bool.not_eq_false'] at hfirst ⊢
            by_contra hended
            have hbefore := Instant.not_before_trans hinstant.notBefore (Bool.not_eq_true _ ▸ hended)
            exact Bool.false_ne_true (hbefore.symm.trans hfirst)
      rw [get?_of_kept hid, get?_of_kept hid, hlive]

/-- What a request begins with is what the maps begin with. -/
theorem Begins.mirrors {request session : ProfileSet}
    (h : Begins first last request session m c) :
    Mirrors first last ⟨request.entries, session.entries⟩ m c := by
  obtain ⟨hrequest, hsession⟩ := List.forall_mem_append.mp h.fresh
  refine ⟨⟨request, rfl, fun now hnow => ?_⟩, ⟨session, rfl, fun instant now hinstant hnow => ?_⟩,
    h.fresh⟩
  · have hnoted := h.noted
    rw [Context.noted] at hnoted ⊢
    cases hvalue : c.attribute? profilesKey with
    | none =>
        rw [hvalue] at hnoted
        exact hnoted
    | some value =>
        rw [hvalue] at hnoted
        exact ProfileSet.ofValue_of_within hnow hnoted hrequest
  · have hheld := h.held
    cases hid : c.session with
    | none =>
        rw [MemoryStore.profilesFor_of_none hid] at hheld ⊢
        exact hheld
    | some id =>
        rw [MemoryStore.profilesFor_of_some hid] at hheld ⊢
        rw [MemoryStore.get?_of_within hinstant fun s => h.lasts id s hid]
        cases hvalue : m.get? first id profilesKey with
        | none =>
            rw [hvalue] at hheld
            exact hheld
        | some value =>
            rw [hvalue] at hheld
            exact ProfileSet.ofValue_of_within hnow hheld hsession

/-! ## Runs of the operations -/

/-- A turn that ends well goes on with what it gave. -/
theorem Turn.run_bind {α β : Type} {x : Turn α} {f : α → Turn β} {a : α} {c₁ : Context} {w₁ : World}
    (h : (x c).run env w = ((.ok a, c₁), w₁)) :
    ((x >>= f) c).run env w = (f a c₁).run env w₁ := by
  rw [Turn.bind_apply, Plan.run_bind, h]
  rfl

/-- Surroundings in which no step on the store fails of itself. -/
def Surroundings.Works (env : Surroundings) : Prop := ∀ n step, env.fails n step = none

/-- A store that works does each step, and that is all that happens. -/
theorem Surroundings.Works.answer (h : env.Works) (step : StoreStep) (w : World) :
    env.answer step w
      = ((w.store.apply env.lifetime env.now step).1,
        { w with steps := w.steps + 1, store := (w.store.apply env.lifetime env.now step).2 }) := by
  rw [Surroundings.answer, h]

namespace Scopes

/-- To read the session gives what the store holds, and changes nothing in it. -/
theorem run_loadSession (hworks : env.Works) (now : Instant) (c : Context) (w : World) :
    ∃ w', (loadSession now c).run env w = ((w.store.profilesFor env.now now c, c), w') ∧
      w'.store = w.store := by
  rw [loadSession_apply]
  cases hid : c.session with
  | none =>
      rw [MemoryStore.profilesFor_of_none hid]
      exact ⟨w, rfl, rfl⟩
  | some id =>
      rw [MemoryStore.profilesFor_of_some hid]
      dsimp only
      have happly : w.store.apply env.lifetime env.now (.get id profilesKey)
          = (.ok (w.store.get? env.now id profilesKey), w.store) := rfl
      rw [Plan.run_store, hworks.answer, happly]
      refine ⟨{ w with steps := w.steps + 1 }, ?_, rfl⟩
      cases w.store.get? env.now id profilesKey with
      | none => rfl
      | some value => rfl

/-- To do a step of the store is to apply it. -/
theorem run_step (hworks : env.Works) (step : StoreStep) (c : Context) (w : World) :
    (Turn.store step c).run env w
      = (((w.store.apply env.lifetime env.now step).1, c),
        { w with steps := w.steps + 1, store := (w.store.apply env.lifetime env.now step).2 }) := by
  rw [Turn.store, Plan.run_store, hworks.answer]
  rfl

/-- A value that is written can be read until the deadline that the write sets. -/
theorem run_set {deadline : Instant} (hworks : env.Works)
    (hadd : env.now.add? env.lifetime = some deadline) (id key : String) (value : Json)
    (c : Context) (w : World) :
    ∃ w', ((Turn.store (.set id key value) : Turn Unit) c).run env w = ((.ok (), c), w') ∧
      ∀ instant, deadline.before instant = false →
        w'.store.get? instant id key = some value := by
  obtain ⟨m, hm⟩ : ∃ m, w.store.set? env.lifetime env.now id key value = some m := by
    rw [MemoryStore.set?, hadd]
    exact ⟨_, rfl⟩
  have happly : w.store.apply env.lifetime env.now (.set id key value) = (.ok (), m) := by
    rw [MemoryStore.apply, hm]
  refine ⟨{ w with steps := w.steps + 1, store := m }, ?_, fun instant hlive => ?_⟩
  · refine (run_step hworks _ c w).trans ?_
    rw [happly]
  · obtain ⟨deadline', hadd', hget⟩ := MemoryStore.get?_set? hm
    cases hadd.symm.trans hadd'
    rw [hget, if_pos rfl, hlive, if_neg (by decide), if_pos rfl]

/-- There is a session after one was asked for, and nothing is noted by that. -/
theorem run_ensureSession (env : Surroundings) (c : Context) (w : World) :
    ∃ id c' w', (ensureSession c).run env w = ((.ok id, c'), w') ∧ c'.session = some id ∧
      c'.attributes = c.attributes := by
  rw [ensureSession_apply]
  cases hid : c.session with
  | none => exact ⟨_, _, _, rfl, rfl, rfl⟩
  | some id => exact ⟨id, c, w, rfl, hid, rfl⟩

end Scopes

/-! ## What each operation makes of the maps -/

theorem Context.noted_congr {c' : Context} (h : c'.attributes = c.attributes) (now : Instant) :
    c'.noted now = c.noted now := by
  rw [noted, noted, attribute?_congr h]

theorem Context.noted_withProfiles (c : Context) (s : ProfileSet) (now : Instant) :
    (c.withProfiles s).noted now = ProfileSet.ofValue now s.toJson := by
  rw [noted, profiles_withProfiles]
  rfl

/-- A session to which a value is written now lives on to an instant. -/
def Surroundings.Outlasts (env : Surroundings) (last : Instant) : Prop :=
  ∃ deadline, env.now.add? env.lifetime = some deadline ∧ deadline.before last = false

/-- A turn that ends well and leaves the entries of maps behind. -/
def Makes (first last : Instant) (env : Surroundings) (w : World) (c : Context) (x : Turn Unit)
    (maps : Maps) : Prop :=
  ∃ c' w', (x c).run env w = ((.ok (), c'), w') ∧ Mirrors first last maps w'.store c'

namespace Mirrors

/-- The request alone is written. -/
theorem noteProfiles (h : Mirrors first last maps m c) {s : ProfileSet}
    (hfresh : Fresh s.entries last) :
    Mirrors first last ⟨s.entries, maps.session⟩ m (c.withProfiles s) := by
  obtain ⟨-, hsession⟩ := List.forall_mem_append.mp h.fresh
  refine ⟨⟨s, rfl, fun now hnow => ?_⟩, h.session, List.forall_mem_append.mpr ⟨hfresh, hsession⟩⟩
  rw [Context.noted_withProfiles]
  exact ProfileSet.ofValue_toJson_of_within hnow hfresh

/-- The session alone is written. -/
theorem holdProfiles {c' : Context} {m' : MemoryStore} {id : String} {deadline : Instant}
    (h : Mirrors first last maps m c) {s : ProfileSet}
    (hfresh : Fresh s.entries last) (hattributes : c'.attributes = c.attributes)
    (hid : c'.session = some id) (hlast : deadline.before last = false)
    (hread : ∀ instant, deadline.before instant = false →
      m'.get? instant id profilesKey = some s.toJson) :
    Mirrors first last ⟨maps.request, s.entries⟩ m' c' := by
  obtain ⟨request, hrequest, hnoted⟩ := h.request
  obtain ⟨hfreshRequest, -⟩ := List.forall_mem_append.mp h.fresh
  refine ⟨⟨request, hrequest, fun now hnow => ?_⟩, ⟨s, rfl, fun instant now hinstant hnow => ?_⟩,
    List.forall_mem_append.mpr ⟨hfreshRequest, hfresh⟩⟩
  · rw [Context.noted_congr hattributes]
    exact hnoted now hnow
  · have hlive : deadline.before instant = false :=
      Instant.not_before_trans hinstant.notAfter hlast
    rw [MemoryStore.profilesFor_of_some hid, hread instant hlive]
    exact ProfileSet.ofValue_toJson_of_within hnow hfresh

/-- What is saved replaces the entries of the maps. -/
theorem makes_save (h : Mirrors first last maps w.store c) (hworks : env.Works) {s : ProfileSet}
    {toSession : Bool} (hfresh : Fresh s.entries last)
    (hlasts : toSession = true → env.Outlasts last) :
    Makes first last env w c (Scopes.save s toSession) (maps.keep s.entries toSession) := by
  have hnoted := h.noteProfiles hfresh
  rw [Makes, Scopes.save, Turn.change_bind]
  cases toSession with
  | false => exact ⟨c.withProfiles s, w, rfl, hnoted⟩
  | true =>
      obtain ⟨deadline, hadd, hlast⟩ := hlasts rfl
      obtain ⟨id, c₁, w₁, hensure, hid, hattributes⟩ :=
        Scopes.run_ensureSession env (c.withProfiles s) w
      obtain ⟨w', hset, hread⟩ := Scopes.run_set hworks hadd id profilesKey s.toJson c₁ w₁
      refine ⟨c₁, w', ?_, hnoted.holdProfiles hfresh hattributes hid hlast hread⟩
      exact (Turn.run_bind hensure).trans hset

/-- What is loaded from both places is what the maps hold. -/
theorem run_loadAll (h : Mirrors first last maps w.store c) (hworks : env.Works)
    (henv : Instant.Within first last env.now) (hnow : Instant.Within first last now)
    (withSession : Bool) :
    ∃ (s : ProfileSet) (w' : World), (Scopes.loadAll now withSession c).run env w
        = ((.ok s, c), w') ∧ w'.store = w.store ∧ s.entries = maps.all withSession := by
  obtain ⟨request, hrequest, hnoted⟩ := h.request
  obtain ⟨session, hsession, hheld⟩ := h.session
  have hrun : (Scopes.loadRequest now c).run env w = ((.ok request, c), w) := by
    rw [Scopes.loadRequest_apply, hnoted now hnow]
    rfl
  rw [Scopes.loadAll]
  cases withSession with
  | false =>
      refine ⟨request, w, ?_, rfl, hrequest⟩
      exact Turn.run_bind hrun
  | true =>
      obtain ⟨w', hload, hstore⟩ := Scopes.run_loadSession hworks now c w
      have hheld := hheld env.now now henv hnow
      rw [hheld] at hload
      refine ⟨request.merge session, w', ?_, hstore, ?_⟩
      · refine (Turn.run_bind hrun).trans ?_
        exact Turn.run_bind hload
      · rw [ProfileSet.entries_merge, hrequest, hsession]
        rfl

/-- Whatever is loaded is fresh to the end of the span. -/
theorem fresh_all (h : Mirrors first last maps m c) (withSession : Bool) :
    Fresh (maps.all withSession) last := by
  intro entry he
  rw [Maps.all] at he
  refine h.fresh entry (List.mem_append.mpr ?_)
  split at he
  · exact mem_overlay he
  · exact .inl he

/-- A profile that is saved is put among the entries that it stands beside. -/
theorem makes_saveProfile (h : Mirrors first last maps w.store c) (hworks : env.Works)
    (henv : Instant.Within first last env.now) (hnow : Instant.Within first last now)
    {client : String} {profile : Profile} {toSession multi : Bool}
    (hfresh : profile.isExpired last = false) (hlasts : toSession = true → env.Outlasts last) :
    Makes first last env w c (Scopes.saveProfile now client profile toSession multi)
      (maps.after (.saveProfile now client profile toSession multi)) := by
  obtain ⟨base, w₁, hrun, hstore, hentries⟩ : ∃ (base : ProfileSet) (w₁ : World),
      ((if multi then Scopes.loadAll now toSession else pure .empty : Turn ProfileSet) c).run env w
        = ((.ok base, c), w₁) ∧ w₁.store = w.store ∧
      base.entries = (if multi then maps.all toSession else []) := by
    cases multi with
    | false => exact ⟨.empty, w, rfl, rfl, rfl⟩
    | true => exact h.run_loadAll hworks henv hnow toSession
  have hbase : Fresh (base.insert client profile).entries last := by
    intro entry he
    rw [ProfileSet.entries_insert] at he
    rcases mem_putAt he with rfl | he
    · exact hfresh
    · rw [hentries] at he
      split at he
      · exact h.fresh_all toSession entry he
      · cases he
  rw [← hstore] at h
  obtain ⟨c', w', hsave, hmirrors⟩ := h.makes_save hworks hbase hlasts
  refine ⟨c', w', ?_, ?_⟩
  · cases multi with
    | false => exact (Turn.run_bind hrun).trans hsave
    | true => exact (Turn.run_bind hrun).trans hsave
  · rw [ProfileSet.entries_insert, hentries] at hmirrors
    exact hmirrors

/-- A client that is taken from the session is gone from its map. -/
theorem makes_removeFromSession (h : Mirrors first last maps w.store c) (hworks : env.Works)
    (henv : Instant.Within first last env.now) (hnow : Instant.Within first last now)
    {client : String} (hlasts : client ∈ maps.session.map Prod.fst → env.Outlasts last) :
    Makes first last env w c (Scopes.removeFromSession now client)
      ⟨maps.request, without client maps.session⟩ := by
  obtain ⟨session, hsession, hheld⟩ := h.session
  have hheld := hheld env.now now henv hnow
  have hload := Scopes.run_loadSession hworks now c w
  rw [Makes, Scopes.removeFromSession, Turn.context_bind]
  rw [hheld] at hload
  obtain ⟨w₁, hload, hstore⟩ := hload
  cases hid : c.session with
  | none =>
      -- without a session there is nothing to take away
      rw [MemoryStore.profilesFor_of_none hid] at hheld
      cases hheld
      have hnil : without client maps.session = maps.session := by
        rw [← hsession]
        rfl
      rw [hnil]
      exact ⟨c, w, rfl, h⟩
  | some id =>
      cases hcontains : session.contains client with
      | false =>
          have hnot : client ∉ maps.session.map Prod.fst := by
            rw [← hsession, ← ProfileSet.contains_iff, hcontains]
            exact Bool.false_ne_true
          rw [without_of_not_mem hnot]
          refine ⟨c, w₁, (Turn.run_bind hload).trans ?_, hstore ▸ h⟩
          rw [hcontains]
          rfl
      | true =>
          have hmem : client ∈ maps.session.map Prod.fst := by
            rw [← hsession, ← ProfileSet.contains_iff, hcontains]
          obtain ⟨deadline, hadd, hlast⟩ := hlasts hmem
          obtain ⟨w', hset, hread⟩ :=
            Scopes.run_set hworks hadd id profilesKey (session.erase client).toJson c w₁
          have hfresh : Fresh (session.erase client).entries last := by
            intro entry he
            refine h.fresh entry (List.mem_append_right _ ?_)
            exact hsession ▸ (List.mem_filter.mp he).1
          refine ⟨c, w', (Turn.run_bind hload).trans ?_, ?_⟩
          · rw [hcontains]
            exact hset
          · rw [← hsession, ← ProfileSet.entries_erase]
            exact h.holdProfiles hfresh rfl hid hlast hread

end Mirrors

/-- When the request can be read, its own profiles go first. -/
theorem Scopes.remove_of_noted {request : ProfileSet} (client : String)
    (h : c.noted now = .ok request) :
    remove now client c =
      removeFromSession now client
        (if request.contains client then c.withProfiles (request.erase client) else c) := by
  rw [remove, Turn.bind_apply, loadRequest_apply, Plan.done_bind, h, Turn.andThen_ok]
  cases request.contains client with
  | false => rfl
  | true => rfl

namespace Mirrors

/-- A client that is taken away is gone from both maps. -/
theorem makes_remove (h : Mirrors first last maps w.store c) (hworks : env.Works)
    (henv : Instant.Within first last env.now) (hnow : Instant.Within first last now)
    {client : String} (hlasts : client ∈ maps.session.map Prod.fst → env.Outlasts last) :
    Makes first last env w c (Scopes.remove now client) (maps.after (.remove now client)) := by
  obtain ⟨request, hrequest, hnoted⟩ := h.request
  rw [Makes, Scopes.remove_of_noted client (hnoted now hnow)]
  cases hcontains : request.contains client with
  | false =>
      have hnot : client ∉ maps.request.map Prod.fst := by
        rw [← hrequest, ← ProfileSet.contains_iff, hcontains]
        exact Bool.false_ne_true
      rw [Maps.after, without_of_not_mem hnot]
      exact h.makes_removeFromSession hworks henv hnow hlasts
  | true =>
      have hfresh : Fresh (request.erase client).entries last := by
        intro entry he
        refine h.fresh entry (List.mem_append_left _ ?_)
        exact hrequest ▸ (List.mem_filter.mp he).1
      have hmirrors := h.noteProfiles hfresh
      rw [Maps.after, ← hrequest, ← ProfileSet.entries_erase]
      exact hmirrors.makes_removeFromSession hworks henv hnow hlasts

/-- When everything is taken away, both maps are empty. -/
theorem makes_removeAll (hworks : env.Works) :
    Makes first last env w c Scopes.removeAll (maps.after .removeAll) := by
  have hnoted : ∀ now, (c.removeAttribute profilesKey).noted now = .ok .empty := by
    intro now
    rw [Context.noted, Context.attribute?, Context.removeAttribute, Dict.get?_erase, if_pos rfl]
    rfl
  rw [Makes, Scopes.removeAll, Turn.change_bind, Turn.context_bind]
  cases hid : c.session with
  | none =>
      have hid' : (c.removeAttribute profilesKey).session = none := hid
      rw [hid']
      refine ⟨_, w, rfl, ⟨.empty, rfl, fun now _ => hnoted now⟩, ⟨.empty, rfl, fun _ _ _ _ => ?_⟩,
        List.forall_mem_nil _⟩
      rw [MemoryStore.profilesFor_of_none hid']
  | some id =>
      have hid' : (c.removeAttribute profilesKey).session = some id := hid
      rw [hid']
      refine ⟨_, _, Scopes.run_step hworks (.remove id profilesKey) _ w,
        ⟨.empty, rfl, fun now _ => hnoted now⟩, ⟨.empty, rfl, fun instant _ _ _ => ?_⟩,
        List.forall_mem_nil _⟩
      have hgone := w.store.get?_remove_self instant id profilesKey
      rw [MemoryStore.profilesFor_of_some hid']
      exact congrArg (Gate.heldProfiles _ ∘ .ok) hgone

end Mirrors

/-! ## Courses of operations -/

/-- An operation on profiles within a span of time, which saves none that goes stale
    in it. -/
def Operation.Fits (first last : Instant) : Operation → Prop
  | .save profiles _ => Fresh profiles.entries last
  | .saveProfile now _ profile _ _ =>
      Instant.Within first last now ∧ profile.isExpired last = false
  | .remove now _ => Instant.Within first last now
  | .removeAll => True
  | _ => False

/-- A step of a request that is alone with a store that works.  If it writes to the
    session, that lives on to the end of the span. -/
structure Calm (first last : Instant) (maps : Maps) (step : Surroundings × Operation) : Prop where
  works : step.1.Works
  now : Instant.Within first last step.1.now
  fits : step.2.Fits first last
  lasts : maps.Writes step.2 → step.1.Outlasts last

/-- Steps that are calm one after the other. -/
def Calm.Course (first last : Instant) : Maps → List (Surroundings × Operation) → Prop
  | _, [] => True
  | maps, step :: rest =>
      Calm first last maps step ∧ Calm.Course first last (maps.after step.2) rest

/-- An operation ends well, and makes of the two places what it makes of the maps. -/
theorem mirrors_after {step : Surroundings × Operation} (h : Mirrors first last maps w.store c)
    (hcalm : Calm first last maps step) :
    ((step.2.turn c).run step.1 w).1.1 = .ok () ∧
      Mirrors first last (maps.after step.2) (Operation.after (w, c) step).1.store
        (Operation.after (w, c) step).2 := by
  obtain ⟨env, op⟩ := step
  have hmakes : Makes first last env w c op.turn (maps.after op) := by
    obtain ⟨hworks, henv, hfits, hlasts⟩ := hcalm
    cases op with
    | save profiles toSession =>
        exact h.makes_save hworks hfits hlasts
    | saveProfile now client profile toSession multi =>
        obtain ⟨hnow, hfresh⟩ := hfits
        exact h.makes_saveProfile hworks henv hnow hfresh hlasts
    | remove now client => exact h.makes_remove hworks henv hfits hlasts
    | removeAll => exact Mirrors.makes_removeAll hworks
    | setLoaded loaded => exact hfits.elim
    | renewSession => exact hfits.elim
    | saveRequestedUrl url => exact hfits.elim
    | decide gate config p now => exact hfits.elim
  obtain ⟨c', w', hrun, hmirrors⟩ := hmakes
  rw [Operation.after]
  dsimp only
  rw [hrun]
  exact ⟨rfl, hmirrors⟩

/-- The two places mirror the maps all along a calm course. -/
theorem mirrors_course {done rest : List (Surroundings × Operation)}
    (h : Mirrors first last maps w.store c) (hcalm : Calm.Course first last maps (done ++ rest)) :
    Mirrors first last (maps.course (done.map Prod.snd)) (Operation.course done (w, c)).1.store
        (Operation.course done (w, c)).2 ∧
      Calm.Course first last (maps.course (done.map Prod.snd)) rest := by
  induction done generalizing maps w c with
  | nil => exact ⟨h, hcalm⟩
  | cons step others ih =>
      obtain ⟨hstep, hothers⟩ := hcalm
      obtain ⟨-, hafter⟩ := mirrors_after h hstep
      exact ih hafter hothers

/-- Profiles are loaded, in order, and nothing is changed by it. -/
def Loads (env : Surroundings) (w : World) (c : Context) (x : Turn ProfileSet)
    (entries : List (String × Profile)) : Prop :=
  ∃ s w', (x c).run env w = ((.ok s, c), w') ∧ w'.store = w.store ∧ s.entries = entries

/-- The profiles of a request and its session behave as two ordered maps.  They begin
    with what is fresh in the two places, and nothing ends in the span of time that is
    looked at.  Then every operation of a course ends well, and at every point of it the
    profiles that are loaded, from the request, from the session or from both, are those
    of the maps, in their order; none of them is stale. -/
theorem loads_maps {request session : ProfileSet} {steps : List (Surroundings × Operation)}
    (hbegins : Begins first last request session w.store c)
    (hcalm : Calm.Course first last ⟨request.entries, session.entries⟩ steps) :
    ∀ done rest, steps = done ++ rest →
      let maps := Maps.course ⟨request.entries, session.entries⟩ (done.map Prod.snd)
      let (w', c') := Operation.course done (w, c)
      (∀ step ∈ rest.head?, ((step.2.turn c').run step.1 w').1.1 = .ok ()) ∧
        ∀ env now, env.Works → Instant.Within first last env.now → Instant.Within first last now →
          Loads env w' c' (Scopes.loadRequest now) maps.request ∧
            Loads env w' c' (Scopes.loadSession now) maps.session ∧
            (∀ withSession, Loads env w' c' (Scopes.loadAll now withSession) (maps.all withSession)) ∧
            Fresh (maps.request ++ maps.session) now := by
  rintro done rest rfl
  obtain ⟨hmirrors, hrest⟩ := mirrors_course hbegins.mirrors hcalm
  -- from here on it does not matter how the course came to this point
  generalize Maps.course _ (done.map Prod.snd) = maps at hmirrors hrest ⊢
  generalize Operation.course done (w, c) = reached at hmirrors ⊢
  obtain ⟨w', c'⟩ := reached
  refine ⟨fun step hstep => ?_, fun env now hworks henv hnow => ⟨?_, ?_, fun withSession => ?_, ?_⟩⟩
  · obtain ⟨others, rfl⟩ := List.head?_eq_some_iff.mp hstep
    exact (mirrors_after hmirrors hrest.1).1
  · obtain ⟨s, hs, hnoted⟩ := hmirrors.request
    refine ⟨s, _, ?_, rfl, hs⟩
    rw [Scopes.loadRequest_apply, hnoted now hnow]
    rfl
  · obtain ⟨s, hs, hheld⟩ := hmirrors.session
    obtain ⟨w', hload, hstore⟩ := Scopes.run_loadSession hworks now _ _
    rw [hheld env.now now henv hnow] at hload
    exact ⟨s, w', hload, hstore, hs⟩
  · obtain ⟨s, w', hload, hstore, hs⟩ := hmirrors.run_loadAll hworks henv hnow withSession
    exact ⟨s, w', hload, hstore, hs⟩
  · exact fun entry he => Profile.fresh_of_fresh hnow.notAfter (hmirrors.fresh entry he)

/-! A visitor comes with a session in which the profile of `A` is stale.  `A` knows the
    visitor anew and is noted aside, `C` is saved beside the others, and `B` is taken away. -/

/-- What the session holds: a stale profile before a fresh one. -/
def deskProfiles : ProfileSet :=
  .ofList [("A", (Profile.ofId "old").withExpiry (.mk 5 0)), ("B", .ofId "jroe")]

/-- The store with the session, and the request that presents it. -/
def deskStart : World × Context :=
  (.ofStore (.ofSession "s" [(profilesKey, deskProfiles.toJson)]),
    .ofRequest ⟨"GET", .root, [], []⟩ (some "s"))

/-- The three operations. -/
def deskSteps : List (Surroundings × Operation) :=
  [(.still (.mk 11 0), .saveProfile (.mk 11 0) "A" (.ofId "jdoe") false true),
    (.still (.mk 12 0), .saveProfile (.mk 12 0) "C" (.ofId "guest") true true),
    (.still (.mk 13 0), .remove (.mk 13 0) "B")]

theorem deskStart_begins : Begins (.mk 10 0) (.mk 20 0) .empty (.single "B" (.ofId "jroe"))
    deskStart.1.store deskStart.2 := by
  refine ⟨rfl, by decide, ?_, ?_⟩
  · intro entry he
    cases List.mem_singleton.mp he
    rfl
  · intro id s hid hlive
    cases hid
    cases hlive
    rfl

theorem deskSteps_calm (maps : Maps) : Calm.Course (.mk 10 0) (.mk 20 0) maps deskSteps := by
  have hworks : ∀ now, (Surroundings.still now).Works := fun _ _ _ => rfl
  refine ⟨?_, ?_, ?_, trivial⟩
  · exact ⟨hworks _, ⟨rfl, rfl⟩, ⟨⟨rfl, rfl⟩, rfl⟩, fun _ => ⟨.mk 1811 0, rfl, rfl⟩⟩
  · exact ⟨hworks _, ⟨rfl, rfl⟩, ⟨⟨rfl, rfl⟩, rfl⟩, fun _ => ⟨.mk 1812 0, rfl, rfl⟩⟩
  · exact ⟨hworks _, ⟨rfl, rfl⟩, ⟨rfl, rfl⟩, fun _ => ⟨.mk 1813 0, rfl, rfl⟩⟩

/-- The profile of `A` that is read at the end is the one that was noted, and the stale one
    has left no trace in the order. -/
theorem loads_maps_desk :
    Loads (.still (.mk 14 0)) (Operation.course deskSteps deskStart).1
      (Operation.course deskSteps deskStart).2 (Scopes.loadAll (.mk 14 0) true)
      [("A", .ofId "jdoe"), ("C", .ofId "guest")] := by
  obtain ⟨-, hloads⟩ := loads_maps deskStart_begins (deskSteps_calm _) deskSteps []
    (List.append_nil _).symm
  obtain ⟨-, -, hall, -⟩ := hloads (.still (.mk 14 0)) (.mk 14 0) (fun _ _ => rfl) ⟨rfl, rfl⟩ ⟨rfl, rfl⟩
  exact hall true

end AccessGate
