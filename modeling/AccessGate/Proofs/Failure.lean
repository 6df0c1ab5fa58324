import AccessGate.Proofs.Events

/-! # Decisions that fail

    A decision that ends in an error should leave nothing behind.  It nearly
    does.  Every store step of a failed decision is a look-up or a write that
    failed, with one exception: before fresh profiles are written, the session
    that the caller presented is moved to a fresh id, and when the write after
    the move fails, nothing moves it back.

    `failed_keeps_iff` says when exactly a failed decision leaves every value
    readable where it was, for every schedule of failing store steps. -/

namespace AccessGate

namespace MemoryStore

variable {m m' : MemoryStore} {lifetime : Lifetime} {now : Instant} {old new : String}

/-- A move of a session shows in what can be read.  To an id of its own it shows
    unless nothing can be read under either id; onto itself only when its new
    deadline has passed already. -/
def MoveShows (lifetime : Lifetime) (now : Instant) (m : MemoryStore) (old new : String) : Prop :=
  (m.live? now old).isSome = true ∧
    if old = new then
      (∀ deadline, now.add? lifetime = some deadline → deadline.before now = true) ∧
        ∃ key, (m.get? now old key).isSome = true
    else ∃ key, (m.get? now old key).isSome = true ∨ (m.get? now new key).isSome = true

/-- The move of a live session shows if the calendar has its new deadline and something is read
    otherwise then. -/
private theorem moveShows_of_live {s : Session} {deadline : Instant}
    (h : m.sessions.get? old = some s) (hl : s.isLive now = true)
    (hd : now.add? lifetime = some deadline) :
    m.MoveShows lifetime now old new ↔
      ∃ id key, (m.renew lifetime now old new).2.get? now id key ≠ m.get? now id key := by
  have hlive : (m.live? now old).isSome = true := by
    rw [live?, h, Option.filter_some, if_pos hl]
    rfl
  have hold : ∀ key, m.get? now old key = s.values.get? key := fun key => by
    rw [get?_of_kept h, if_pos hl]
  by_cases hne : old = new
  · subst hne
    rw [MoveShows, if_pos rfl]
    constructor
    · rintro ⟨-, hpast, key, hkey⟩
      refine ⟨old, key, ?_⟩
      rw [get?_renew_of_live h hl hd, if_pos rfl, if_pos (hpast deadline hd)]
      intro heq
      rw [← heq] at hkey
      exact Bool.noConfusion hkey
    · rintro ⟨id, key, hdiff⟩
      rw [get?_renew_of_live h hl hd] at hdiff
      by_cases hid : id = old
      · subst hid
        rw [if_pos rfl, hold] at hdiff
        by_cases hpast : deadline.before now = true
        · rw [if_pos hpast] at hdiff
          refine ⟨hlive, ?_, key, ?_⟩
          · intro other ho
            rw [hd] at ho
            cases ho
            exact hpast
          · rw [hold]
            exact Option.isSome_iff_ne_none.mpr (Ne.symm hdiff)
        · rw [if_neg hpast] at hdiff
          exact absurd rfl hdiff
      · rw [if_neg hid, if_neg hid] at hdiff
        exact absurd rfl hdiff
  · rw [MoveShows, if_neg hne]
    constructor
    · rintro ⟨-, key, hkey⟩
      by_cases hread : (m.get? now old key).isSome = true
      · -- what could be read under the old id is gone from there
        refine ⟨old, key, ?_⟩
        rw [get?_renew_of_live h hl hd, if_neg hne, if_pos rfl]
        intro heq
        rw [← heq] at hread
        exact Bool.noConfusion hread
      · -- what could be read under the new id is gone with the session that stood there
        have hnone : s.values.get? key = none := by
          rw [← hold]
          exact Option.not_isSome_iff_eq_none.mp hread
        have hnew := hkey.resolve_left hread
        refine ⟨new, key, ?_⟩
        rw [get?_renew_of_live h hl hd, if_pos rfl, hnone, ite_self]
        intro heq
        rw [← heq] at hnew
        exact Bool.noConfusion hnew
    · rintro ⟨id, key, hdiff⟩
      refine ⟨hlive, key, ?_⟩
      rw [get?_renew_of_live h hl hd] at hdiff
      by_cases hid : id = new
      · subst hid
        rw [if_pos rfl, ← hold] at hdiff
        by_contra hnone
        rw [not_or, Option.not_isSome_iff_eq_none, Option.not_isSome_iff_eq_none] at hnone
        rw [hnone.1, hnone.2, ite_self] at hdiff
        exact hdiff rfl
      · rw [if_neg hid] at hdiff
        by_cases ho : id = old
        · subst ho
          rw [if_pos rfl] at hdiff
          exact .inl (Option.isSome_iff_ne_none.mpr (Ne.symm hdiff))
        · rw [if_neg ho] at hdiff
          exact absurd rfl hdiff

/-- A move that was done changes what can be read just when it shows. -/
theorem moveShows_iff (hok : (m.renew lifetime now old new).1 = .ok ()) :
    m.MoveShows lifetime now old new ↔
      ∃ id key, (m.renew lifetime now old new).2.get? now id key ≠ m.get? now id key := by
  cases hs : m.sessions.get? old with
  | none =>
      rw [renew_of_none hs]
      constructor
      · rintro ⟨hlive, -⟩
        rw [live?, hs] at hlive
        exact Bool.noConfusion hlive
      · rintro ⟨id, key, hdiff⟩
        exact absurd rfl hdiff
  | some s =>
      cases hl : s.isLive now with
      | false =>
          rw [renew_of_ended hs hl]
          constructor
          · rintro ⟨hlive, -⟩
            rw [live?, hs, Option.filter_some, hl] at hlive
            exact Bool.noConfusion hlive
          · rintro ⟨id, key, hdiff⟩
            exact absurd (get?_destroy_of_ended hs hl id key) hdiff
      | true =>
          cases hd : now.add? lifetime with
          | none =>
              rw [renew_of_outside hs hl hd] at hok
              cases hok
          | some deadline => exact moveShows_of_live hs hl hd

end MemoryStore

/-! ## The trace of a decision that fails -/

/-- Nothing on a trace changes a store but one move of a session at most, and
    that is done or fails with the error. -/
inductive Fruitless (e : Error) : List Event → Prop
  | idle {t : List Event} : (∀ event ∈ t, event.Idle) → Fruitless e t
  | moved {t u : List Event} {old new : String} {answer : Except Error Unit} :
      (∀ event ∈ t, event.Idle) → (∀ event ∈ u, event.Idle) →
      answer = .ok () ∨ answer = .error e →
      Fruitless e (t ++ .stored (.renew old new) answer :: u)

/-- What leaves the store alone may come before a failure. -/
theorem Fruitless.append {e : Error} {t u : List Event} (ht : ∀ event ∈ t, event.Idle)
    (h : Fruitless e u) : Fruitless e (t ++ u) := by
  cases h with
  | idle hu => exact .idle (List.forall_mem_append.mpr ⟨ht, hu⟩)
  | moved hu hv hanswer =>
      rw [← List.append_assoc]
      exact .moved (List.forall_mem_append.mpr ⟨ht, hu⟩) hv hanswer

namespace Gate

variable {now : Instant} {settings : Settings} {multi : Bool} {clients : List Client}
  {c c' : Context} {t : List Event} {s : ProfileSet} {e : Error}

/-- A redirect that fails has not written anything. -/
private theorem Redirects.idle_of_error {client : Client}
    (h : Redirects settings client c t (.error e) c') : ∀ event ∈ t, event.Idle := by
  generalize hr : Except.error e = r at h
  cases h with
  | failed e ha => exact List.forall_mem_singleton.mpr trivial
  | answered a ha hl => cases hr
  | toldOff a ha hl ht => cases hr
  | forgotten a ha hl ht hk => cases hr
  | remembered a answer ha hl ht hk he =>
      cases answer with
      | ok done => cases hr
      | error e' =>
          refine List.forall_mem_cons.mpr ⟨trivial, List.forall_mem_append.mpr ⟨he.idle, ?_⟩⟩
          exact List.forall_mem_singleton.mpr trivial

/-- When nobody could be looked for, nothing was changed. -/
private theorem Authenticates.idle_of_error
    (h : Authenticates now settings multi clients c t (.error e) c') :
    ∀ event ∈ t, event.Idle := by
  cases h with
  | unreadable _ hne hn => exact List.forall_mem_nil _
  | directFailed _ hne hn hs hd => exact idle_called _
  | session hne hn hs hd hf hi hc =>
      refine List.forall_mem_append.mpr ⟨idle_called _, ?_⟩
      cases hc with
      | failed _ ha => exact ha.idle
      | sent _ client ha hk hcl hr =>
          exact List.forall_mem_append.mpr ⟨ha.idle, hr.idle_of_error⟩

/-- A session that was moved may be all that is left of a decision that failed. -/
private theorem Renews.fruitless {answer : Except Error Unit}
    (h : Scopes.Renews c t answer c') (hanswer : answer = .ok () ∨ answer = .error e)
    {u : List Event} (hu : ∀ event ∈ u, event.Idle) : Fruitless e (t ++ u) := by
  cases h with
  | kept hi => exact .idle hu
  | issued octets hi hs => exact .idle (List.forall_mem_cons.mpr ⟨trivial, hu⟩)
  | moved octets before _ hi hs =>
      have hdrawn : ∀ event ∈ [Event.drawn sessionIdOctets octets], event.Idle :=
        List.forall_mem_singleton.mpr trivial
      exact .moved hdrawn hu hanswer

/-- Remembering that fails leaves a moved session at most. -/
private theorem Remembers.fruitless (h : Remembers settings s c t (.error e) c') :
    Fruitless e t := by
  generalize hr : Except.error e = r at h
  cases h with
  | noted hl hd => cases hr
  | unmoved hl hd hm =>
      cases hr
      have hf := Renews.fruitless hm (.inr rfl) (List.forall_mem_nil _)
      rw [List.append_nil] at hf
      exact hf
  | moved answer hl hd hm he =>
      cases answer with
      | ok done => cases hr
      | error e' =>
          cases hr
          -- the move was done, and the write after it failed
          exact Renews.fruitless hm (.inl rfl) (List.forall_mem_append.mpr ⟨he.idle,
            List.forall_mem_singleton.mpr trivial⟩)
  | kept answer hl he =>
      cases answer with
      | ok done => cases hr
      | error e' =>
          refine .idle (List.forall_mem_append.mpr ⟨he.idle, ?_⟩)
          exact List.forall_mem_singleton.mpr trivial

/-- A decision that fails changes no store but by moving the session. -/
theorem Decides.fruitless {g : Gate} {config : Option Config} {p : Parameters}
    (h : Decides g config p now c t (.error e) c') : Fruitless e t := by
  generalize hr : Except.error e = r at h
  cases h with
  | missing part hnone => exact .idle (List.forall_mem_nil _)
  | unmatched _ hparts hm => exact .idle (idle_called _)
  | bypassed hparts hm => cases hr
  | unresolved _ hparts hm hc => exact .idle (idle_called _)
  | ready hready ha hc =>
      refine .append (idle_called _) ?_
      cases hc with
      | failed _ => exact .append ha.idle_of_error (.idle (List.forall_mem_nil _))
      | answered a => cases hr
      | unknown => cases hr
      | unjudged _ hv =>
          obtain ⟨-, source, -, hf⟩ := ha.finds
          exact .append hf.idle (.idle (idle_called _))
      | refused a hv ho => cases hr
      | @passed s v r c' hv hm =>
          obtain ⟨-, source, -, hf⟩ := ha.finds
          cases r with
          | ok loaded => cases hr
          | error e' =>
              cases hr
              exact .append hf.idle (.append (idle_called _) hm.fruitless)

end Gate

/-! ## What can be read afterwards -/

/-- A fruitless trace leaves what can be read just when no move that was done shows. -/
theorem Fruitless.keeps_iff {e : Error} {t : List Event} {lifetime : Lifetime} {now : Instant}
    {m m' : MemoryStore} (h : Fruitless e t) (he : e ≠ .calendar)
    (hr : MemoryStore.Replays lifetime now m t m') :
    (∀ id key, m'.get? now id key = m.get? now id key) ↔
      ¬ ∃ old new, .stored (.renew old new) (.ok ()) ∈ t ∧ m.MoveShows lifetime now old new := by
  cases h with
  | idle hi =>
      rw [MemoryStore.eq_of_replays_idle hr hi]
      refine ⟨?_, fun _ _ _ => rfl⟩
      rintro - ⟨old, new, hmem, -⟩
      exact hi _ hmem
  | @moved t u old new answer ht hu hanswer =>
      obtain ⟨m₁, hbefore, hrest⟩ := MemoryStore.replays_append.mp hr
      rw [MemoryStore.eq_of_replays_idle hbefore ht] at hrest
      obtain ⟨m₂, hd, hafter⟩ := MemoryStore.replays_cons.mp hrest
      rw [MemoryStore.eq_of_replays_idle hafter hu]
      -- the move is the only one on the trace
      have honly : ∀ old' new', .stored (.renew old' new') (.ok ())
          ∈ t ++ .stored (.renew old new) answer :: u →
          old' = old ∧ new' = new ∧ answer = .ok () := by
        intro old' new' hmem
        rcases List.mem_append.mp hmem with hmem | hmem
        · exact (ht _ hmem).elim
        · rcases List.mem_cons.mp hmem with heq | hmem
          · cases heq
            exact ⟨rfl, rfl, rfl⟩
          · exact (hu _ hmem).elim
      rcases MemoryStore.does_stored.mp hd with ⟨hworks, rfl⟩ | ⟨rfl, e', hfails⟩
      -- the move did its work; had it run out of calendar, the decision had ended so
      · have hok : (m.renew lifetime now old new).1 = .ok () := by
          rcases hanswer with hanswer | hanswer
          · exact hworks.symm.trans hanswer
          · exact absurd (MemoryStore.renew_error (hworks.symm.trans hanswer)) he
        constructor
        · rintro hkeeps ⟨old', new', hmem, hshows⟩
          obtain ⟨rfl, rfl, -⟩ := honly old' new' hmem
          obtain ⟨id, key, hdiff⟩ := (MemoryStore.moveShows_iff hok).mp hshows
          exact hdiff (hkeeps id key)
        · intro hnot id key
          by_contra hdiff
          refine hnot ⟨old, new, ?_, (MemoryStore.moveShows_iff hok).mpr ⟨id, key, hdiff⟩⟩
          rw [show answer = .ok () from hworks.trans hok]
          exact List.mem_append_right _ List.mem_cons_self
      -- the move failed and did nothing, so the trace has none that was done
      · refine ⟨?_, fun _ _ _ => rfl⟩
        rintro - ⟨old', new', hmem, -⟩
        obtain ⟨-, -, hanswer⟩ := honly old' new' hmem
        rw [hfails] at hanswer
        cases hanswer

/-- A failed decision leaves every value readable where it was, whatever step
    failed, unless it had moved a session with something to read: then the
    write after the move failed, and the session is under another id.  Of the
    errors only `calendar` is left out, which ends the run and not the decision. -/
theorem Gate.failed_keeps_iff {g : Gate} {config : Option Config} {p : Parameters}
    {now : Instant} {c c' : Context} {e : Error} {env : Surroundings} {w : World}
    (h : ((g.decide config p now c).run env w).1 = (.error e, c')) (he : e ≠ .calendar) :
    (∀ id key, ((g.decide config p now c).run env w).2.store.get? env.now id key
        = w.store.get? env.now id key) ↔
      ¬ ∃ old new, .stored (.renew old new) (.ok ()) ∈ (g.decide config p now c).trace env w ∧
        w.store.MoveShows env.lifetime env.now old new := by
  have hends := Plan.ends_trace env (g.decide config p now c) w
  rw [h] at hends
  exact (ends_decide hends).fruitless.keeps_iff he (Plan.replays_trace env _ w)

/-! A visitor with a cart comes back and is known, but nothing can be written. -/

/-- A store with one session, in which there is a cart. -/
def cartStore : MemoryStore := .ofSession "s" [("cart", .str "full")]

/-- Surroundings in which every write fails. -/
def unwritable : Surroundings :=
  { Surroundings.still .epoch with
    fails := fun _ step => if step.verb = "set" then some (.session "set is down") else none }

/-- A decision that would keep a visitor in the session. -/
def keepingDecision : Plan (Except Error Outcome × Context) :=
  (Gate.ofSettings {}).decide (some (.anonymous { saveDirect := true }))
    default .epoch (.ofRequest ⟨"GET", .root, [], []⟩ (some "s"))

/-- The decision fails, and the cart is gone from the session that the visitor holds. -/
theorem failed_moves_cart :
    (∃ c', (keepingDecision.run unwritable (World.ofStore cartStore)).1
      = (.error (.session "set is down"), c')) ∧
      cartStore.get? .epoch "s" "cart" = some (.str "full") ∧
      (keepingDecision.run unwritable (World.ofStore cartStore)).2.store.get? .epoch "s" "cart"
        = none :=
  ⟨⟨_, rfl⟩, rfl, rfl⟩

/-- What can be read has changed, so a move was done and shows. -/
theorem failed_keeps_iff_cart :
    ∃ old new, .stored (.renew old new) (.ok ())
        ∈ keepingDecision.trace unwritable (World.ofStore cartStore) ∧
      cartStore.MoveShows unwritable.lifetime unwritable.now old new := by
  by_contra hnot
  have hkeeps := (Gate.failed_keeps_iff (g := .ofSettings {})
    (p := default) (c := .ofRequest ⟨"GET", .root, [], []⟩ (some "s"))
    (e := .session "set is down") (w := World.ofStore cartStore) rfl (by decide)).mpr hnot
  cases hkeeps "s" "cart"

end AccessGate
