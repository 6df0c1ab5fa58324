import AccessGate.Proofs.Frame

/-! # No interference between sessions

    What a decision comes to rests on one thing in the store: the profiles that can
    be read under the session id of its context.  Two runs over stores that agree
    on it go the same way, step by step, whatever else the stores hold.

    A decision reads before it writes (`Decides.phased`), so up to its first write
    both stores are as they were and answer alike, and from there on neither answers
    anything but that the work is done.  The exception is a deadline that the
    calendar does not have: then both decisions fail for it, if not at the same step. -/

namespace AccessGate

/-! ## Two runs of one plan -/

/-- The call that an event is, if it is one. -/
def Event.call? : Event → Option Call
  | .called call => some call
  | _ => none

/-- The calls on a trace, in order. -/
def callsOf (t : List Event) : List Call := t.filterMap Event.call?

@[simp] theorem callsOf_append (t u : List Event) : callsOf (t ++ u) = callsOf t ++ callsOf u :=
  List.filterMap_append

namespace Plan

variable {α : Type} {env : Surroundings}

/-- The log of a run holds the calls on its trace, the last one first. -/
theorem calls_run (p : Plan α) (w : World) :
    (p.run env w).2.calls = (callsOf (p.trace env w)).reverse ++ w.calls := by
  induction p generalizing w with
  | done value => rfl
  | store step next ih =>
      rw [run_store, ih]
      have hcalls : (env.answer step w).2.calls = w.calls := by
        rw [Surroundings.answer]
        cases env.fails w.steps step with
        | some e => rfl
        | none => rfl
      rw [hcalls]
      rfl
  | random count next ih => exact ih _ _
  | note call next ih =>
      refine (ih _).trans ?_
      show _ = (call :: callsOf (next.trace env _)).reverse ++ w.calls
      rw [List.reverse_cons, List.append_assoc]
      rfl

/-- Where two runs of a plan stand after the same path, by what is left of their
    traces: both are at the end with the same value, or they ask for the same. -/
def Abreast (v v' : List Event) (a a' : α) : Prop :=
  (v = [] → v' = [] ∧ a' = a) ∧
    ∀ step answer rest, v = .stored step answer :: rest →
      ∃ answer' rest', v' = .stored step answer' :: rest'

/-- A plan that runs in two worlds is abreast of itself at the start. -/
private theorem abreast_start (p : Plan α) (w w' : World) :
    Abreast (p.trace env w) (p.trace env w') (p.run env w).1 (p.run env w').1 := by
  cases p with
  | done value => exact ⟨fun _ => ⟨rfl, rfl⟩, nofun⟩
  | random count next => exact ⟨nofun, nofun⟩
  | note call next => exact ⟨nofun, nofun⟩
  | store step next =>
      refine ⟨nofun, ?_⟩
      rintro _ answer rest ⟨⟩
      exact ⟨_, _, rfl⟩

/-- A second store takes a run along the same path for as long as the events can be
    replayed on it. -/
theorem abreast_of_replays (hworks : ∀ n step, env.fails n step = none) {p : Plan α} {w : World}
    {m m' : MemoryStore} {u v : List Event} (ht : p.trace env w = u ++ v)
    (hok : ∀ step e, .stored step (.error e) ∉ u)
    (hr : MemoryStore.Replays env.lifetime env.now m u m') :
    ∃ v', p.trace env { w with store := m } = u ++ v' ∧
      Abreast v v' (p.run env w).1 (p.run env { w with store := m }).1 := by
  induction u generalizing p w m with
  | nil =>
      obtain rfl := ht
      exact ⟨_, rfl, abreast_start p _ _⟩
  | cons event u ih =>
      have hok' : ∀ step e, .stored step (.error e) ∉ u := fun step e hmem =>
        hok step e (List.mem_cons_of_mem _ hmem)
      obtain ⟨m₁, hd, hrest⟩ := MemoryStore.replays_cons.mp hr
      cases p with
      | done value => cases ht
      | random count next =>
          obtain ⟨rfl, htail⟩ := List.cons.inj ht
          cases hd
          obtain ⟨v', htrace, hnext⟩ := ih htail hok' hrest
          exact ⟨v', congrArg _ htrace, hnext⟩
      | note call next =>
          obtain ⟨rfl, htail⟩ := List.cons.inj ht
          cases hd
          obtain ⟨v', htrace, hnext⟩ := ih htail hok' hrest
          exact ⟨v', congrArg _ htrace, hnext⟩
      | store step next =>
          obtain ⟨rfl, htail⟩ := List.cons.inj ht
          obtain ⟨v', htrace, hnext⟩ := ih htail hok' hrest
          -- the answer was no error, so the second store gives it too
          have hanswer : env.answer step { w with store := m }
              = ((env.answer step w).1, { (env.answer step w).2 with store := m₁ }) := by
            rcases MemoryStore.does_stored.mp hd with ⟨ha, rfl⟩ | ⟨-, e, he⟩
            · rw [ha]
              simp only [Surroundings.answer, hworks]
            · exact absurd (he ▸ List.mem_cons_self) (hok step e)
          rw [run_store, run_store, trace, hanswer]
          exact ⟨v', congrArg _ htrace, hnext⟩

end Plan

/-! ## Reading before writing -/

namespace Gate

/-- What happens before anything is written: in the store, no more is read than the
    profiles of one session. -/
inductive Reading (session : Option String) : Event → Prop
  | called (call : Call) : Reading session (.called call)
  | drawn (count : Nat) (octets : List UInt8) : Reading session (.drawn count octets)
  | lookedUp {id : String} (answer : Except Error (Option Json)) : session = some id →
      Reading session (.stored (.get id profilesKey) answer)

/-- What happens from the first write on: nothing is read, and nobody is called. -/
inductive Writing : Event → Prop
  | drawn (count : Nat) (octets : List UInt8) : Writing (.drawn count octets)
  | written (id key : String) (value : Json) (answer : Except Error Unit) :
      Writing (.stored (.set id key value) answer)
  | moved (old new : String) (answer : Except Error Unit) :
      Writing (.stored (.renew old new) answer)

/-- What is written does not depend on the answer. -/
theorem Writing.other {step : StoreStep} {answer : Except Error step.Answer}
    (h : Writing (.stored step answer)) (answer' : Except Error step.Answer) :
    Writing (.stored step answer') := by
  cases h with
  | written id key value _ => exact .written id key value answer'
  | moved old new _ => exact .moved old new answer'

/-- Nobody is called while the store is written to. -/
theorem callsOf_writing {v : List Event} (h : ∀ event ∈ v, Writing event) : callsOf v = [] := by
  refine List.filterMap_eq_nil_iff.mpr fun event hmem => ?_
  cases h event hmem with
  | drawn count octets => rfl
  | written id key value answer => rfl
  | moved old new answer => rfl

/-- A trace that reads before it writes. -/
inductive Phased (session : Option String) : List Event → Prop
  | reads {u : List Event} : (∀ event ∈ u, Reading session event) → Phased session u
  | writes {u v : List Event} {step : StoreStep} {answer : Except Error step.Answer} :
      (∀ event ∈ u, Reading session event) →
      (∀ event ∈ .stored step answer :: v, Writing event) →
      Phased session (u ++ .stored step answer :: v)

variable {g : Gate} {config : Option Config} {p : Parameters} {now : Instant}
  {settings : Settings} {multi : Bool} {clients : List Client} {client : Client}
  {c c' : Context} {session : Option String} {t u v : List Event} {s : ProfileSet}
  {found : Except Error (Attempt ProfileSet)} {r : Except Error Outcome} {e : Error}

/-- What only reads may come before a trace in two phases. -/
theorem Phased.append (hu : ∀ event ∈ u, Reading session event) (h : Phased session t) :
    Phased session (u ++ t) := by
  cases h with
  | reads ht => exact .reads (List.forall_mem_append.mpr ⟨hu, ht⟩)
  | writes ht hv =>
      rw [← List.append_assoc]
      exact .writes (List.forall_mem_append.mpr ⟨hu, ht⟩) hv

/-- Behind a write there are only writes. -/
theorem Phased.writing {step : StoreStep} {answer : Except Error step.Answer}
    (h : Phased session (u ++ .stored step answer :: v)) (hw : Writing (.stored step answer)) :
    ∀ event ∈ v, Writing event := by
  have hread : ∀ u' : List Event, (∀ event ∈ u', Reading session event) →
      .stored step answer ∉ u' := by
    intro u' hu' hmem
    cases hu' _ hmem with
    | lookedUp _ hs => cases hw
  generalize ht : u ++ .stored step answer :: v = t at h
  cases h with
  | reads hu' =>
      subst ht
      exact absurd (List.mem_append_right _ List.mem_cons_self) (hread _ hu')
  | @writes u' v' step' answer' hu' hv' =>
      rcases List.append_eq_append_iff.mp ht with ⟨w, rfl, htail⟩ | ⟨w, rfl, htail⟩
      · cases w with
        | nil =>
            obtain ⟨-, rfl⟩ := List.cons.inj htail
            exact fun event hmem => hv' event (List.mem_cons_of_mem _ hmem)
        | cons event w =>
            obtain ⟨rfl, -⟩ := List.cons.inj htail
            exact absurd (List.mem_append_right _ List.mem_cons_self) (hread _ hu')
      · intro event hmem
        refine hv' event ?_
        rw [htail]
        exact List.mem_append_right _ (List.mem_cons_of_mem _ hmem)

private theorem reading_called (calls : List Call) :
    ∀ event ∈ calls.map Event.called, Reading session event := by
  intro event hmem
  obtain ⟨call, -, rfl⟩ := List.mem_map.mp hmem
  exact .called call

/-- To begin a session reads nothing and writes nothing. -/
private theorem Scopes.Ensures.reading {id : String} (h : Scopes.Ensures c t id c') :
    ∀ event ∈ t, Reading session event := by
  intro event hmem
  obtain ⟨octets, rfl⟩ := h.drawn event hmem
  exact .drawn _ octets

/-- A session is read under its own id. -/
private theorem Asks.reading {held : Except Error ProfileSet} (h : Asks now c t held) :
    ∀ event ∈ t, Reading c.session event := by
  cases h with
  | nowhere hs => exact List.forall_mem_nil _
  | asked answer hs => exact List.forall_mem_singleton.mpr (.lookedUp answer hs)

/-- To find profiles only reads. -/
private theorem Finds.reading {source : Source} (h : Finds now multi clients c t s source) :
    ∀ event ∈ t, Reading c.session event := by
  cases h with
  | request hcl hn => exact List.forall_mem_nil _
  | direct hn hnil hd => exact reading_called _
  | session hn hnil hd hf hid hv =>
      exact List.forall_mem_append.mpr ⟨reading_called _,
        List.forall_mem_singleton.mpr (.lookedUp _ hid)⟩

/-- A redirect writes last of all. -/
private theorem Redirects.phased (h : Redirects settings client c t found c') :
    Phased session t := by
  have hasked : ∀ event ∈ [Event.called (.redirect client.name)], Reading session event :=
    List.forall_mem_singleton.mpr (.called _)
  cases h with
  | failed e ha => exact .reads hasked
  | answered a ha hl => exact .reads hasked
  | toldOff a ha hl ht => exact .reads hasked
  | forgotten a ha hl ht hk => exact .reads hasked
  | remembered a answer ha hl ht hk he =>
      exact .append hasked (.writes (Scopes.Ensures.reading he)
        (List.forall_mem_singleton.mpr (.written _ _ _ answer)))

/-- Authentication reads first and writes then. -/
private theorem Authenticates.phased (h : Authenticates now settings multi clients c t found c') :
    Phased c.session t := by
  cases h with
  | nobody hnil => exact .reads (List.forall_mem_nil _)
  | unreadable e hne hn => exact .reads (List.forall_mem_nil _)
  | earlier _ hne hn hs => exact .reads (List.forall_mem_nil _)
  | directFailed e hne hn hs hd => exact .reads (reading_called _)
  | directAction a hne hn hs hd => exact .reads (reading_called _)
  | direct _ hne hn hs hd hf => exact .reads (reading_called _)
  | unasked hne hn hs hd hf hi hsave => exact .reads (reading_called _)
  | session hne hn hs hd hf hi hc =>
      refine .append (reading_called _) ?_
      cases hc with
      | failed e ha => exact .reads ha.reading
      | known _ ha hk => exact .reads ha.reading
      | unknown _ ha hk hnone => exact .reads ha.reading
      | sent _ client ha hk hcl hr => exact .append ha.reading hr.phased

/-- To remember profiles only writes. -/
private theorem Remembers.phased {kept : Except Error Bool} (h : Remembers settings s c t kept c') :
    Phased session t := by
  have hdrawn : ∀ octets, ∀ event ∈ [Event.drawn sessionIdOctets octets],
      Reading session event := fun octets => List.forall_mem_singleton.mpr (.drawn _ octets)
  cases h with
  | noted hl hd => exact .reads (List.forall_mem_nil _)
  | unmoved hl hd hm =>
      cases hm with
      | moved octets before _ hi hs =>
          exact .append (hdrawn octets) (.writes (List.forall_mem_nil _)
            (List.forall_mem_singleton.mpr (.moved before _ _)))
  | kept answer hl he =>
      exact .writes (Scopes.Ensures.reading he)
        (List.forall_mem_singleton.mpr (.written _ _ _ answer))
  | @moved t₁ t₂ id c₁ c₂ answer hl hd hm he =>
      have hwrite : Phased session (t₂ ++ [.stored (.set id profilesKey s.toJson) answer]) :=
        .writes (Scopes.Ensures.reading he)
          (List.forall_mem_singleton.mpr (.written _ _ _ answer))
      cases hm with
      | kept hi => exact hwrite
      | issued octets hi hs => exact .append (hdrawn octets) hwrite
      | moved octets before _ hi hs =>
          -- the move is the first write
          show Phased session ([.drawn sessionIdOctets octets]
            ++ .stored (.renew before (sessionIdOf octets)) (.ok ())
              :: (t₂ ++ [.stored (.set id profilesKey s.toJson) answer]))
          refine .writes (hdrawn octets) (List.forall_mem_cons.mpr ⟨.moved before _ _,
            List.forall_mem_append.mpr ⟨?_, List.forall_mem_singleton.mpr (.written _ _ _ answer)⟩⟩)
          intro event hmem
          obtain ⟨octets, rfl⟩ := he.drawn event hmem
          exact .drawn _ octets

/-- A decision reads the profiles of its session at most, and before it writes. -/
theorem Decides.phased (h : Decides g config p now c t r c') : Phased c.session t := by
  cases h with
  | missing part hnone => exact .reads (List.forall_mem_nil _)
  | unmatched e hparts hm => exact .reads (reading_called _)
  | bypassed hparts hm => exact .reads (reading_called _)
  | unresolved e hparts hm hc => exact .reads (reading_called _)
  | ready hready ha hc =>
      refine .append (reading_called _) ?_
      cases hc with
      | failed e =>
          rw [List.append_nil]
          exact ha.phased
      | answered a =>
          rw [List.append_nil]
          exact ha.phased
      | unknown =>
          rw [List.append_nil]
          exact ha.phased
      | unjudged e hv =>
          obtain ⟨-, source, -, hf⟩ := ha.finds
          exact .append hf.reading (.reads (reading_called _))
      | refused a hv ho =>
          obtain ⟨-, source, -, hf⟩ := ha.finds
          exact .append hf.reading (.reads (reading_called _))
      | passed hv hm =>
          obtain ⟨-, source, -, hf⟩ := ha.finds
          exact .append hf.reading (.append (reading_called _) hm.phased)

/-! ## Steps that fail -/

/-- If the store fails after the direct clients, so does authentication. -/
private theorem Consults.error_of_fails {indirect : Option Client}
    (h : Consults now settings indirect c t found c') (hf : StoreFails e t) :
    found = .error e := by
  have hasked : ∀ {u : List Event} {held : Except Error ProfileSet}, Asks now c u held →
      StoreFails e u → held = .error e := by
    rintro u held ha ⟨step, hmem⟩
    cases ha with
    | nowhere hs => cases hmem
    | asked answer hs =>
        cases List.mem_singleton.mp hmem
        rfl
  cases h with
  | failed e' ha => cases hasked ha hf; rfl
  | known s ha hk => cases hasked ha hf
  | unknown s ha hk hnone => cases hasked ha hf
  | sent s client ha hk hcl hr =>
      obtain ⟨step, hmem⟩ := hf
      rcases List.mem_append.mp hmem with hmem | hmem
      · cases hasked ha ⟨step, hmem⟩
      · cases hr with
        | failed e' hred => cases List.mem_singleton.mp hmem
        | answered a hred hl => cases List.mem_singleton.mp hmem
        | toldOff a hred hl ht => cases List.mem_singleton.mp hmem
        | forgotten a hred hl ht hkeep => cases List.mem_singleton.mp hmem
        | remembered a answer hred hl ht hkeep he =>
            rcases List.mem_append.mp ((List.mem_cons.mp hmem).resolve_left nofun) with hmem | hmem
            · obtain ⟨octets, heq⟩ := he.drawn _ hmem
              cases heq
            · cases List.mem_singleton.mp hmem
              rfl

/-- If the store fails in it, so does all of authentication. -/
private theorem Authenticates.error_of_fails
    (h : Authenticates now settings multi clients c t found c') (hf : StoreFails e t) :
    found = .error e := by
  obtain ⟨step, hmem⟩ := hf
  cases h with
  | nobody hnil => cases hmem
  | unreadable e hne hn => cases hmem
  | earlier _ hne hn hs => cases hmem
  | directFailed e hne hn hs hd => exact absurd hmem (not_stored_called _)
  | directAction a hne hn hs hd => exact absurd hmem (not_stored_called _)
  | direct _ hne hn hs hd hf => exact absurd hmem (not_stored_called _)
  | unasked hne hn hs hd hf hi hsave => exact absurd hmem (not_stored_called _)
  | session hne hn hs hd hf hi hc =>
      exact hc.error_of_fails
        ⟨step, (List.mem_append.mp hmem).resolve_left (not_stored_called _)⟩

/-- And so it is with remembering. -/
private theorem Remembers.error_of_fails {kept : Except Error Bool}
    (h : Remembers settings s c t kept c') (hf : StoreFails e t) : kept = .error e := by
  obtain ⟨step, hmem⟩ := hf
  have hwrite : ∀ {u : List Event} {id : String} {c c' : Context} {answer : Except Error Unit},
      Scopes.Ensures c u id c' →
      .stored step (.error e) ∈ u ++ [.stored (.set id profilesKey s.toJson) answer] →
      answer = .error e := by
    intro u id c c' answer he hmem
    rcases List.mem_append.mp hmem with hmem | hmem
    · obtain ⟨octets, heq⟩ := he.drawn _ hmem
      cases heq
    · cases List.mem_singleton.mp hmem
      rfl
  have hmove : ∀ {u : List Event} {moved : Except Error Unit} {c c' : Context},
      Scopes.Renews c u moved c' → .stored step (.error e) ∈ u → moved = .error e := by
    intro u moved c c' hm hmem
    cases hm with
    | kept hi => cases hmem
    | issued octets hi hs => cases List.mem_singleton.mp hmem
    | moved octets before _ hi hs =>
        cases List.mem_singleton.mp ((List.mem_cons.mp hmem).resolve_left nofun)
        rfl
  cases h with
  | noted hl hd => cases hmem
  | unmoved hl hd hm =>
      cases hmove hm hmem
      rfl
  | moved answer hl hd hm he =>
      rcases List.mem_append.mp hmem with hmem | hmem
      · cases hmove hm hmem
      · rw [hwrite he hmem]
        rfl
  | kept answer hl he =>
      rw [hwrite he hmem]
      rfl

/-- A decision hands on the error of a store step that fails. -/
theorem Decides.error_of_fails (h : Decides g config p now c t r c') (hf : StoreFails e t) :
    r = .error e := by
  obtain ⟨step, hmem⟩ := hf
  cases h with
  | missing part hnone => cases hmem
  | unmatched e hparts hm => exact absurd hmem (not_stored_called _)
  | bypassed hparts hm => exact absurd hmem (not_stored_called _)
  | unresolved e hparts hm hc => exact absurd hmem (not_stored_called _)
  | ready hready ha hc =>
      rcases List.mem_append.mp ((List.mem_append.mp hmem).resolve_left (not_stored_called _))
        with hmem | hmem
      · cases ha.error_of_fails ⟨step, hmem⟩
        cases hc with
        | failed _ => rfl
      · cases hc with
        | failed _ => cases hmem
        | answered a => cases hmem
        | unknown => cases hmem
        | unjudged _ hv => exact absurd hmem (not_stored_called _)
        | refused a hv ho => exact absurd hmem (not_stored_called _)
        | passed hv hm =>
            rw [hm.error_of_fails ⟨step, (List.mem_append.mp hmem).resolve_left
              (not_stored_called _)⟩]
            rfl

/-- A session that was moved is written to next. -/
theorem Decides.set_of_moved {old new : String} (h : Decides g config p now c t r c')
    (hmoved : .stored (.renew old new) (.ok ()) ∈ t) :
    ∃ id key value answer, .stored (.set id key value) answer ∈ t := by
  have hlooks : ∀ {u : List Event}, (∀ event ∈ u, Searching c.request.url event) →
      .stored (.renew old new) (.ok ()) ∉ u := by
    intro u hu hmem
    cases hu _ hmem with
    | looking hlook => cases hlook
    | redirecting hred => cases hred
  cases h with
  | missing part hnone => cases hmoved
  | unmatched e hparts hm => exact absurd hmoved (not_stored_called _)
  | bypassed hparts hm => exact absurd hmoved (not_stored_called _)
  | unresolved e hparts hm hc => exact absurd hmoved (not_stored_called _)
  | ready hready ha hc =>
      have hmoved := (List.mem_append.mp ((List.mem_append.mp hmoved).resolve_left
        (not_stored_called _))).resolve_left (hlooks ha.events)
      cases hc with
      | failed _ => cases hmoved
      | answered a => cases hmoved
      | unknown => cases hmoved
      | unjudged _ hv => exact absurd hmoved (not_stored_called _)
      | refused a hv ho => exact absurd hmoved (not_stored_called _)
      | @passed s v kept c' hv hm =>
          have hmoved := (List.mem_append.mp hmoved).resolve_left (not_stored_called _)
          have hwritten : ∃ id answer, .stored (.set id profilesKey s.toJson) answer ∈ v := by
            cases hm with
            | noted hl hd => cases hmoved
            | unmoved hl hd hrenews =>
                cases hrenews with
                | moved octets before _ hi hs =>
                    cases List.mem_singleton.mp ((List.mem_cons.mp hmoved).resolve_left nofun)
            | moved answer hl hd hrenews he =>
                exact ⟨_, answer, List.mem_append_right _
                  (List.mem_append_right _ List.mem_cons_self)⟩
            | kept answer hl he =>
                exact ⟨_, answer, List.mem_append_right _ List.mem_cons_self⟩
          obtain ⟨id, answer, hmem⟩ := hwritten
          exact ⟨id, _, _, answer, List.mem_append_right _ (List.mem_append_right _
            (List.mem_append_right _ hmem))⟩

/-! ## Two stores -/

variable {lifetime : Lifetime} {instant : Instant} {m₁ m₂ m' : MemoryStore}

/-- What was read in one store is read in another that agrees on it. -/
theorem replays_of_reading
    (hsame : ∀ id, session = some id →
      m₁.get? instant id profilesKey = m₂.get? instant id profilesKey)
    (hu : ∀ event ∈ u, Reading session event)
    (hr : MemoryStore.Replays lifetime instant m₁ u m') :
    MemoryStore.Replays lifetime instant m₂ u m₂ := by
  induction u generalizing m' with
  | nil => exact .nil m₂
  | cons event rest ih =>
      obtain ⟨hevent, hrest⟩ := List.forall_mem_cons.mp hu
      obtain ⟨m, hd, htail⟩ := MemoryStore.replays_cons.mp hr
      cases hevent with
      | called call =>
          cases hd
          exact .cons (.called m₂ call) (ih hrest htail)
      | drawn count octets =>
          cases hd
          exact .cons (.drawn m₂ count octets) (ih hrest htail)
      | @lookedUp id answer hid =>
          rcases MemoryStore.does_stored.mp hd with ⟨rfl, hm⟩ | ⟨hm, e, rfl⟩
          · rw [hm] at htail
            have hget : (m₁.apply lifetime instant (.get id profilesKey)).1
                = (m₂.apply lifetime instant (.get id profilesKey)).1 :=
              congrArg Except.ok (hsame id hid)
            rw [hget]
            exact .cons (.works m₂ (.get id profilesKey)) (ih hrest htail)
          · rw [hm] at htail
            exact .cons (.fails m₂ _ e) (ih hrest htail)

/-- Writes that are done on one store are done on every other, if the calendar has the deadline. -/
theorem replays_of_writing {deadline : Instant} (hadd : instant.add? lifetime = some deadline)
    (hv : ∀ event ∈ v, Writing event) (hok : ∀ step e, .stored step (.error e) ∉ v)
    (m : MemoryStore) : ∃ m', MemoryStore.Replays lifetime instant m v m' := by
  induction v generalizing m with
  | nil => exact ⟨m, .nil m⟩
  | cons event rest ih =>
      obtain ⟨hevent, hrest⟩ := List.forall_mem_cons.mp hv
      have hokay : ∀ step e, .stored step (.error e) ∉ rest := fun step e hmem =>
        hok step e (List.mem_cons_of_mem _ hmem)
      cases hevent with
      | drawn count octets =>
          obtain ⟨m', hr⟩ := ih hrest hokay m
          exact ⟨m', .cons (.drawn m count octets) hr⟩
      | written id key value answer =>
          cases answer with
          | error e => exact absurd List.mem_cons_self (hok _ e)
          | ok done =>
              have hset : ∃ after, m.set? lifetime instant id key value = some after := by
                rw [MemoryStore.set?, hadd]
                exact ⟨_, rfl⟩
              obtain ⟨after, hset⟩ := hset
              obtain ⟨m', hr⟩ := ih hrest hokay after
              exact ⟨m', .cons (MemoryStore.does_set.mpr hset) hr⟩
      | moved old new answer =>
          cases answer with
          | error e => exact absurd List.mem_cons_self (hok _ e)
          | ok done =>
              have hmove : (m.apply lifetime instant (.renew old new)).1 = .ok () :=
                MemoryStore.renew_of_add hadd
              obtain ⟨m', hr⟩ := ih hrest hokay (m.renew lifetime instant old new).2
              exact ⟨m', .cons (MemoryStore.does_stored.mpr (.inl ⟨hmove.symm, rfl⟩)) hr⟩

end Gate

/-- A store in memory that has the deadline in its calendar does all its work. -/
theorem MemoryStore.apply_ok_of_add {m : MemoryStore} {lifetime : Lifetime} {now deadline : Instant}
    (hadd : now.add? lifetime = some deadline) (step : StoreStep) (e : Error) :
    (m.apply lifetime now step).1 ≠ .error e := by
  intro h
  cases step with
  | get id key => cases h
  | remove id key => cases h
  | destroy id => cases h
  | renew old new => cases (renew_of_add hadd).symm.trans h
  | set id key value =>
      rw [apply, set?, hadd] at h
      cases h

namespace Gate

variable {g : Gate} {config : Option Config} {p : Parameters} {now : Instant} {c : Context}
  {env : Surroundings} {w : World}

/-- To read never fails. -/
private theorem not_error_of_reading {α : Type} {d : Plan α} {session : Option String}
    {u v : List Event} (hworks : ∀ n step, env.fails n step = none)
    (ht : d.trace env w = u ++ v) (hu : ∀ event ∈ u, Reading session event) (step : StoreStep)
    (e : Error) : .stored step (.error e) ∉ u := by
  intro hmem
  obtain ⟨m, hanswer⟩ := Plan.exists_of_trace hworks (ht ▸ List.mem_append_left v hmem)
  cases hu _ hmem with
  | lookedUp _ hid => cases hanswer

/-- A decision that writes when the calendar has no deadline fails for it. -/
theorem calendar_of_write (hworks : ∀ n step, env.fails n step = none)
    (hadd : env.now.add? env.lifetime = none) {event : Event} (hw : Writing event)
    {step : StoreStep} {answer : Except Error step.Answer} (hevent : event = .stored step answer)
    (hmem : event ∈ (g.decide config p now c).trace env w) :
    ((g.decide config p now c).run env w).1.1 = .error .calendar := by
  have hdecides := ends_decide (Plan.ends_trace env (g.decide config p now c) w)
  -- every value that is written fails for lack of a deadline
  have hset : ∀ id key value answer,
      .stored (.set id key value) answer ∈ (g.decide config p now c).trace env w →
      ((g.decide config p now c).run env w).1.1 = .error .calendar := by
    intro id key value answer hmem
    obtain ⟨m, hanswer⟩ := Plan.exists_of_trace hworks hmem
    rw [MemoryStore.apply, MemoryStore.set?, hadd] at hanswer
    subst hanswer
    exact hdecides.error_of_fails ⟨_, hmem⟩
  cases hw with
  | drawn count octets => cases hevent
  | written id key value answer => exact hset id key value answer hmem
  | moved old new answer =>
      cases answer with
      | error e =>
          cases Plan.eq_calendar_of_trace hworks hmem
          exact hdecides.error_of_fails ⟨_, hmem⟩
      | ok done =>
          -- the move was of nothing that lives, and what is written after it fails
          obtain ⟨id, key, value, answer, hwritten⟩ := hdecides.set_of_moved hmem
          exact hset id key value answer hwritten

/-- A decision over one store makes the calls of a decision over the other, and
    both end alike; if the calendar has no deadline for what they write, both fail
    for it. -/
structure Alike (env : Surroundings) (d : Plan (Except Error Outcome × Context))
    (w₁ w₂ : World) : Prop where
  calls : (d.run env w₁).2.calls = (d.run env w₂).2.calls
  result : (d.run env w₁).1 = (d.run env w₂).1 ∨ env.now.add? env.lifetime = none ∧
    (d.run env w₁).1.1 = .error .calendar ∧ (d.run env w₂).1.1 = .error .calendar

/-- A run that can be replayed to its end is the run over the other store. -/
private theorem Alike.of_replays {d : Plan (Except Error Outcome × Context)} {m m' : MemoryStore}
    (hworks : ∀ n step, env.fails n step = none)
    (hok : ∀ step e, .stored step (.error e) ∉ d.trace env w)
    (hr : MemoryStore.Replays env.lifetime env.now m (d.trace env w) m') :
    Alike env d w { w with store := m } := by
  obtain ⟨v, htrace, hnext⟩ := Plan.abreast_of_replays hworks (List.append_nil _).symm hok hr
  obtain ⟨rfl, hresult⟩ := hnext.1 rfl
  rw [List.append_nil] at htrace
  refine ⟨?_, .inl hresult.symm⟩
  rw [Plan.calls_run, Plan.calls_run, htrace]

/-- Two runs that part where the calendar has no deadline for what they write. -/
private theorem Alike.of_write {m : MemoryStore} {u v : List Event} {step : StoreStep}
    {answer : Except Error step.Answer} (hworks : ∀ n step, env.fails n step = none)
    (hadd : env.now.add? env.lifetime = none)
    (ht : (g.decide config p now c).trace env w = u ++ .stored step answer :: v)
    (hu : ∀ event ∈ u, Reading c.session event)
    (hv : ∀ event ∈ .stored step answer :: v, Writing event)
    (hr : MemoryStore.Replays env.lifetime env.now m u m) :
    Alike env (g.decide config p now c) w { w with store := m } := by
  obtain ⟨v', htrace, hnext⟩ := Plan.abreast_of_replays hworks ht
    (not_error_of_reading hworks ht hu) hr
  obtain ⟨answer', rest, rfl⟩ := hnext.2 step answer v rfl
  -- both runs are before the same write, and call nobody any more
  have hwrite : Writing (.stored step answer) := hv _ List.mem_cons_self
  have hwrite' : Writing (.stored step answer') := hwrite.other answer'
  have hphased : Phased c.session ((g.decide config p now c).trace env { w with store := m }) :=
    (ends_decide (Plan.ends_trace env _ _)).phased
  rw [htrace] at hphased
  refine ⟨?_, .inr ⟨hadd, ?_, ?_⟩⟩
  · rw [Plan.calls_run, Plan.calls_run, ht, htrace, callsOf_append, callsOf_append,
      callsOf_writing hv,
      callsOf_writing (List.forall_mem_cons.mpr ⟨hwrite', hphased.writing hwrite'⟩)]
  · refine calendar_of_write hworks hadd hwrite rfl (ht ▸ ?_)
    exact List.mem_append_right _ List.mem_cons_self
  · refine calendar_of_write hworks hadd hwrite' rfl (htrace ▸ ?_)
    exact List.mem_append_right _ List.mem_cons_self

/-- No interference: over stores in which the same profiles can be read under the
    session id of the context, a decision makes the same calls and comes to the
    same result, whatever else the stores hold. -/
theorem decide_alike {m₁ m₂ : MemoryStore} (hworks : ∀ n step, env.fails n step = none)
    (hsame : ∀ id, c.session = some id →
      m₁.get? env.now id profilesKey = m₂.get? env.now id profilesKey) :
    Alike env (g.decide config p now c) { w with store := m₁ } { w with store := m₂ } := by
  let d := g.decide config p now c
  have hphased : Phased c.session (d.trace env { w with store := m₁ }) :=
    (ends_decide (Plan.ends_trace env d _)).phased
  have hreplays := Plan.replays_trace env d { w with store := m₁ }
  generalize ht : d.trace env { w with store := m₁ } = t at hphased hreplays
  cases hphased with
  | reads hu =>
      have hok := not_error_of_reading hworks (ht.trans (List.append_nil t).symm) hu
      have hread := replays_of_reading hsame hu hreplays
      rw [← ht] at hok hread
      exact .of_replays hworks hok hread
  | @writes u v step answer hu hv =>
      obtain ⟨m, hru, -⟩ := MemoryStore.replays_append.mp hreplays
      have hread := replays_of_reading hsame hu hru
      cases hadd : env.now.add? env.lifetime with
      | none => exact .of_write hworks hadd ht hu hv hread
      | some deadline =>
          -- no step fails, so what is written over one store is written over the other
          have hok : ∀ step e, .stored step (.error e) ∉ d.trace env { w with store := m₁ } := by
            intro step e hmem
            obtain ⟨m, hanswer⟩ := Plan.exists_of_trace hworks hmem
            exact MemoryStore.apply_ok_of_add hadd step e hanswer.symm
          obtain ⟨m', hwritten⟩ := replays_of_writing (m := m₂) hadd hv fun step e hmem =>
            hok step e (ht ▸ List.mem_append_right _ hmem)
          have hreplayed : MemoryStore.Replays env.lifetime env.now m₂
              (d.trace env { w with store := m₁ }) m' := by
            rw [ht]
            exact MemoryStore.replays_append.mpr ⟨m₂, hread, hwritten⟩
          exact .of_replays hworks hok hreplayed

/-! Two stores that agree on one session and on nothing else. -/

/-- What the visitor is known by. -/
def knownValue : Json := (ProfileSet.single "Login" (Profile.ofId "jdoe")).toJson

/-- A store with one session, and a store in which others have one too, some of
    them ended, and in which that session holds more. -/
def quietStore : MemoryStore := .ofSession "s" [(profilesKey, knownValue)]

def busyStore : MemoryStore :=
  ⟨.ofList [("s", ⟨.ofList [("basket", .str "full"), (profilesKey, knownValue)], .mk 900 0⟩),
    ("t", ⟨.ofList [(profilesKey, .str "unreadable")], MemoryStore.firstDeadline⟩),
    ("u", ⟨.ofList [(profilesKey, knownValue)], .mk (-1) 0⟩)]⟩

/-- The decision comes to the same over both. -/
theorem decide_alike_busy :
    (loginDecision.run (.still .epoch) (World.ofStore quietStore)).1
        = (loginDecision.run (.still .epoch) (World.ofStore busyStore)).1 ∧
      (loginDecision.run (.still .epoch) (World.ofStore quietStore)).2.calls
        = (loginDecision.run (.still .epoch) (World.ofStore busyStore)).2.calls := by
  have halike : Alike (.still .epoch) loginDecision (World.ofStore quietStore)
      (World.ofStore busyStore) := by
    refine decide_alike (w := World.ofStore .empty) (fun _ _ => rfl) ?_
    rintro id ⟨⟩
    rfl
  rcases halike.result with hresult | ⟨hadd, -, -⟩
  · exact ⟨hresult, halike.calls⟩
  · cases hadd

end Gate

end AccessGate
