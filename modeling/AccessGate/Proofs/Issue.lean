import AccessGate.Proofs.Decision

/-! # What a decision does to a context

    Beside the store, a decision changes its context in three ways: it may take a
    session id, note profiles, and note where they came from.  `Follows` says
    what becomes of the session id: it stays, or it is one that was issued on the
    trace, and then the context says so.  The theorems on `saysLoaded` say when the
    note on the source stays. -/

namespace AccessGate

/-- What becomes of the session id of a context along a trace. -/
inductive Context.Follows (c : Context) (t : List Event) (c' : Context) : Prop
  | same : c'.session = c.session → c'.sessionIssued = c.sessionIssued → issuedIds t = [] →
      Follows c t c'
  | issued {id : String} : id ∈ issuedIds t → c'.session = some id → c'.sessionIssued = true →
      Follows c t c'

namespace Context

variable {c c₁ c' : Context} {t u : List Event}

/-- What follows in two steps follows in one. -/
theorem Follows.trans (h : c.Follows t c₁) (k : c₁.Follows u c') : c.Follows (t ++ u) c' := by
  cases k with
  | same hs hi hn =>
      cases h with
      | same hs₁ hi₁ hn₁ =>
          refine .same (hs.trans hs₁) (hi.trans hi₁) ?_
          rw [issuedIds_append, hn₁, hn]
          rfl
      | issued hm hs₁ hi₁ =>
          refine .issued ?_ (hs.trans hs₁) (hi.trans hi₁)
          rw [issuedIds_append]
          exact List.mem_append_left _ hm
  | issued hm hs hi =>
      refine .issued ?_ hs hi
      rw [issuedIds_append]
      exact List.mem_append_right _ hm

/-- Calls issue no session. -/
theorem follows_called (c : Context) (calls : List Call) : c.Follows (calls.map .called) c :=
  .same rfl rfl (issuedIds_called calls)

theorem follows_nil (c : Context) : c.Follows [] c := .same rfl rfl rfl

/-- A step of the store issues no session. -/
theorem follows_stored (c : Context) {step : StoreStep} (answer : Except Error step.Answer) :
    c.Follows [.stored step answer] c := .same rfl rfl rfl

/-- Noting where profiles came from issues no session. -/
theorem Follows.withLoaded (h : c.Follows t c') (b : Bool) : c.Follows t (c'.withLoaded b) := by
  cases h with
  | same hs hi hn => exact .same hs hi hn
  | issued hm hs hi => exact .issued hm hs hi

/-- Noting profiles issues no session. -/
theorem Follows.withProfiles (h : c.Follows t c') (s : ProfileSet) :
    c.Follows t (c'.withProfiles s) := by
  cases h with
  | same hs hi hn => exact .same hs hi hn
  | issued hm hs hi => exact .issued hm hs hi

end Context

/-! ## Session ids -/

namespace Scopes

variable {c c' : Context} {t : List Event} {id : String}

/-- Ensuring a session issues the id that was drawn, if one was. -/
theorem Ensures.follows (h : Ensures c t id c') : c.Follows t c' := by
  cases h with
  | kept hs => exact c.follows_nil
  | issued octets hs => exact .issued List.mem_cons_self rfl rfl

/-- The id one comes to is that of the context afterwards. -/
theorem Ensures.session (h : Ensures c t id c') : c'.session = some id := by
  cases h with
  | kept hs => exact hs
  | issued octets hs => rfl

/-- Ensuring a session does not touch the note on where profiles came from. -/
theorem Ensures.saysLoaded (h : Ensures c t id c') : c'.saysLoaded = c.saysLoaded := by
  cases h with
  | kept hs => rfl
  | issued octets hs => rfl

/-- Renewing a session issues the id that was drawn, whether or not the store goes along. -/
theorem Renews.follows {r : Except Error Unit} (h : Renews c t r c') : c.Follows t c' := by
  cases h with
  | kept hi => exact c.follows_nil
  | issued octets hi hs => exact .issued List.mem_cons_self rfl rfl
  | moved octets before answer hi hs => exact .issued List.mem_cons_self rfl rfl

/-- After a session was moved its id is one that was issued. -/
theorem Renews.sessionIssued {r : Except Error Unit} (h : Renews c t r c') :
    c'.sessionIssued = true := by
  cases h with
  | kept hi => exact hi
  | issued octets hi hs => rfl
  | moved octets before answer hi hs => rfl

/-- Nor does renewing one. -/
theorem Renews.saysLoaded {r : Except Error Unit} (h : Renews c t r c') :
    c'.saysLoaded = c.saysLoaded := by
  cases h with
  | kept hi => rfl
  | issued octets hi hs => rfl
  | moved octets before answer hi hs => rfl

end Scopes

/-! ## Stages -/

namespace Gate

variable {now : Instant} {settings : Settings} {multi : Bool} {clients : List Client}
  {c c' : Context} {t : List Event} {s : ProfileSet}

/-- A redirect may begin a session for the URL that was asked for, and then it issues it. -/
theorem Redirects.follows {client : Client} {r : Except Error (Attempt ProfileSet)}
    (h : Redirects settings client c t r c') : c.Follows t c' := by
  cases h with
  | failed e ha => exact .same rfl rfl rfl
  | answered a ha hl => exact .same rfl rfl rfl
  | toldOff a ha hl ht => exact .same rfl rfl rfl
  | forgotten a ha hl ht hk => exact .same rfl rfl rfl
  | remembered a answer ha hl ht hk he =>
      exact (c.follows_called [_]).trans (he.follows.trans (c'.follows_stored _))

/-- Asking a session for profiles issues nothing. -/
theorem Asks.issuedIds {r : Except Error ProfileSet} (h : Asks now c t r) :
    issuedIds t = [] := by
  cases h with
  | nowhere hs => rfl
  | asked answer hs => rfl

/-- Whoever is authenticated goes on with the session that was there, or with one that was
    issued on the way. -/
theorem Authenticates.follows {r : Except Error (Attempt ProfileSet)}
    (h : Authenticates now settings multi clients c t r c') : c.Follows t c' := by
  cases h with
  | nobody hnil => exact c.follows_nil.withLoaded true
  | unreadable e hne hn => exact c.follows_nil
  | earlier _ hne hn hs => exact c.follows_nil.withLoaded _
  | directFailed e hne hn hs hd => exact c.follows_called _
  | directAction a hne hn hs hd => exact (c.follows_called _).withLoaded false
  | direct _ hne hn hs hd hf => exact (c.follows_called _).withLoaded false
  | unasked hne hn hs hd hf hi hsave => exact (c.follows_called _).withLoaded false
  | session hne hn hs hd hf hi hc =>
      refine (c.follows_called _).trans ?_
      cases hc with
      | failed e ha => exact .same rfl rfl ha.issuedIds
      | known _ ha hk => exact .same rfl rfl ha.issuedIds
      | unknown _ ha hk hnone => exact .same rfl rfl ha.issuedIds
      | sent _ client ha hk hcl hr =>
          -- a look-up issues nothing; the indirect client may
          have hasked : c.Follows _ (c.withLoaded true) := .same rfl rfl ha.issuedIds
          exact hasked.trans hr.follows

/-- Profiles are remembered in the session that was there, or in one issued for them. -/
theorem Remembers.follows {r : Except Error Bool} (h : Remembers settings s c t r c') :
    c.Follows t c' := by
  cases h with
  | noted hl hd => exact c.follows_nil.withProfiles s
  | unmoved hl hd hm => exact hm.follows
  | moved answer hl hd hm he =>
      exact (hm.follows.withProfiles s).trans (he.follows.trans (c'.follows_stored _))
  | kept answer hl he =>
      exact ((c.follows_nil.withProfiles s).trans he.follows).trans (c'.follows_stored _)

theorem Remembers.saysLoaded {r : Except Error Bool} (h : Remembers settings s c t r c') :
    c'.saysLoaded = c.saysLoaded := by
  cases h with
  | noted hl hd => exact Context.saysLoaded_withProfiles c s
  | unmoved hl hd hm => exact hm.saysLoaded
  | moved answer hl hd hm he =>
      rw [he.saysLoaded, Context.saysLoaded_withProfiles, hm.saysLoaded]
  | kept answer hl he => rw [he.saysLoaded, Context.saysLoaded_withProfiles]

/-- And so it is at the end of a decision. -/
theorem Concludes.follows {cfg : Config} {p : Parameters}
    {found : Except Error (Attempt ProfileSet)} {r : Except Error Outcome}
    (h : Concludes cfg p c found t r c') : c.Follows t c' := by
  cases h with
  | failed e => exact c.follows_nil
  | answered a => exact c.follows_nil
  | unknown => exact c.follows_nil
  | unjudged e hv => exact c.follows_called _
  | refused a hv ho => exact c.follows_called _
  | passed hv hm => exact (c.follows_called _).trans hm.follows

/-- What happens after authentication leaves the note on the source as it is. -/
theorem Concludes.saysLoaded {cfg : Config} {p : Parameters}
    {found : Except Error (Attempt ProfileSet)} {r : Except Error Outcome}
    (h : Concludes cfg p c found t r c') : c'.saysLoaded = c.saysLoaded := by
  cases h with
  | failed e => rfl
  | answered a => rfl
  | unknown => rfl
  | unjudged e hv => rfl
  | refused a hv ho => rfl
  | passed hv hm => exact hm.saysLoaded

/-- The session id of a context changes only to one that the decision issued. -/
theorem Decides.follows {g : Gate} {config : Option Config} {p : Parameters}
    {r : Except Error Outcome} (h : Decides g config p now c t r c') : c.Follows t c' := by
  cases h with
  | missing part hnone => exact c.follows_nil
  | unmatched e hparts hm => exact c.follows_called _
  | bypassed hparts hm => exact c.follows_called _
  | unresolved e hparts hm hc => exact c.follows_called _
  | ready hready ha hc => exact (c.follows_called _).trans (ha.follows.trans hc.follows)

end Gate

end AccessGate
