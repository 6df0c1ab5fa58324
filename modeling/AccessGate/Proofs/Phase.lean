import AccessGate.Proofs.Course
import AccessGate.Proofs.Order

/-! # The authentication phase and its reference

    Finding out who the visitor is is a program of loops and early returns.  Its
    reference is put together from list operations: the direct clients that are asked
    are a first part of the list, cut off behind the one that settles the round; what
    they know is a `filterMap` of them; and each leg after that is a plan with its steps
    written out.

    `authenticate_eq_phase` says that the program is its reference.  Both are plans, so
    the two agree on the clients that are contacted and their order, on every step that
    is taken on the store, on the answer and on the context, whoever answers the steps.
    A list without clients is no case of it: such a list is answered at once, and the
    session is never asked. -/

namespace AccessGate

/-- A set into which something was put is not empty. -/
theorem ProfileSet.isEmpty_insertAll_cons (s : ProfileSet) (entry : String × Profile)
    (rest : List (String × Profile)) : (s.insertAll (entry :: rest)).isEmpty = false := by
  induction rest generalizing s entry with
  | nil => exact isEmpty_insert s entry.1 entry.2
  | cons next rest ih => exact ih (s.insert entry.1 entry.2) next

/-- A list without entries is all that makes an empty set. -/
theorem ProfileSet.isEmpty_ofList (entries : List (String × Profile)) :
    (ofList entries).isEmpty = entries.isEmpty := by
  cases entries with
  | nil => rfl
  | cons entry rest => exact isEmpty_insertAll_cons empty entry rest

namespace Gate

open Plan (calling)

variable {β : Type} (now : Instant) (settings : Settings) (multi : Bool) (c : Context)
  (clients : List Client)

/-! ## The round of the direct clients -/

/-- The answers that end a round: an error, an action, and a profile when one is enough. -/
def settles : Except Error (Attempt Profile) → Bool
  | .error _ => true
  | .ok (.action _) => true
  | .ok (.produced _) => !multi
  | .ok .absent => false

/-- The direct clients of a list. -/
def directClients : List Client := clients.filter fun client => !client.isIndirect

/-- The direct client that settles the round, if one does. -/
def settler? : Option Client :=
  (directClients clients).find? fun client => settles multi (client.answer now c)

/-- The direct clients that are asked: those before the one that settles the round, and
    that one. -/
def askedClients : List Client :=
  (directClients clients).takeWhile (fun client => !settles multi (client.answer now c))
    ++ (settler? now multi c clients).toList

/-- The profiles that clients know, at their names. -/
def known (asked : List Client) : List (String × Profile) :=
  asked.filterMap fun client =>
    match client.answer now c with
    | .ok (.produced p) => some (client.name, p)
    | _ => none

/-- The error or the action that ends the round, if the client that settles it has one. -/
def stop? : Option (Except Error Action) :=
  (settler? now multi c clients).bind fun client =>
    match client.answer now c with
    | .error e => some (.error e)
    | .ok (.action a) => some (.ok a)
    | _ => none

section

variable {client : Client}

theorem directClients_cons_indirect (h : client.isIndirect = true) :
    directClients (client :: clients) = directClients clients := by
  rw [directClients, List.filter_cons_of_neg (by simp [h])]
  rfl

/-- A direct client is the first of those that are asked. -/
theorem directClients_cons_direct (h : ¬ client.isIndirect = true) :
    directClients (client :: clients) = client :: directClients clients := by
  rw [directClients, List.filter_cons_of_pos (by simp [h])]
  rfl

/-- An indirect client has no part in the round. -/
theorem round_cons_indirect (h : client.isIndirect = true) :
    settler? now multi c (client :: clients) = settler? now multi c clients ∧
      askedClients now multi c (client :: clients) = askedClients now multi c clients := by
  have hsettler : settler? now multi c (client :: clients) = settler? now multi c clients := by
    rw [settler?, directClients_cons_indirect clients h, settler?]
  refine ⟨hsettler, ?_⟩
  rw [askedClients, directClients_cons_indirect clients h, hsettler, askedClients]

/-- Behind a client that settles the round nobody is asked. -/
theorem round_cons_settled (hd : ¬ client.isIndirect = true)
    (hs : settles multi (client.answer now c) = true) :
    settler? now multi c (client :: clients) = some client ∧
      askedClients now multi c (client :: clients) = [client] := by
  have hsettler : settler? now multi c (client :: clients) = some client := by
    rw [settler?, directClients_cons_direct clients hd]
    exact List.find?_cons_of_pos hs
  refine ⟨hsettler, ?_⟩
  rw [askedClients, directClients_cons_direct clients hd, hsettler,
    List.takeWhile_cons_of_neg (by simp [hs])]
  rfl

/-- Behind a client that leaves the round open it goes on. -/
theorem round_cons_open (hd : ¬ client.isIndirect = true)
    (hs : settles multi (client.answer now c) = false) :
    settler? now multi c (client :: clients) = settler? now multi c clients ∧
      askedClients now multi c (client :: clients)
        = client :: askedClients now multi c clients := by
  have hsettler : settler? now multi c (client :: clients) = settler? now multi c clients := by
    rw [settler?, directClients_cons_direct clients hd, settler?]
    exact List.find?_cons_of_neg (by simp [hs])
  refine ⟨hsettler, ?_⟩
  rw [askedClients, directClients_cons_direct clients hd, hsettler,
    List.takeWhile_cons_of_pos (by simp [hs]), askedClients]
  rfl

end

/-- The calls of the round are those of the clients that are asked. -/
theorem directCalls_eq_flatMap :
    directCalls now multi c clients
      = (askedClients now multi c clients).flatMap fun client => client.calls now c := by
  induction clients with
  | nil => rfl
  | cons client rest ih =>
      rw [directCalls]
      by_cases hi : client.isIndirect = true
      · obtain ⟨-, hasked⟩ := round_cons_indirect now multi c rest hi
        rw [if_pos hi, hasked, ih]
      · rw [if_neg hi]
        have hsettled : settles multi (client.answer now c) = true →
            (askedClients now multi c (client :: rest)).flatMap (fun client => client.calls now c)
              = client.calls now c := by
          intro hs
          rw [(round_cons_settled now multi c rest hi hs).2, List.flatMap_singleton]
        have hopen : settles multi (client.answer now c) = false →
            (askedClients now multi c (client :: rest)).flatMap (fun client => client.calls now c)
              = client.calls now c ++ directCalls now multi c rest := by
          intro hs
          rw [(round_cons_open now multi c rest hi hs).2, List.flatMap_cons, ih]
        cases ha : client.answer now c with
        | error e =>
            rw [ha] at hsettled
            exact (hsettled rfl).symm
        | ok outcome =>
            rw [ha] at hsettled hopen
            cases outcome with
            | action a => exact (hsettled rfl).symm
            | absent => exact (hopen rfl).symm
            | produced p =>
                cases multi with
                | false => exact (hsettled rfl).symm
                | true => exact (hopen rfl).symm

/-- How the round ends, said of the client that settles it and of all that are asked. -/
theorem directAnswer_eq_stop (found : ProfileSet) :
    directAnswer now multi c clients found =
      match stop? now multi c clients with
      | some (.error e) => .error e
      | some (.ok a) => .ok (.action a)
      | none => .ok (.profiles (found.insertAll (known now c (askedClients now multi c clients)))) := by
  induction clients generalizing found with
  | nil => rfl
  | cons client rest ih =>
      rw [directAnswer]
      by_cases hi : client.isIndirect = true
      · obtain ⟨hsettler, hasked⟩ := round_cons_indirect now multi c rest hi
        rw [if_pos hi, ih, stop?, stop?, hsettler, hasked]
      · rw [if_neg hi]
        cases ha : client.answer now c with
        | error e =>
            have hs : settles multi (client.answer now c) = true := by rw [ha]; rfl
            obtain ⟨hsettler, -⟩ := round_cons_settled now multi c rest hi hs
            rw [stop?, hsettler, Option.bind_some, ha]
        | ok outcome =>
            cases outcome with
            | action a =>
                have hs : settles multi (client.answer now c) = true := by rw [ha]; rfl
                obtain ⟨hsettler, -⟩ := round_cons_settled now multi c rest hi hs
                rw [stop?, hsettler, Option.bind_some, ha]
            | absent =>
                have hs : settles multi (client.answer now c) = false := by rw [ha]; rfl
                obtain ⟨hsettler, hasked⟩ := round_cons_open now multi c rest hi hs
                have hknown : known now c (client :: askedClients now multi c rest)
                    = known now c (askedClients now multi c rest) := by
                  rw [known, List.filterMap_cons_none (by rw [ha]), known]
                rw [stop?, hsettler, hasked, hknown, ← stop?]
                exact ih found
            | produced p =>
                have hfirst : ∀ asked, known now c (client :: asked)
                    = (client.name, p) :: known now c asked := by
                  intro asked
                  rw [known, List.filterMap_cons_some (by rw [ha]), known]
                cases multi with
                | false =>
                    -- one profile is enough, and it is no action
                    have hs : settles false (client.answer now c) = true := by rw [ha]; rfl
                    obtain ⟨hsettler, hasked⟩ := round_cons_settled now false c rest hi hs
                    rw [stop?, hsettler, Option.bind_some, ha, hasked, hfirst]
                    rfl
                | true =>
                    have hs : settles true (client.answer now c) = false := by rw [ha]; rfl
                    obtain ⟨hsettler, hasked⟩ := round_cons_open now true c rest hi hs
                    rw [stop?, hsettler, hasked, hfirst, ← stop?]
                    exact ih (found.insert client.name p)

/-! ## The legs after the round -/

/-- A plan that ends the phase. -/
abbrev Leg := Plan (Except Error (Attempt ProfileSet) × Context)

/-- Look up what the session holds, and go on with its profiles that are not stale. -/
def consulting (next : ProfileSet → Leg) : Leg :=
  match c.session with
  | none => next .empty
  | some id =>
      .store (.get id profilesKey) fun answer =>
        match heldProfiles now answer with
        | .error e => .done (.error e, c)
        | .ok held => next held

/-- Write the URL of the request to a session, and end with an action. -/
def writingUrl (action : Action) (id : String) : Leg :=
  .store (.set id requestedUrlKey (.str c.request.url)) fun answer =>
    .done (answer.map fun _ => .action action, c)

/-- Remember the way back and end with an action.  A request without a session is given
    one now. -/
def returning (action : Action) : Leg :=
  match c.session with
  | some id => writingUrl c action id
  | none =>
      .random sessionIdOctets fun octets =>
        writingUrl (c.issueSession (sessionIdOf octets)) action (sessionIdOf octets)

/-- Ask a client with a login page what to do.  An action that leads nowhere is handed on;
    a script is told off instead of being led away; and for a visitor who can come back the
    way is remembered. -/
def sendingAway (client : Client) : Leg :=
  .note (.redirect client.name) <|
    match client.redirect c with
    | .error e => .done (.error e, c)
    | .ok action =>
        if action.location?.isNone then .done (.ok (.action action), c)
        else if tellsOff settings c.request then .done (.ok (.action .unauthorized), c)
        else if keepsUrl settings c.request then returning c action
        else .done (.ok (.action action), c)

/-- The profiles of the session are the answer if there are any; else the first client with
    a login page has one, and no other such client is asked. -/
def sessionLeg : Leg :=
  consulting now c fun held =>
    if held.isEmpty then
      match clients.find? Client.isIndirect with
      | none => .done (.ok .absent, c)
      | some client => sendingAway settings c client
    else .done (.ok (.produced held), c)

/-- The reference of the phase.  The session has a say only when the round found nobody,
    and there is a client with a login page or profiles of direct clients are kept. -/
def phase : Leg :=
  calling ((askedClients now multi c clients).flatMap fun client => client.calls now c) <|
    match stop? now multi c clients with
    | some (.error e) => .done (.error e, c)
    | some (.ok action) => .done (.ok (.action action), c.withLoaded false)
    | none =>
        let found := known now c (askedClients now multi c clients)
        if !found.isEmpty then .done (.ok (.produced (.ofList found)), c.withLoaded false)
        else if clients.any Client.isIndirect || settings.saveDirect then
          sessionLeg now settings (c.withLoaded true) clients
        else .done (.ok .absent, c.withLoaded false)

/-- To keep the URL that was asked for, and then to act, is the last step of a redirect. -/
theorem saveRequestedUrl_eq_returning (action : Action) :
    (Scopes.saveRequestedUrl c.request.url c).bind
        (Turn.andThen fun _ => (pure (.action action) : Turn (Attempt ProfileSet)))
      = returning c action := by
  have hwrite : ∀ (id : String) (c : Context),
      ((Turn.store (.set id requestedUrlKey (.str c.request.url)) : Turn Unit) c).bind
        (Turn.andThen fun _ => (pure (.action action) : Turn (Attempt ProfileSet)))
      = writingUrl c action id := by
    intro id c
    refine congrArg (Plan.store _) (funext fun answer => ?_)
    cases answer with
    | error e => rfl
    | ok done => rfl
  rw [Scopes.saveRequestedUrl_apply, Scopes.ensureSession_apply, returning]
  cases c.session with
  | some id => exact hwrite id c
  | none =>
      refine congrArg (Plan.random sessionIdOctets) (funext fun octets => ?_)
      exact hwrite (sessionIdOf octets) (c.issueSession (sessionIdOf octets))

/-- An indirect client is asked as the algorithm says. -/
theorem askIndirect_eq_sendingAway (client : Client) :
    askIndirect settings client c = sendingAway settings c client := by
  rw [askIndirect, Turn.note_bind, sendingAway]
  refine congrArg (Plan.note _) ?_
  rw [Turn.context_bind, Turn.ofExcept_bind]
  cases client.redirect c with
  | error e => rfl
  | ok action =>
      rw [Turn.andThen_ok]
      dsimp only
      by_cases hnone : action.location?.isNone = true
      · rw [if_pos hnone, if_pos hnone]
        rfl
      · rw [if_neg hnone, if_neg hnone, Turn.context_bind, tellsOff]
        by_cases hscript : (c.request.isScripted && !settings.redirectScripts) = true
        · rw [if_pos hscript, if_pos hscript]
          rfl
        · rw [if_neg hscript, if_neg hscript, keepsUrl]
          split
          · rw [Turn.bind_apply]
            exact saveRequestedUrl_eq_returning c action
          · rfl

/-- The session is read as the algorithm says. -/
theorem loadSession_eq_consulting (f : ProfileSet → Turn (Attempt ProfileSet)) :
    (Scopes.loadSession now c).bind (Turn.andThen f) = consulting now c fun held => f held c := by
  rw [Scopes.loadSession_apply, consulting]
  cases c.session with
  | none => rfl
  | some id =>
      refine congrArg (Plan.store (.get id profilesKey)) (funext fun answer => ?_)
      match answer with
      | .error e => rfl
      | .ok none => rfl
      | .ok (some value) =>
          show (Turn.andThen f (ProfileSet.ofValue now value, c) : Leg)
            = match ProfileSet.ofValue now value with
              | .error e => .done (.error e, c)
              | .ok held => f held c
          cases ProfileSet.ofValue now value with
          | error e => rfl
          | ok held => rfl

/-- And so is all that comes after the direct clients. -/
theorem askSession_eq_sessionLeg :
    askSession now settings (clients.find? Client.isIndirect) c
      = sessionLeg now settings (c.withLoaded true) clients := by
  unfold askSession
  rw [Turn.bind_apply, Scopes.setLoaded_apply, Plan.done_bind, Turn.andThen_ok,
    Turn.bind_apply]
  refine (loadSession_eq_consulting now _ _).trans ?_
  rw [sessionLeg]
  refine congrArg (consulting now _) (funext fun held => ?_)
  cases held.isEmpty with
  | false => rfl
  | true =>
      cases clients.find? Client.isIndirect with
      | none => rfl
      | some client => exact askIndirect_eq_sendingAway settings _ client

theorem isNone_find?_isIndirect :
    (clients.find? Client.isIndirect).isNone = !clients.any Client.isIndirect := by
  cases hfind : clients.find? Client.isIndirect with
  | some client =>
      have hany : clients.any Client.isIndirect = true :=
        List.any_eq_true.mpr ⟨client, List.mem_of_find?_eq_some hfind, List.find?_some hfind⟩
      rw [hany]
      rfl
  | none =>
      have hany : clients.any Client.isIndirect = false := by
        rw [List.any_eq_false]
        exact List.find?_eq_none.mp hfind
      rw [hany]
      rfl

/-- The authentication phase is its reference, for every list of clients, every outcome of
    their steps, all settings and whoever answers the store, in a request in which no
    profile that is not stale is noted.  A list without clients is answered at once: nobody
    is asked, the session is not looked up, and whoever it knows stays unknown.  When what
    is noted cannot be read, that is the answer, before any client is asked. -/
theorem authenticate_eq_phase (h : ∀ s, c.noted now = .ok s → s.isEmpty = true) :
    authenticate now settings multi clients c =
      if clients.isEmpty then .done (.ok .absent, c.withLoaded true)
      else
        match c.noted now with
        | .error e => .done (.error e, c)
        | .ok _ => phase now settings multi c clients := by
  unfold authenticate
  by_cases hnil : clients.isEmpty = true
  · rw [if_pos hnil, if_pos hnil]
    rfl
  · rw [if_neg hnil, if_neg hnil, Turn.bind_apply, Scopes.loadRequest_apply, Plan.done_bind]
    cases hnoted : c.noted now with
    | error e => rfl
    | ok earlier =>
        rw [Turn.andThen_ok, h earlier hnoted, if_neg (by decide), Turn.bind_apply,
          askDirect_apply, Plan.calling_bind, Plan.done_bind, directCalls_eq_flatMap,
          directAnswer_eq_stop]
        dsimp only
        rw [phase]
        refine congrArg (calling _) ?_
        match hstop : stop? now multi c clients with
        | some (.error e) => rfl
        | some (.ok action) => rfl
        | none =>
            dsimp only
            rw [Turn.andThen_ok]
            dsimp only
            have hempty : (ProfileSet.empty.insertAll
                (known now c (askedClients now multi c clients))).isEmpty
                = (known now c (askedClients now multi c clients)).isEmpty :=
              ProfileSet.isEmpty_ofList _
            rw [hempty]
            cases (known now c (askedClients now multi c clients)).isEmpty with
            | false => rfl
            | true =>
                -- nobody is found, so the legs of the session are what is left
                rw [if_neg (by decide), isNone_find?_isIndirect]
                cases clients.any Client.isIndirect with
                | true => exact askSession_eq_sessionLeg now settings c clients
                | false =>
                    cases settings.saveDirect with
                    | true => exact askSession_eq_sessionLeg now settings c clients
                    | false => rfl

/-- A client that knows nobody: a direct one, or one with a login page. -/
def strangerClient (name : String) (kind : ClientKind) : Client where
  name := name
  kind := kind
  fetch _ _ := .ok .absent
  build _ _ _ := .ok .absent
  redirect _ := .ok (.redirect ("/login/" ++ name))

/-- A visitor whom nobody knows is led to the first login page of the list, and the way
    back stands under a session id that is drawn for it. -/
theorem authenticate_eq_phase_pages :
    authenticate .epoch {} false
        [strangerClient "P" .indirect, strangerClient "A" .direct, strangerClient "Q" .indirect]
        (.ofRequest ⟨"GET", .root, [], []⟩ none)
      = .note (.fetch "A") (.note (.redirect "P") (.random sessionIdOctets fun octets =>
          .store (.set (sessionIdOf octets) requestedUrlKey (.str "/")) fun answer =>
            .done (answer.map fun _ => .action (.redirect "/login/P"),
              ((Context.ofRequest ⟨"GET", .root, [], []⟩ none).withLoaded true).issueSession
                (sessionIdOf octets)))) := by
  refine (authenticate_eq_phase .epoch {} false _ _ fun s hs => ?_).trans rfl
  cases hs
  rfl

/-! A parameter of the request may leave no client at all. -/

/-- A request that asks for a client that the list does not have. -/
def narrowedRequest : Request := ⟨"GET", .root, [], [("force_client", "B")]⟩

/-- The profiles of a visitor who was there before. -/
def returningProfiles : ProfileSet := .single "A" (.ofId "jdoe")

/-- A store with the session of that visitor. -/
def returningStore : MemoryStore :=
  .ofSession "s" [(profilesKey, returningProfiles.toJson)]

/-- With profiles of direct clients kept in the session, the reference on the empty list
    lets the session speak; the phase does not look it up. -/
theorem authenticate_ne_phase_without_clients :
    let c := Context.ofRequest narrowedRequest (some "s")
    ClientRegistry.resolve (.mk [strangerClient "A" .direct] none) "force_client" narrowedRequest none
        = .ok [] ∧
      c.noted .epoch = .ok .empty ∧
      ((authenticate .epoch { saveDirect := true } false [] c).run (.still .epoch)
        (World.ofStore returningStore)).1.1 = .ok .absent ∧
      ((phase .epoch { saveDirect := true } false c []).run (.still .epoch)
        (World.ofStore returningStore)).1.1 = .ok (.produced returningProfiles) :=
  ⟨rfl, rfl, rfl, rfl⟩

end Gate

end AccessGate
