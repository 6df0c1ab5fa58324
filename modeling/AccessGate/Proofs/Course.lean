import AccessGate.Proofs.Lookup
import AccessGate.Proofs.Stages

/-! # The course of authentication

    What finding out who the visitor is can do, said once.  Each inductive
    relation lists the ways in which one stage can go, with the events of each
    way, the result and the context it leaves; the theorem after it reads the
    relation off the stage.  Later proofs go through the cases of these
    relations and open no stage. -/

namespace AccessGate

namespace Context

/-- Note where the accepted profiles came from. -/
def withLoaded (c : Context) (loaded : Bool) : Context := c.setAttribute loadedKey (.bool loaded)

/-- Did the accepted profiles come from the session, as far as the context says? -/
def saysLoaded (c : Context) : Bool := c.loaded?.getD false

/-- Note a profile set. -/
def withProfiles (c : Context) (profiles : ProfileSet) : Context :=
  c.setAttribute profilesKey profiles.toJson

variable (c : Context)

@[simp] theorem session_withLoaded (b : Bool) : (c.withLoaded b).session = c.session := rfl

@[simp] theorem sessionIssued_withLoaded (b : Bool) :
    (c.withLoaded b).sessionIssued = c.sessionIssued := rfl

/-- What is noted is all that an attribute hangs on. -/
theorem attribute?_congr {c c' : Context} (h : c'.attributes = c.attributes) (name : String) :
    c'.attribute? name = c.attribute? name := congrArg (Dict.get? · name) h

@[simp] theorem loaded_withLoaded (b : Bool) :
    (c.withLoaded b).attribute? loadedKey = some (.bool b) := Dict.get?_insert_self _ _ _

@[simp] theorem profiles_withProfiles (s : ProfileSet) :
    (c.withProfiles s).attribute? profilesKey = some s.toJson := Dict.get?_insert_self _ _ _

/-- Profiles are noted apart from where they came from. -/
@[simp] theorem profiles_withLoaded (b : Bool) :
    (c.withLoaded b).attribute? profilesKey = c.attribute? profilesKey :=
  Dict.get?_insert_of_ne _ _ (by decide)

@[simp] theorem loaded_withProfiles (s : ProfileSet) :
    (c.withProfiles s).attribute? loadedKey = c.attribute? loadedKey :=
  Dict.get?_insert_of_ne _ _ (by decide)

/-- What was noted about where profiles came from is what is read. -/
@[simp] theorem saysLoaded_withLoaded (b : Bool) : (c.withLoaded b).saysLoaded = b := by
  rw [saysLoaded, loaded?, loaded_withLoaded]
  rfl

@[simp] theorem saysLoaded_withProfiles (s : ProfileSet) :
    (c.withProfiles s).saysLoaded = c.saysLoaded := by
  rw [saysLoaded, saysLoaded, loaded?, loaded?, loaded_withProfiles]

end Context

/-! ## Session ids -/

namespace Scopes

/-- The ways to come to a session id. -/
inductive Ensures (c : Context) : List Event → String → Context → Prop
  | kept {id : String} : c.session = some id → Ensures c [] id c
  | issued (octets : List UInt8) : c.session = none →
      Ensures c [.drawn sessionIdOctets octets] (sessionIdOf octets)
        (c.issueSession (sessionIdOf octets))

/-- A turn that needs a session has one first, and then goes on with its id. -/
theorem ends_ensureSession {β : Type} {f : String → Turn β} {c c' : Context} {t : List Event}
    {r : Except Error β}
    (h : ((ensureSession c).bind (Turn.andThen f)).Ends t (r, c')) :
    ∃ t₁ id c₁ t₂, t = t₁ ++ t₂ ∧ Ensures c t₁ id c₁ ∧ (f id c₁).Ends t₂ (r, c') := by
  rw [ensureSession_apply] at h
  cases hs : c.session with
  | some id =>
      rw [hs] at h
      exact ⟨[], id, c, t, rfl, .kept hs, h⟩
  | none =>
      rw [hs] at h
      obtain ⟨octets, rest, rfl, h⟩ := h
      exact ⟨_, _, _, rest, rfl, .issued octets hs, h⟩

/-- Writing a value to the session, then going on with a result. -/
theorem ends_write {β : Type} {key : String} {value : Json} {b : β} {c c' : Context}
    {t : List Event} {r : Except Error β}
    (h : (((ensureSession c).bind
      (Turn.andThen fun id => Turn.store (.set id key value))).bind
        (Turn.andThen fun _ => (pure b : Turn β))).Ends t (r, c')) :
    ∃ t₁ id answer, t = t₁ ++ [.stored (.set id key value) answer] ∧ Ensures c t₁ id c' ∧
      r = Except.map (fun _ => b) answer := by
  obtain ⟨t₁, ⟨r₁, c₁⟩, t₂, rfl, h₁, h₂⟩ := Plan.ends_bind.mp h
  obtain ⟨u, id, c₂, v, rfl, he, hset⟩ := ends_ensureSession h₁
  obtain ⟨answer, rest, rfl, rfl, hr⟩ := hset
  cases hr
  cases r₁ with
  | error e =>
      obtain ⟨rfl, h₂⟩ := h₂
      cases h₂
      exact ⟨u, id, .error e, List.append_nil _, he, rfl⟩
  | ok done =>
      obtain ⟨rfl, h₂⟩ := h₂
      cases h₂
      exact ⟨u, id, .ok done, List.append_nil _, he, rfl⟩

/-- The ways in which a session is moved to a fresh id. -/
inductive Renews (c : Context) : List Event → Except Error Unit → Context → Prop
  | kept : c.sessionIssued = true → Renews c [] (.ok ()) c
  | issued (octets : List UInt8) : c.sessionIssued = false → c.session = none →
      Renews c [.drawn sessionIdOctets octets] (.ok ()) (c.issueSession (sessionIdOf octets))
  | moved (octets : List UInt8) (before : String) (answer : Except Error Unit) :
      c.sessionIssued = false → c.session = some before →
      Renews c [.drawn sessionIdOctets octets, .stored (.renew before (sessionIdOf octets)) answer]
        answer (c.issueSession (sessionIdOf octets))

/-- Renewing a session goes in one of the listed ways. -/
theorem ends_renewSession {c c' : Context} {t : List Event} {r : Except Error Unit}
    (h : (renewSession c).Ends t (r, c')) : Renews c t r c' := by
  rw [renewSession_apply] at h
  cases hi : c.sessionIssued with
  | true =>
      rw [hi, if_pos rfl] at h
      obtain ⟨rfl, h⟩ := h
      cases h
      exact .kept hi
  | false =>
      rw [hi, if_neg (by decide)] at h
      obtain ⟨octets, rest, rfl, h⟩ := h
      cases hs : c.session with
      | none =>
          rw [hs] at h
          obtain ⟨rfl, h⟩ := h
          cases h
          exact .issued octets hi hs
      | some before =>
          rw [hs] at h
          obtain ⟨answer, rest, rfl, rfl, h⟩ := h
          cases h
          exact .moved octets before r hi hs

end Scopes

namespace Gate

/-! ## Authentication -/

/-- Is a visitor who is a script to be told off instead of redirected? -/
def tellsOff (settings : Settings) (request : Request) : Bool :=
  request.isScripted && !settings.redirectScripts

/-- Is the URL of a request to be remembered when its visitor is redirected? -/
def keepsUrl (settings : Settings) (request : Request) : Bool :=
  settings.saveRequestedUrl && (request.method == "GET" || request.method == "HEAD")

/-- The ways in which the first indirect client answers for a visitor whom nobody knows. -/
inductive Redirects (settings : Settings) (client : Client) (c : Context) :
    List Event → Except Error (Attempt ProfileSet) → Context → Prop
  | failed (e : Error) : client.redirect c = .error e →
      Redirects settings client c [.called (.redirect client.name)] (.error e) c
  | answered (a : Action) : client.redirect c = .ok a → a.location?.isNone = true →
      Redirects settings client c [.called (.redirect client.name)] (.ok (.action a)) c
  | toldOff (a : Action) : client.redirect c = .ok a → a.location?.isNone = false →
      tellsOff settings c.request = true →
      Redirects settings client c [.called (.redirect client.name)]
        (.ok (.action .unauthorized)) c
  | forgotten (a : Action) : client.redirect c = .ok a → a.location?.isNone = false →
      tellsOff settings c.request = false → keepsUrl settings c.request = false →
      Redirects settings client c [.called (.redirect client.name)] (.ok (.action a)) c
  /-- The session remembers where to come back to. -/
  | remembered {t : List Event} {id : String} {c₁ : Context} (a : Action)
      (answer : Except Error Unit) : client.redirect c = .ok a → a.location?.isNone = false →
      tellsOff settings c.request = false → keepsUrl settings c.request = true →
      Scopes.Ensures c t id c₁ →
      Redirects settings client c
        (.called (.redirect client.name)
          :: (t ++ [.stored (.set id requestedUrlKey (.str c.request.url)) answer]))
        (answer.map fun _ => .action a) c₁

/-- An indirect client redirects, or fails, in one of the listed ways. -/
private theorem ends_askIndirect {settings : Settings} {client : Client} {c c' : Context}
    {t : List Event} {r : Except Error (Attempt ProfileSet)}
    (h : (askIndirect settings client c).Ends t (r, c')) : Redirects settings client c t r c' := by
  rw [askIndirect, Turn.note_bind] at h
  obtain ⟨t, rfl, h⟩ := h
  rw [Turn.context_bind, Turn.ofExcept_bind] at h
  cases ha : client.redirect c with
  | error e =>
      rw [ha] at h
      obtain ⟨rfl, h⟩ := h
      cases h
      exact .failed e ha
  | ok a =>
      rw [ha, Turn.andThen_ok] at h
      -- an action that leads nowhere is handed on as it is
      cases hl : a.location?.isNone with
      | true =>
          rw [hl, if_pos rfl] at h
          obtain ⟨rfl, h⟩ := h
          cases h
          exact .answered a ha hl
      | false =>
          rw [hl, if_neg (by decide), Turn.context_bind] at h
          cases hs : tellsOff settings c.request with
          | true =>
              rw [tellsOff] at hs
              rw [hs, if_pos rfl] at h
              obtain ⟨rfl, h⟩ := h
              cases h
              exact .toldOff a ha hl hs
          | false =>
              rw [tellsOff] at hs
              rw [hs, if_neg (by decide)] at h
              cases hk : keepsUrl settings c.request with
              | false =>
                  rw [keepsUrl] at hk
                  rw [hk, if_neg (by decide)] at h
                  obtain ⟨rfl, h⟩ := h
                  cases h
                  exact .forgotten a ha hl hs hk
              | true =>
                  rw [keepsUrl] at hk
                  rw [hk, if_pos rfl, Turn.bind_apply, Scopes.saveRequestedUrl_apply] at h
                  obtain ⟨u, id, answer, rfl, he, rfl⟩ := Scopes.ends_write h
                  exact .remembered a answer ha hl hs hk he

/-- What the session's answer says about who the visitor is. -/
def heldProfiles (now : Instant) : Except Error (Option Json) → Except Error ProfileSet
  | .error e => .error e
  | .ok none => .ok .empty
  | .ok (some value) => ProfileSet.ofValue now value

/-- The ways in which the session is asked for its profiles. -/
inductive Asks (now : Instant) (c : Context) : List Event → Except Error ProfileSet → Prop
  | nowhere : c.session = none → Asks now c [] (.ok .empty)
  | asked {id : String} (answer : Except Error (Option Json)) : c.session = some id →
      Asks now c [.stored (.get id profilesKey) answer] (heldProfiles now answer)

/-- Reading the profiles of a session asks it, and leaves the context as it is. -/
theorem ends_loadSession {now : Instant} {c c' : Context} {t : List Event}
    {r : Except Error ProfileSet} (h : (Scopes.loadSession now c).Ends t (r, c')) :
    Asks now c t r ∧ c' = c := by
  rw [Scopes.loadSession_apply] at h
  cases hs : c.session with
  | none =>
      rw [hs] at h
      obtain ⟨rfl, h⟩ := h
      cases h
      exact ⟨.nowhere hs, rfl⟩
  | some id =>
      rw [hs] at h
      obtain ⟨answer, rest, rfl, h⟩ := h
      match answer with
      | .error e =>
          obtain ⟨rfl, h⟩ := h
          cases h
          exact ⟨.asked (.error e) hs, rfl⟩
      | .ok none =>
          obtain ⟨rfl, h⟩ := h
          cases h
          exact ⟨.asked (.ok none) hs, rfl⟩
      | .ok (some value) =>
          obtain ⟨rfl, h⟩ := h
          cases h
          exact ⟨.asked (.ok (some value)) hs, rfl⟩

/-- The ways in which a visitor is looked for in the session. -/
inductive Consults (now : Instant) (settings : Settings) (indirect : Option Client)
    (c : Context) : List Event → Except Error (Attempt ProfileSet) → Context → Prop
  | failed {t : List Event} (e : Error) : Asks now c t (.error e) →
      Consults now settings indirect c t (.error e) c
  | known {t : List Event} (s : ProfileSet) : Asks now c t (.ok s) → s.isEmpty = false →
      Consults now settings indirect c t (.ok (.produced s)) c
  | unknown {t : List Event} (s : ProfileSet) : Asks now c t (.ok s) → s.isEmpty = true →
      indirect = none → Consults now settings indirect c t (.ok .absent) c
  | sent {t₁ t₂ : List Event} {r : Except Error (Attempt ProfileSet)} {c' : Context}
      (s : ProfileSet) (client : Client) : Asks now c t₁ (.ok s) → s.isEmpty = true →
      indirect = some client → Redirects settings client c t₂ r c' →
      Consults now settings indirect c (t₁ ++ t₂) r c'

/-- What comes after the direct clients goes in one of the listed ways. -/
private theorem ends_askSession {now : Instant} {settings : Settings} {indirect : Option Client}
    {c c' : Context} {t : List Event} {r : Except Error (Attempt ProfileSet)}
    (h : (askSession now settings indirect c).Ends t (r, c')) :
    Consults now settings indirect (c.withLoaded true) t r c' := by
  unfold askSession at h
  rw [Turn.bind_apply, Scopes.setLoaded_apply, Plan.done_bind, Turn.andThen_ok,
    Turn.bind_apply] at h
  obtain ⟨t₁, ⟨r₁, c₁⟩, t₂, rfl, h₁, h₂⟩ := Plan.ends_bind.mp h
  obtain ⟨ha, rfl⟩ := ends_loadSession h₁
  cases r₁ with
  | error e =>
      obtain ⟨rfl, h₂⟩ := h₂
      cases h₂
      rw [List.append_nil]
      exact .failed e ha
  | ok s =>
      rw [Turn.andThen_ok] at h₂
      cases hs : s.isEmpty with
      | false =>
          rw [hs, if_pos (by decide)] at h₂
          obtain ⟨rfl, h₂⟩ := h₂
          cases h₂
          rw [List.append_nil]
          exact .known s ha hs
      | true =>
          rw [hs, if_neg (by decide)] at h₂
          cases indirect with
          | none =>
              obtain ⟨rfl, h₂⟩ := h₂
              cases h₂
              rw [List.append_nil]
              exact .unknown s ha hs rfl
          | some client => exact .sent s client ha hs rfl (ends_askIndirect h₂)

/-- The ways in which a decision finds out who the visitor is. -/
inductive Authenticates (now : Instant) (settings : Settings) (multi : Bool)
    (clients : List Client) (c : Context) :
    List Event → Except Error (Attempt ProfileSet) → Context → Prop
  /-- No client takes part. -/
  | nobody : clients = [] →
      Authenticates now settings multi clients c [] (.ok .absent) (c.withLoaded true)
  | unreadable (e : Error) : clients ≠ [] → c.noted now = .error e →
      Authenticates now settings multi clients c [] (.error e) c
  /-- An earlier decision of the request found out. -/
  | earlier (s : ProfileSet) : clients ≠ [] → c.noted now = .ok s → s.isEmpty = false →
      Authenticates now settings multi clients c [] (.ok (.produced s))
        (c.withLoaded c.saysLoaded)
  | directFailed {s : ProfileSet} (e : Error) : clients ≠ [] → c.noted now = .ok s →
      s.isEmpty = true → directAnswer now multi c clients .empty = .error e →
      Authenticates now settings multi clients c
        ((directCalls now multi c clients).map .called) (.error e) c
  | directAction {s : ProfileSet} (a : Action) : clients ≠ [] → c.noted now = .ok s →
      s.isEmpty = true → directAnswer now multi c clients .empty = .ok (.action a) →
      Authenticates now settings multi clients c
        ((directCalls now multi c clients).map .called) (.ok (.action a)) (c.withLoaded false)
  | direct {s : ProfileSet} (found : ProfileSet) : clients ≠ [] → c.noted now = .ok s →
      s.isEmpty = true → directAnswer now multi c clients .empty = .ok (.profiles found) →
      found.isEmpty = false →
      Authenticates now settings multi clients c
        ((directCalls now multi c clients).map .called) (.ok (.produced found))
        (c.withLoaded false)
  /-- Nobody answered, and the session has no say. -/
  | unasked {s found : ProfileSet} : clients ≠ [] → c.noted now = .ok s → s.isEmpty = true →
      directAnswer now multi c clients .empty = .ok (.profiles found) → found.isEmpty = true →
      clients.find? Client.isIndirect = none → settings.saveDirect = false →
      Authenticates now settings multi clients c
        ((directCalls now multi c clients).map .called) (.ok .absent) (c.withLoaded false)
  | session {s found : ProfileSet} {t : List Event} {r : Except Error (Attempt ProfileSet)}
      {c' : Context} : clients ≠ [] → c.noted now = .ok s → s.isEmpty = true →
      directAnswer now multi c clients .empty = .ok (.profiles found) → found.isEmpty = true →
      ((clients.find? Client.isIndirect).isNone && !settings.saveDirect) = false →
      Consults now settings (clients.find? Client.isIndirect) (c.withLoaded true) t r c' →
      Authenticates now settings multi clients c
        ((directCalls now multi c clients).map .called ++ t) r c'

/-- What authentication makes of how the direct clients went. -/
private def afterDirect (now : Instant) (settings : Settings) (clients : List Client) :
    DirectResult → Turn (Attempt ProfileSet)
  | .action a => do
      Scopes.setLoaded false
      return .action a
  | .profiles found =>
      if !found.isEmpty then do
        Scopes.setLoaded false
        return .produced found
      else if (clients.find? Client.isIndirect).isNone && !settings.saveDirect then do
        Scopes.setLoaded false
        return .absent
      else askSession now settings (clients.find? Client.isIndirect)

/-- Once the request was found to hold no profiles, authentication goes in one of the listed
    ways. -/
private theorem ends_afterDirect {now : Instant} {settings : Settings} {multi : Bool}
    {clients : List Client} {c c' : Context} {t : List Event} {s : ProfileSet}
    {r : Except Error (Attempt ProfileSet)} (hne : clients ≠ []) (hn : c.noted now = .ok s)
    (hs : s.isEmpty = true)
    (h : ((askDirect now multi clients .empty c).bind
      (Turn.andThen (afterDirect now settings clients))).Ends t (r, c')) :
    Authenticates now settings multi clients c t r c' := by
  rw [askDirect_apply, Plan.calling_bind, Plan.done_bind, Plan.ends_calling] at h
  obtain ⟨u, rfl, h⟩ := h
  cases hd : directAnswer now multi c clients .empty with
  | error e =>
      rw [hd] at h
      obtain ⟨rfl, h⟩ := h
      cases h
      rw [List.append_nil]
      exact .directFailed e hne hn hs hd
  | ok result =>
      rw [hd, Turn.andThen_ok] at h
      -- an action of a direct client ends the round, whatever was found before
      cases result with
      | action a =>
          obtain ⟨rfl, h⟩ := h
          cases h
          rw [List.append_nil]
          exact .directAction a hne hn hs hd
      | profiles found =>
          rw [afterDirect] at h
          -- the session is asked only when the direct clients found nobody
          cases hf : found.isEmpty with
          | false =>
              rw [hf, if_pos (by decide)] at h
              obtain ⟨rfl, h⟩ := h
              cases h
              rw [List.append_nil]
              exact .direct found hne hn hs hd hf
          | true =>
              rw [hf, if_neg (by decide)] at h
              cases hi : (clients.find? Client.isIndirect).isNone && !settings.saveDirect with
              | true =>
                  rw [hi, if_pos rfl] at h
                  obtain ⟨rfl, h⟩ := h
                  cases h
                  rw [List.append_nil]
                  rw [Bool.and_eq_true, Option.isNone_iff_eq_none, Bool.not_eq_true'] at hi
                  exact .unasked hne hn hs hd hf hi.1 hi.2
              | false =>
                  rw [hi, if_neg (by decide)] at h
                  exact .session hne hn hs hd hf hi (ends_askSession h)

/-- Authentication goes in one of the listed ways. -/
theorem ends_authenticate {now : Instant} {settings : Settings} {multi : Bool}
    {clients : List Client} {c c' : Context} {t : List Event}
    {r : Except Error (Attempt ProfileSet)}
    (h : (authenticate now settings multi clients c).Ends t (r, c')) :
    Authenticates now settings multi clients c t r c' := by
  rw [authenticate] at h
  cases hc : clients.isEmpty with
  | true =>
      rw [hc, if_pos rfl, Turn.bind_apply, Scopes.setLoaded_apply] at h
      obtain ⟨rfl, h⟩ := h
      cases h
      exact .nobody (List.isEmpty_iff.mp hc)
  | false =>
      have hne : clients ≠ [] := by
        intro hnil
        rw [hnil] at hc
        exact Bool.noConfusion hc
      rw [hc, if_neg (by decide), Turn.bind_apply, Scopes.loadRequest_apply,
        Plan.done_bind] at h
      cases hn : c.noted now with
      | error e =>
          rw [hn] at h
          obtain ⟨rfl, h⟩ := h
          cases h
          exact .unreadable e hne hn
      | ok s =>
          rw [hn, Turn.andThen_ok] at h
          -- what an earlier decision of the request noted comes before all clients
          cases hs : s.isEmpty with
          | false =>
              rw [hs, if_pos (by decide), Turn.context_bind, Turn.bind_apply,
                Scopes.setLoaded_apply] at h
              obtain ⟨rfl, h⟩ := h
              cases h
              exact .earlier s hne hn hs
          | true =>
              rw [hs, if_neg (by decide), Turn.bind_apply] at h
              exact ends_afterDirect hne hn hs h

/-- Where profiles are found. -/
inductive Source where
  | request
  | direct
  | session
  deriving DecidableEq, Repr

/-- Do profiles of a source count as loaded from the session?  Those of the
    request do if the context says so. -/
def Source.saysLoaded (c : Context) : Source → Bool
  | .request => c.saysLoaded
  | .direct => false
  | .session => true

/-- The ways in which a visitor is found out. -/
inductive Finds (now : Instant) (multi : Bool) (clients : List Client) (c : Context) :
    List Event → ProfileSet → Source → Prop
  | request {s : ProfileSet} : clients ≠ [] → c.noted now = .ok s →
      Finds now multi clients c [] s .request
  | direct {noted s : ProfileSet} : c.noted now = .ok noted → noted.isEmpty = true →
      directAnswer now multi c clients .empty = .ok (.profiles s) →
      Finds now multi clients c ((directCalls now multi c clients).map .called) s .direct
  | session {noted found s : ProfileSet} {id : String} {value : Json} :
      c.noted now = .ok noted → noted.isEmpty = true →
      directAnswer now multi c clients .empty = .ok (.profiles found) → found.isEmpty = true →
      c.session = some id → ProfileSet.ofValue now value = .ok s →
      Finds now multi clients c
        ((directCalls now multi c clients).map .called
          ++ [.stored (.get id profilesKey) (.ok (some value))]) s .session

/-- Profiles that a session gave were read from it. -/
private theorem of_asks {now : Instant} {c : Context} {t : List Event} {s : ProfileSet}
    (h : Asks now c t (.ok s)) (hs : s.isEmpty = false) :
    ∃ id value, c.session = some id ∧ t = [.stored (.get id profilesKey) (.ok (some value))] ∧
      ProfileSet.ofValue now value = .ok s := by
  generalize hr : Except.ok s = r at h
  cases h with
  | nowhere hn =>
      cases hr
      cases hs
  | asked answer hi =>
      match answer with
      | .error e => cases hr
      | .ok none =>
          cases hr
          cases hs
      | .ok (some value) => exact ⟨_, value, hi, rfl, rfl⟩

/-- The action of an indirect client is no profile. -/
private theorem not_produced_of_redirects {settings : Settings} {client : Client}
    {c c' : Context} {t : List Event} {s : ProfileSet} :
    ¬ Redirects settings client c t (.ok (.produced s)) c' := by
  intro h
  generalize hr : Except.ok (Attempt.produced s) = r at h
  cases h with
  | failed e ha => cases hr
  | answered a ha hl => cases hr
  | toldOff a ha hl ht => cases hr
  | forgotten a ha hl ht hk => cases hr
  | remembered a answer ha hl ht hk he =>
      cases answer with
      | error e => cases hr
      | ok done => cases hr

/-- Profiles come from one of three sources, and the context says from which. -/
theorem Authenticates.finds {now : Instant} {settings : Settings} {multi : Bool}
    {clients : List Client} {c c' : Context} {t : List Event} {s : ProfileSet}
    (h : Authenticates now settings multi clients c t (.ok (.produced s)) c') :
    s.isEmpty = false ∧
      ∃ source : Source, c' = c.withLoaded (source.saysLoaded c) ∧
        Finds now multi clients c t s source := by
  cases h with
  | earlier _ hne hn hs => exact ⟨hs, .request, rfl, .request hne hn⟩
  | direct _ hne hn hs hd hf => exact ⟨hf, .direct, rfl, .direct hn hs hd⟩
  | session hne hn hs hd hf hi hc =>
      cases hc with
      | known _ ha hk =>
          obtain ⟨id, value, hid, rfl, hv⟩ := of_asks ha hk
          exact ⟨hk, .session, rfl, .session hn hs hd hf hid hv⟩
      | sent s' client ha hk hcl hr => exact absurd hr not_produced_of_redirects

/-- What is found in the request or by direct clients is found whatever the store answers. -/
theorem Authenticates.of_finds {now : Instant} {settings : Settings} {multi : Bool}
    {clients : List Client} {c c₁ : Context} {u v : List Event} {s : ProfileSet}
    {source : Source} {found : Except Error (Attempt ProfileSet)}
    (ha : Authenticates now settings multi clients c v found c₁)
    (hf : Finds now multi clients c u s source) (hs : s.isEmpty = false)
    (hsource : source ≠ .session) :
    v = u ∧ found = .ok (.produced s) ∧ c₁ = c.withLoaded (source.saysLoaded c) := by
  cases hf with
  | session hn hnil hd hfound hid hv => exact absurd rfl hsource
  | request hcl hn =>
      cases ha with
      | nobody hnil => exact absurd hnil hcl
      | unreadable e hne hn' => cases hn.symm.trans hn'
      | earlier s' hne hn' hs' =>
          cases hn.symm.trans hn'
          exact ⟨rfl, rfl, rfl⟩
      | directFailed e hne hn' hs' hd =>
          cases hn.symm.trans hn'
          cases hs.symm.trans hs'
      | directAction a hne hn' hs' hd =>
          cases hn.symm.trans hn'
          cases hs.symm.trans hs'
      | direct found hne hn' hs' hd hf =>
          cases hn.symm.trans hn'
          cases hs.symm.trans hs'
      | unasked hne hn' hs' hd hf hi hsave =>
          cases hn.symm.trans hn'
          cases hs.symm.trans hs'
      | session hne hn' hs' hd hf hi hc =>
          cases hn.symm.trans hn'
          cases hs.symm.trans hs'
  | direct hn hnil hd =>
      cases ha with
      | nobody hcl =>
          subst hcl
          cases hd
          cases hs
      | unreadable e hne hn' => cases hn.symm.trans hn'
      | earlier s' hne hn' hs' =>
          cases hn.symm.trans hn'
          cases hnil.symm.trans hs'
      | directFailed e hne hn' hs' hd' => cases hd.symm.trans hd'
      | directAction a hne hn' hs' hd' => cases hd.symm.trans hd'
      | direct found hne hn' hs' hd' hf =>
          cases hd.symm.trans hd'
          exact ⟨rfl, rfl, rfl⟩
      | unasked hne hn' hs' hd' hf hi hsave =>
          cases hd.symm.trans hd'
          cases hs.symm.trans hf
      | session hne hn' hs' hd' hf hi hc =>
          cases hd.symm.trans hd'
          cases hs.symm.trans hf

end Gate

end AccessGate
