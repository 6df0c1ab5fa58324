import AccessGate.Proofs.CookieField
import AccessGate.Proofs.Engine
import AccessGate.Proofs.Failure

/-! # What a response says of its request

    A response should bear the id that the gate gave to the request, and when a
    session id was issued on the way it should take it back to the visitor.  Fields
    are read here as their receiver reads them: a cookie is a pair, with attributes
    behind it.

    `marked_iff` says which responses do, of any configuration that a gate accepts
    and with any engine: those of decisions that came to an outcome.  A decision
    that fails is answered with a bare error, which bears no id, and which leaves
    the visitor without the session that may have been issued. -/

namespace AccessGate

/-! ## The cookie of a session -/

/-- A field sets a cookie: the pair of its name and value comes first, and `Secure` is
    among the attributes behind it just when the connection is secure. -/
structure Http.SetsCookie (field name value : String) (secure : Bool) : Prop where
  pair : (field.toList.splitOn ';').head?.bind cookiePair? = some (name.toList, value.toList)
  secure_iff :
    "Secure".toList ∈ (field.toList.splitOn ';').tail.map Text.trimChars ↔ secure = true

/-- The attributes of the cookie of a session id, behind the first semicolon. -/
def attributeChars (secure : Bool) : List Char :=
  " Path=/; HttpOnly; SameSite=Lax".toList ++ (if secure then "; Secure" else "").toList

theorem toList_cookieText (name id : String) (secure : Bool) :
    (Middleware.cookieText name id secure).toList
      = (name.toList ++ '=' :: id.toList) ++ ';' :: attributeChars secure := by
  have hparts : (Middleware.cookieText name id secure).toList = name.toList ++ ("=".toList
      ++ (id.toList ++ ("; Path=/; HttpOnly; SameSite=Lax".toList
        ++ (if secure then "; Secure" else "").toList))) := by
    simp only [Middleware.cookieText, String.toList_append, List.append_assoc]
  have hrules : "; Path=/; HttpOnly; SameSite=Lax".toList
      = ';' :: " Path=/; HttpOnly; SameSite=Lax".toList := rfl
  have hattributes : "; Path=/; HttpOnly; SameSite=Lax".toList
      ++ (if secure then "; Secure" else "").toList = ';' :: attributeChars secure :=
    congrArg (· ++ (if secure then "; Secure" else "").toList) hrules
  rw [hparts, hattributes, List.append_assoc]
  rfl

theorem setsCookie_cookieText {s : Settings} (h : s.check = .ok ()) (octets : List UInt8)
    (secure : Bool) :
    Http.SetsCookie (Middleware.cookieText s.cookie (sessionIdOf octets) secure) s.cookie
      (sessionIdOf octets) secure := by
  obtain ⟨hne, hname⟩ := Settings.plain_of_check h
  let pair := Http.CookiePair.plain s.cookie (sessionIdOf octets) hne
    (List.all_eq_true.mpr hname)
    (List.all_eq_true.mpr fun c hc => isCookieChar_of_mem_sessionIdOf hc)
  have hsegment : pair.segment = s.cookie.toList ++ '=' :: (sessionIdOf octets).toList :=
    List.append_nil _
  have hsegments : (Middleware.cookieText s.cookie (sessionIdOf octets) secure).toList.splitOn ';'
      = pair.segment :: (attributeChars secure).splitOn ';' := by
    rw [toList_cookieText, ← hsegment, List.splitOn_append_cons_self_of_not_mem pair.no_semicolon]
  refine ⟨?_, ?_⟩
  · rw [hsegments, List.head?_cons, Option.bind_some]
    exact Http.cookiePair?_segment pair
  · rw [hsegments, List.tail_cons]
    cases secure with
    | true => decide
    | false => decide

/-- What was issued on a trace are session ids. -/
theorem exists_of_mem_issuedIds {t : List Event} {id : String} (h : id ∈ issuedIds t) :
    ∃ octets, id = sessionIdOf octets := by
  obtain ⟨event, -, hid⟩ := List.mem_filterMap.mp h
  cases event with
  | stored step answer => cases hid
  | called call => cases hid
  | drawn count octets =>
      rw [Event.sessionId?] at hid
      split at hid
      · exact ⟨octets, (Option.some.inj hid).symm⟩
      · cases hid

/-! ## The marks of a response -/

/-- The marks of the gate on a response.  It bears the id of its request and no other.
    When session ids were issued there is one cookie more than what was answered set of
    its own, and it binds the name of the settings to the id that the session has in
    the end; when none was issued, there is no cookie more. -/
structure Response.Marked (r : Response) (settings : Settings) (requestId : String)
    (own issued : List String) (session : Option String) (secure : Bool) : Prop where
  requestId : r.headers.all "x-request-id" = [requestId]
  given : issued ≠ [] → ∃ id ∈ issued, session = some id ∧
    ∃ field, r.headers.all "set-cookie" = own ++ [field] ∧
      Http.SetsCookie field settings.cookie id secure
  plain : issued = [] → r.headers.all "set-cookie" = own

namespace Middleware

variable {config : Config} {base m : Middleware} {handler : Handler} {request : Request}
  {requestId : String} {c' : Context} {u : List Event}

/-- The cookies that are set by the handler of a request, or by the action that answers
    it.  Where nothing was decided there are none. -/
def ownCookies (handler : Handler) (request : Request) (requestId : String) :
    Except Error Outcome → List String
  | .error _ => []
  | .ok outcome => (respond handler request requestId outcome).headers.all "set-cookie"

theorem of_ofConfig (h : ofConfig config = .ok base) :
    config.check = .ok () ∧ base.config = config := by
  rw [ofConfig] at h
  cases hcheck : config.check with
  | error e =>
      rw [hcheck] at h
      cases h
  | ok done =>
      rw [hcheck] at h
      cases h
      exact ⟨rfl, rfl⟩

/-- The response to an outcome bears all marks. -/
theorem marked_conclude (hcheck : m.config.settings.check = .ok ())
    (hfollows : (Context.ofCookie request m.config.settings.cookie).Follows u c')
    (hrequest : c'.request = request) (outcome : Outcome) :
    (m.conclude handler request requestId c' (.ok outcome)).Marked m.config.settings requestId
      (ownCookies handler request requestId (.ok outcome)) (issuedIds u) c'.session
      request.isSecure := by
  have hcookies : (m.conclude handler request requestId c' (.ok outcome)).headers.all "set-cookie"
      = (withCookie m.config.settings c'
          (respond handler request requestId outcome)).headers.all "set-cookie" :=
    Response.all_set_of_ne _ _ (by decide)
  refine ⟨Response.all_set_self _ _ rfl, fun hissued => ?_, fun hnone => ?_⟩
  · cases hfollows with
    | same hs hi hn => exact absurd hn hissued
    | issued hm hs hi =>
        obtain ⟨octets, rfl⟩ := exists_of_mem_issuedIds hm
        refine ⟨_, hm, hs, _, ?_, setsCookie_cookieText hcheck octets request.isSecure⟩
        rw [hcookies, withCookie_of_issued hcheck hi hs, hrequest,
          Response.all_append_self _ _ rfl]
        rfl
  · cases hfollows with
    | same hs hi hn =>
        have hkept : c'.sessionIssued = false := hi
        rw [hcookies, withCookie, hkept]
        rfl
    | issued hm hs hi =>
        rw [hnone] at hm
        cases hm

/-- What bears an id is no bare error. -/
theorem not_marked_bare {settings : Settings} {own issued : List String}
    {session : Option String} {secure : Bool} :
    ¬ (Response.bare 500).Marked settings requestId own issued session secure := by
  intro h
  cases h.requestId

/-- A gate that accepts its configuration answers every request, whatever its engine and
    its parameters, after one decision on a fresh context.  The response bears the marks
    of the gate just when the decision came to an outcome: the id of the request, and
    the cookie of the session if one was issued.  A decision that failed is answered
    with a bare error instead, whether or not it issued a session id. -/
theorem marked_iff (hconfig : ofConfig config = .ok base) (e : Engine) (p : Parameters)
    (now : Instant) (handler : Handler) (request : Request) {t : List Event}
    {response : Response}
    (h : ({ base with parameters := p }.processWith e now handler request).Ends t response) :
    ∃ octets u result c', t = .drawn requestIdOctets octets :: u ∧
      (e.decide (some config) p now (Context.ofCookie request config.settings.cookie)).Ends u
        (result, c') ∧
      (response.Marked config.settings (requestIdOf octets)
          (ownCookies handler request (requestIdOf octets) result) (issuedIds u) c'.session
          request.isSecure ↔ ∃ outcome, result = .ok outcome) ∧
      ∀ error, result = .error error → response = .bare 500 := by
  obtain ⟨hcheck, hbase⟩ := of_ofConfig hconfig
  obtain ⟨octets, u, result, c', ht, hd, hresponse⟩ := ends_processBy h
  subst hbase
  obtain ⟨hfollows, hrequest⟩ := (e.tracks_decide _ _ _).of_ends hd
  refine ⟨octets, u, result, c', ht, hd, ?_, ?_⟩
  · rw [hresponse]
    cases result with
    | error error => exact ⟨fun hm => absurd hm not_marked_bare, fun ⟨_, ho⟩ => nomatch ho⟩
    | ok outcome =>
        refine ⟨fun _ => ⟨outcome, rfl⟩, fun _ => ?_⟩
        exact marked_conclude (Config.settings_of_check hcheck) hfollows hrequest outcome
  · rintro error rfl
    exact hresponse

/-! A visitor whom nobody knows comes to a gate that keeps its visitors in sessions.
    The session is issued; then its profiles are written, or they cannot be. -/

/-- A configuration that keeps its visitors in sessions. -/
def keepingConfig : Config := .anonymous { saveDirect := true }

/-- The gate of the configuration. -/
def keepingGate : Middleware := ⟨.ofSettings keepingConfig.settings, keepingConfig, default⟩

/-- A request for the first page. -/
def firstPage : Request := ⟨"GET", .root, [], []⟩

/-- A handler that greets everybody. -/
def greeting : Handler := fun _ _ => .text 200 "hello"

/-- Who is greeted is told the id of the request and that of the session. -/
theorem marked_iff_greeted :
    ofConfig keepingConfig = .ok keepingGate ∧
      ∃ octets u outcome, ∃ c' : Context, issuedIds u ≠ [] ∧
        ((keepingGate.processWith keepingGate.gate.engine .epoch greeting firstPage).run
          (.still .epoch) (World.ofStore .empty)).1.Marked keepingConfig.settings
          (requestIdOf octets) (ownCookies greeting firstPage (requestIdOf octets) (.ok outcome))
          (issuedIds u) c'.session false := by
  have hconfig : ofConfig keepingConfig = .ok keepingGate := rfl
  obtain ⟨octets, u, result, c', ht, -, hmarked, hbare⟩ :=
    marked_iff hconfig keepingGate.gate.engine default .epoch greeting firstPage
      (Plan.ends_trace (.still .epoch) _ (World.ofStore .empty))
  have hissued : issuedIds u = [sessionIdOf (List.replicate 32 0)] := by
    have htail := congrArg List.tail ht
    rw [List.tail_cons] at htail
    rw [← htail]
    rfl
  cases result with
  | error error => cases congrArg Response.status (hbare error rfl)
  | ok outcome =>
      refine ⟨hconfig, octets, u, outcome, c', ?_, hmarked.mpr ⟨outcome, rfl⟩⟩
      rw [hissued]
      exact List.cons_ne_nil _ _

/-- The response where nothing can be written. -/
def unwritableResponse : Response :=
  ((keepingGate.process .epoch greeting firstPage).run unwritable (World.ofStore .empty)).1

/-- Where nothing can be written the session is issued too, but the visitor is told
    neither its id nor that of the request. -/
theorem unmarked_where_unwritable :
    ofConfig keepingConfig = .ok keepingGate ∧
      issuedIds ((keepingGate.process .epoch greeting firstPage).trace unwritable
        (World.ofStore .empty)) = [sessionIdOf (List.replicate 32 0)] ∧
      unwritableResponse.status = 500 ∧ unwritableResponse.headers.all "x-request-id" = [] ∧
      unwritableResponse.headers.all "set-cookie" = [] := by
  have hbare : unwritableResponse = .bare 500 := rfl
  rw [hbare]
  exact ⟨rfl, rfl, rfl, rfl, rfl⟩

end Middleware

end AccessGate
