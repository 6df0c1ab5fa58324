import AccessGate.Config.Settings
import AccessGate.Gate.Middleware
import AccessGate.Http.Headers
import AccessGate.Proofs.Trimming

/-! # A cookie comes back

    The gate sends a session id in a cookie and finds it in the `Cookie` fields of
    later requests, among the cookies of others.  A caller's fields are taken to be
    made of pairs (`CookiePair`), in as many fields and with as many blanks as they
    like; `cookie?_of_carries` says that the first pair of a name is found, wherever
    it stands.  What the gate sends out is such a pair, since a name that passes the
    check of the settings and an id are made of plain characters. -/

namespace AccessGate

open Text

namespace Http

/-! ## Characters -/

/-- A visible character that does not end a pair. -/
def isCookieOctet (c : Char) : Bool := 0x21 ≤ c.toNat && c.toNat ≤ 0x7E && c != ';'

/-- Blanks between pairs. -/
def isPad (c : Char) : Bool := c == ' ' || c == '\t'

variable {c : Char}

theorem isBlank_of_isCookieOctet (h : isCookieOctet c = true) : isBlank c = false := by
  simp only [isCookieOctet, Bool.and_eq_true, decide_eq_true_eq] at h
  simp only [isBlank, Bool.or_eq_false_iff, Bool.and_eq_false_iff, beq_eq_false_iff_ne,
    decide_eq_false_iff_not]
  omega

/-- A value of a cookie can be read in a header field. -/
theorem isReadableChar_of_isCookieOctet (h : isCookieOctet c = true) : isReadableChar c = true := by
  simp only [isCookieOctet, Bool.and_eq_true, decide_eq_true_eq] at h
  simp only [isReadableChar, Bool.or_eq_true, Bool.and_eq_true, decide_eq_true_eq, beq_iff_eq]
  omega

theorem of_isAlnum (h : isAlnum c = true) :
    97 ≤ c.toNat ∧ c.toNat ≤ 122 ∨ 65 ≤ c.toNat ∧ c.toNat ≤ 90 ∨ 48 ≤ c.toNat ∧ c.toNat ≤ 57 := by
  simp only [isAlnum, Bool.or_eq_true, Bool.and_eq_true, decide_eq_true_eq, Char.le_def,
    UInt32.le_iff_toNat_le] at h
  rcases h with (h | h) | h
  · exact .inl h
  · exact .inr (.inl h)
  · exact .inr (.inr h)

/-- What may stand in a token ends neither the name of a pair nor the pair. -/
theorem isCookieOctet_of_isTokenChar (h : isTokenChar c = true) :
    isCookieOctet c = true ∧ c ≠ '=' := by
  rw [isTokenChar, Bool.or_eq_true] at h
  rcases h with h | h
  · have hrange := of_isAlnum h
    have hsemicolon : c ≠ ';' := by
      rintro rfl
      exact absurd h (by decide)
    constructor
    · simp only [isCookieOctet, Bool.and_eq_true, decide_eq_true_eq, bne_iff_ne]
      exact ⟨⟨by omega, by omega⟩, hsemicolon⟩
    · rintro rfl
      exact absurd h (by decide)
  · have hsigns : ("!#$%&'*+-.^_\x60|~".toList.all fun sign => isCookieOctet sign && sign != '=')
        = true := rfl
    have hsign := List.all_eq_true.mp hsigns c (List.contains_iff_mem.mp h)
    rwa [Bool.and_eq_true, bne_iff_ne] at hsign

/-- The characters of session ids and of cookie names. -/
theorem isTokenChar_of_isCookieChar (h : Settings.isCookieChar c = true) :
    isTokenChar c = true := by
  simp only [Settings.isCookieChar, Bool.or_eq_true, beq_iff_eq] at h
  rw [isTokenChar, Bool.or_eq_true]
  rcases h with ((h | rfl) | rfl) | rfl
  · exact .inl h
  · exact .inr (by decide)
  · exact .inr (by decide)
  · exact .inr (by decide)

/-! ## Pairs -/

/-- A pair of a `Cookie` field as it stands there, with the blanks around it. -/
structure CookiePair where
  before : List Char
  name : String
  value : String
  after : List Char
  before_pad : ∀ c ∈ before, isPad c = true
  name_token : isToken name = true
  value_octets : ∀ c ∈ value.toList, isCookieOctet c = true
  after_pad : ∀ c ∈ after, isPad c = true

namespace CookiePair

/-- A pair without the blanks around it. -/
def core (pair : CookiePair) : List Char := pair.name.toList ++ '=' :: pair.value.toList

/-- A pair as it stands in a field. -/
def segment (pair : CookiePair) : List Char := pair.before ++ (pair.core ++ pair.after)

variable (pair : CookiePair)

/-- The name of a cookie is made of characters of tokens. -/
theorem isTokenChar_of_mem_name (h : c ∈ pair.name.toList) : isTokenChar c = true := by
  have htoken := pair.name_token
  rw [isToken, Bool.and_eq_true, List.all_eq_true] at htoken
  exact htoken.2 c h

/-- So no sign of a pair but its own equals sign cuts it. -/
theorem isCookieOctet_of_mem_core (h : c ∈ pair.core) : isCookieOctet c = true := by
  rcases List.mem_append.mp h with h | h
  · exact (isCookieOctet_of_isTokenChar (pair.isTokenChar_of_mem_name h)).1
  · rcases List.mem_cons.mp h with rfl | h
    · decide
    · exact pair.value_octets c h

theorem isBlank_of_mem_core (h : c ∈ pair.core) : isBlank c = false :=
  isBlank_of_isCookieOctet (pair.isCookieOctet_of_mem_core h)

/-- Every character of a pair is one of its own or a blank around it. -/
theorem of_mem_segment (h : c ∈ pair.segment) : isPad c = true ∨ isCookieOctet c = true := by
  rcases List.mem_append.mp h with h | h
  · exact .inl (pair.before_pad c h)
  · rcases List.mem_append.mp h with h | h
    · exact .inr (pair.isCookieOctet_of_mem_core h)
    · exact .inl (pair.after_pad c h)

end CookiePair

theorem isBlank_of_isPad (h : isPad c = true) : isBlank c = true := by
  rw [isPad, Bool.or_eq_true, beq_iff_eq, beq_iff_eq] at h
  rcases h with rfl | rfl
  · rfl
  · rfl

/-- The name and the value of a pair are read back. -/
theorem cookiePair?_segment (pair : CookiePair) :
    cookiePair? pair.segment = some (pair.name.toList, pair.value.toList) := by
  have htrim : trimChars pair.segment = pair.core :=
    trimChars_of_around (fun c hc => isBlank_of_isPad (pair.before_pad c hc))
      (fun c hc => pair.isBlank_of_mem_core (List.mem_of_mem_head? hc))
      (fun c hc => pair.isBlank_of_mem_core (List.mem_of_getLast? hc))
      fun c hc => isBlank_of_isPad (pair.after_pad c hc)
  have hname : pair.core.takeWhile (· != '=') = pair.name.toList := by
    have hfree : ∀ c ∈ pair.name.toList, (c != '=') = true := fun c hc =>
      bne_iff_ne.mpr (isCookieOctet_of_isTokenChar (pair.isTokenChar_of_mem_name hc)).2
    rw [CookiePair.core, List.takeWhile_append_of_pos hfree,
      List.takeWhile_cons_of_neg (by decide), List.append_nil]
  rw [cookiePair?, htrim, hname]
  simp only [CookiePair.core, List.drop_left]

/-! ## Fields -/

/-- The text of a field: pairs with a semicolon between two of them. -/
def fieldChars : List CookiePair → List Char
  | [] => []
  | [pair] => pair.segment
  | pair :: next :: rest => pair.segment ++ ';' :: fieldChars (next :: rest)

/-- A pair holds no semicolon, blanks around it included. -/
theorem CookiePair.no_semicolon (pair : CookiePair) : ';' ∉ pair.segment := by
  intro h
  rcases pair.of_mem_segment h with h | h
  · exact absurd h (by decide)
  · exact absurd h (by decide)

/-- The pairs of a field are read back in order. -/
theorem cookiePairs_fieldChars (pairs : List CookiePair) :
    cookiePairs (String.ofList (fieldChars pairs))
      = pairs.map fun pair => (pair.name.toList, pair.value.toList) := by
  rw [cookiePairs, String.toList_ofList]
  induction pairs with
  | nil => rfl
  | cons pair rest ih =>
      cases rest with
      | nil =>
          rw [fieldChars, List.splitOn_eq_singleton pair.no_semicolon,
            List.filterMap_cons_some (cookiePair?_segment pair)]
          rfl
      | cons next rest =>
          rw [fieldChars, List.splitOn_append_cons_self_of_not_mem pair.no_semicolon,
            List.filterMap_cons_some (cookiePair?_segment pair), ih]
          rfl

/-- A field of pairs can be read. -/
theorem isReadable_fieldChars (pairs : List CookiePair) :
    isReadable (String.ofList (fieldChars pairs)) = true := by
  have hsegment : ∀ (pair : CookiePair), ∀ c ∈ pair.segment, isReadableChar c = true := by
    intro pair c hc
    rcases pair.of_mem_segment hc with h | h
    · rw [isPad, Bool.or_eq_true, beq_iff_eq, beq_iff_eq] at h
      rcases h with rfl | rfl
      · rfl
      · rfl
    · exact isReadableChar_of_isCookieOctet h
  rw [isReadable, String.toList_ofList, List.all_eq_true]
  induction pairs with
  | nil => exact List.forall_mem_nil _
  | cons pair rest ih =>
      cases rest with
      | nil => exact hsegment pair
      | cons next rest =>
          rw [fieldChars]
          exact List.forall_mem_append.mpr ⟨hsegment pair, List.forall_mem_cons.mpr ⟨rfl, ih⟩⟩

/-! ## Requests -/

/-- The `Cookie` fields of a request are made of pairs, and of those with a name
    the first has a value. -/
def Carries (h : Headers) (name value : String) : Prop :=
  ∃ (fields : List (List CookiePair)) (earlier later : List CookiePair) (own : CookiePair),
    h.all "cookie" = fields.map (fun pairs => String.ofList (fieldChars pairs)) ∧
      fields.flatten = earlier ++ own :: later ∧ own.name = name ∧ own.value = value ∧
      ∀ pair ∈ earlier, pair.name ≠ name

/-- A pair that is carried is found, whatever stands around it. -/
theorem cookie?_of_carries {h : Headers} {name value : String} (hc : Carries h name value)
    (hvalue : value ≠ "") : cookie? h name = some value := by
  obtain ⟨fields, earlier, later, own, hfields, hpairs, rfl, rfl, hearlier⟩ := hc
  let read : CookiePair → List Char × List Char := fun pair => (pair.name.toList, pair.value.toList)
  have hreadable : (h.all "cookie").filter isReadable = h.all "cookie" := by
    refine List.filter_eq_self.mpr fun text hm => ?_
    rw [hfields] at hm
    obtain ⟨pairs, -, rfl⟩ := List.mem_map.mp hm
    exact isReadable_fieldChars pairs
  have hread : ((h.all "cookie").filter isReadable).flatMap cookiePairs
      = earlier.map read ++ read own :: later.map read := by
    rw [hreadable, hfields, List.flatMap_map, List.flatMap_def,
      List.map_congr_left fun pairs _ => cookiePairs_fieldChars pairs, ← List.map_flatten, hpairs,
      List.map_append, List.map_cons]
  have hfind : (earlier.map read ++ read own :: later.map read).find?
      (fun p => String.ofList p.1 == own.name) = some (read own) := by
    have hnone : (earlier.map read).find? (fun p => String.ofList p.1 == own.name) = none := by
      refine List.find?_eq_none.mpr fun p hp => ?_
      obtain ⟨pair, hm, rfl⟩ := List.mem_map.mp hp
      rw [String.ofList_toList, beq_iff_eq]
      exact hearlier pair hm
    rw [List.find?_append, hnone, Option.none_or, List.find?_cons_of_pos]
    rw [String.ofList_toList, beq_iff_eq]
  have htrim : trimChars own.value.toList = own.value.toList :=
    trimChars_of_ends
      (fun c hc => isBlank_of_isCookieOctet (own.value_octets c (List.mem_of_mem_head? hc)))
      fun c hc => isBlank_of_isCookieOctet (own.value_octets c (List.mem_of_getLast? hc))
  have hsome : ¬ own.value.toList.isEmpty = true := by
    rw [List.isEmpty_iff, String.toList_eq_nil_iff]
    exact hvalue
  rw [cookie?, hread, hfind]
  show (if (trimChars own.value.toList).isEmpty then none
    else some (String.ofList (trimChars own.value.toList))) = some own.value
  rw [htrim, if_neg hsome, String.ofList_toList]

end Http

/-! ## What the gate sends -/

namespace Encoding.Base64

/-- The alphabet of ids may stand in a cookie. -/
theorem isCookieChar_urlSafe (n : Nat) : Settings.isCookieChar (urlSafe.char n) = true := by
  by_cases hn : n < 63
  · have hbelow : ∀ n : Fin 63, Settings.isCookieChar (urlSafe.char n) = true := by decide
    exact hbelow ⟨n, hn⟩
  · rw [Alphabet.char, if_neg (by omega), if_neg (by omega), if_neg (by omega), if_neg (by omega)]
    rfl

/-- What holds of every sign of the alphabet of URLs holds of all that is written in it. -/
theorem forall_mem_encode {p : Char → Prop} (h : ∀ n, p (urlSafe.char n)) (octets : List UInt8) :
    ∀ c ∈ encode urlSafe octets, p c := by
  have hcons : ∀ (n : Nat) {s : List Char}, (∀ c ∈ s, p c) → ∀ c ∈ urlSafe.char n :: s, p c :=
    fun n s hs => List.forall_mem_cons.mpr ⟨h n, hs⟩
  fun_induction encode urlSafe octets with
  | case1 => exact List.forall_mem_nil _
  | case2 x => exact hcons _ (hcons _ (List.forall_mem_nil _))
  | case3 x y => exact hcons _ (hcons _ (hcons _ (List.forall_mem_nil _)))
  | case4 x y z rest ih => exact hcons _ (hcons _ (hcons _ (hcons _ ih)))

/-- Octets in the alphabet of URLs are plain characters. -/
theorem isCookieChar_of_mem_encode {octets : List UInt8} :
    ∀ c ∈ encode urlSafe octets, Settings.isCookieChar c = true :=
  forall_mem_encode isCookieChar_urlSafe octets

end Encoding.Base64

/-- So may every id of a session. -/
theorem isCookieChar_of_mem_sessionIdOf {octets : List UInt8} {c : Char}
    (h : c ∈ (sessionIdOf octets).toList) : Settings.isCookieChar c = true := by
  rw [sessionIdOf, String.toList_append] at h
  rcases List.mem_append.mp h with h | h
  · have hstart : "sess_".toList.all Settings.isCookieChar = true := rfl
    exact List.all_eq_true.mp hstart c h
  · rw [Encoding.Base64.urlText, String.toList_ofList] at h
    exact Encoding.Base64.isCookieChar_of_mem_encode c h

/-- No id of a session is empty. -/
theorem sessionIdOf_ne_empty (octets : List UInt8) : sessionIdOf octets ≠ "" := by
  intro h
  have hlist := congrArg String.toList h
  rw [sessionIdOf, String.toList_append] at hlist
  cases hlist

/-- A configuration passes its check only with settings that do. -/
theorem Config.settings_of_check {config : Config} (h : config.check = .ok ()) :
    config.settings.check = .ok () := by
  rw [check] at h
  split at h
  · cases h
  · next hsettings => exact hsettings

/-- The name of the cookie that checked settings give is plain. -/
theorem Settings.plain_of_check {s : Settings} (h : s.check = .ok ()) :
    s.cookie ≠ "" ∧ ∀ c ∈ s.cookie.toList, isCookieChar c = true := by
  rw [check] at h
  split at h
  · cases h
  · split at h
    · cases h
    · next hname =>
      simp only [Bool.or_eq_true, Bool.not_eq_true', not_or, Bool.not_eq_false, List.all_eq_true] at hname
      exact ⟨fun hempty => hname.1 (hempty ▸ rfl), hname.2⟩

/-- The cookie of a session id can be sent. -/
theorem isHeaderValue_cookieText {s : Settings} (h : s.check = .ok ()) (octets : List UInt8)
    (secure : Bool) :
    Http.isHeaderValue (Middleware.cookieText s.cookie (sessionIdOf octets) secure) = true := by
  have hplain : ∀ text : String, (∀ c ∈ text.toList, Settings.isCookieChar c = true) →
      ∀ c ∈ text.toList, Http.isValueChar c = true := by
    intro text htext c hc
    have hoctet := (Http.isCookieOctet_of_isTokenChar
      (Http.isTokenChar_of_isCookieChar (htext c hc))).1
    simp only [Http.isCookieOctet, Bool.and_eq_true, decide_eq_true_eq] at hoctet
    simp only [Http.isValueChar, Bool.or_eq_true, Bool.and_eq_true, decide_eq_true_eq, bne_iff_ne]
    exact .inl ⟨by omega, by omega⟩
  have hbetween : "=".toList.all Http.isValueChar = true := rfl
  have hrules : "; Path=/; HttpOnly; SameSite=Lax".toList.all Http.isValueChar = true := rfl
  have hsecure : (if secure then "; Secure" else "").toList.all Http.isValueChar = true := by
    cases secure with
    | true => rfl
    | false => rfl
  have hname := hplain _ (Settings.plain_of_check h).2
  have hid := hplain (sessionIdOf octets) fun c hc => isCookieChar_of_mem_sessionIdOf hc
  rw [Http.isHeaderValue, List.all_eq_true]
  simp only [Middleware.cookieText, String.toList_append, List.forall_mem_append]
  exact ⟨⟨⟨⟨hname, List.all_eq_true.mp hbetween⟩, hid⟩, List.all_eq_true.mp hrules⟩,
    List.all_eq_true.mp hsecure⟩

/-! ## Fields of a response -/

namespace Response

/-- A field that is set leaves those of other names as they are. -/
theorem all_set_of_ne (r : Response) {name other : String} (value : String)
    (h : Text.lower other ≠ name) : (r.set name value).headers.all other = r.headers.all other := by
  have hkept : (r.headers.filter fun f => f.1 != name).filter (fun f => f.1 == Text.lower other)
      = r.headers.filter fun f => f.1 == Text.lower other := by
    rw [List.filter_filter]
    refine List.filter_congr fun f _ => ?_
    by_cases hf : f.1 = Text.lower other
    · rw [hf, beq_self_eq_true, Bool.true_and]
      exact bne_iff_ne.mpr h
    · rw [beq_eq_false_iff_ne.mpr hf, Bool.false_and]
  rw [Http.Headers.all, set, List.filter_append, hkept, List.filter_cons_of_neg, List.filter_nil,
    List.append_nil]
  · rfl
  · rw [beq_iff_eq]
    exact Ne.symm h

/-- A field that was set has the one value. -/
theorem all_set_self (r : Response) {name : String} (value : String) (h : Text.lower name = name) :
    (r.set name value).headers.all name = [value] := by
  have hothers : (r.headers.filter fun f => f.1 != name).filter (fun f => f.1 == name) = [] := by
    rw [List.filter_filter, List.filter_eq_nil_iff]
    intro f _
    rw [bne, Bool.and_not_self]
    exact Bool.false_ne_true
  rw [Http.Headers.all, set, h, List.filter_append, hothers, List.nil_append, List.filter_cons,
    if_pos (beq_self_eq_true name)]
  rfl

/-- A value that was appended comes behind those that were there. -/
theorem all_append_self (r : Response) {name : String} (value : String)
    (h : Text.lower name = name) :
    (r.append name value).headers.all name = r.headers.all name ++ [value] := by
  rw [Http.Headers.all, append, List.filter_append, List.filter_cons, if_pos (beq_iff_eq.mpr h.symm),
    List.map_append]
  rfl

end Response

/-- A session id that was issued goes back in one field more. -/
theorem Middleware.withCookie_of_issued {s : Settings} {c : Context} {octets : List UInt8}
    (h : s.check = .ok ()) (hissued : c.sessionIssued = true)
    (hid : c.session = some (sessionIdOf octets)) (r : Response) :
    withCookie s c r
      = r.append "set-cookie" (cookieText s.cookie (sessionIdOf octets) c.request.isSecure) := by
  rw [withCookie, hissued, hid]
  exact if_pos (isHeaderValue_cookieText h octets _)

/-- The pair of a name and a value of plain characters, with nothing around it. -/
def Http.CookiePair.plain (name value : String) (hne : name ≠ "")
    (hname : name.toList.all Settings.isCookieChar = true)
    (hvalue : value.toList.all Settings.isCookieChar = true) : Http.CookiePair where
  before := []
  name := name
  value := value
  after := []
  before_pad := List.forall_mem_nil _
  name_token := by
    rw [isToken, Bool.and_eq_true, Bool.not_eq_true', List.all_eq_true]
    exact ⟨String.isEmpty_eq_false_iff.mpr hne, fun c hc =>
      isTokenChar_of_isCookieChar (List.all_eq_true.mp hname c hc)⟩
  value_octets c hc := (isCookieOctet_of_isTokenChar
    (isTokenChar_of_isCookieChar (List.all_eq_true.mp hvalue c hc))).1
  after_pad := List.forall_mem_nil _

end AccessGate
