import AccessGate.Context
import AccessGate.Proofs.UrlText

/-! # Two views of the transport

    Whether a request came over a secure connection is said twice: by the scheme of its URL,
    and by the request when it is asked, as it is for a cookie.  Both go by the request's own
    scheme and by the field `X-Forwarded-Proto`, but not in the same way: the URL never looks
    at a field when it has a scheme of its own, it never looks at `X-Forwarded-Ssl`, and it
    takes the forwarded word as it stands where the request compares it.

    A scheme ends at its colon, so the scheme of a URL is that of the word in front
    (`Url.scheme?_append`).  `Request.Parted` has the three ways in which the views part, and
    `views_agree_iff` says that there is no other. -/

namespace AccessGate

/-! ## The scheme of a text -/

namespace Text

theorem toLower_of_not_capital {c : Char} (h : ¬ ('A' ≤ c ∧ c ≤ 'Z')) : c.toLower = c := dif_neg h

/-- Names are compared in the small letters in which a scheme is written. -/
theorem lowerChar_eq_toLower (c : Char) : lowerChar c = c.toLower := by
  by_cases h : 'A' ≤ c ∧ c ≤ 'Z'
  · have hlow : 65 ≤ c.toNat := h.1
    have hhigh : c.toNat ≤ 90 := h.2
    have hcapital : ∀ n < 128, lowerChar (Char.ofNat n) = (Char.ofNat n).toLower := by decide
    have hc := hcapital c.toNat (by omega)
    rwa [Char.ofNat_toNat] at hc
  · rw [lowerChar, if_neg h, toLower_of_not_capital h]

end Text

namespace Url

variable {c : Char} {p : Char → Bool} {word scheme text : String}

/-- The scheme of the address that stands in a text, in small letters. -/
def scheme? (text : String) : Option String := (readScheme (strip text.toList)).map Prod.fst

/-- A URL that is read has the scheme of its text. -/
theorem scheme?_of_read {u : Url} (h : read text = .ok u) : scheme? text = some u.scheme := by
  cases hscheme : readScheme (strip text.toList) with
  | none =>
      rw [read, hscheme] at h
      cases h
  | some found =>
      obtain ⟨scheme, rest⟩ := found
      rw [read_of_scheme hscheme] at h
      rw [scheme?, hscheme]
      cases hbody : readBody (kindOf scheme) (splitAtSign '?' (splitAtSign '#' rest).1).1 with
      | error fault =>
          rw [hbody] at h
          cases h
      | ok body =>
          rw [hbody] at h
          cases h
          rfl

/-- What is dropped in front of a sign that counts does not hang on what follows. -/
theorem dropWhile_append_cons (h : p c = false) (front back : List Char) :
    (front ++ c :: back).dropWhile p = front.dropWhile p ++ c :: back := by
  rw [List.dropWhile_append]
  split
  · next hempty =>
      rw [List.isEmpty_iff.mp hempty, List.dropWhile_cons_of_neg (Bool.eq_false_iff.mp h),
        List.nil_append]
  · rfl

/-- Nor does what is taken. -/
theorem takeWhile_append_cons (h : p c = false) (front back : List Char) :
    (front ++ c :: back).takeWhile p = front.takeWhile p := by
  rw [List.takeWhile_append, List.takeWhile_cons_of_neg (Bool.eq_false_iff.mp h), List.append_nil]
  split
  · next hlength => exact ((List.takeWhile_prefix p).eq_of_length hlength).symm
  · rfl

/-- What counts in front of a colon does not hang on what stands behind it. -/
theorem strip_append (front back : List Char) : ∃ kept,
    strip (front ++ ':' :: back)
      = ((front.dropWhile isEnd).filter fun c => !isIgnored c) ++ ':' :: kept := by
  have hcolon : isEnd ':' = false := rfl
  refine ⟨((back.reverse.dropWhile isEnd).reverse).filter fun c => !isIgnored c, ?_⟩
  rw [strip, dropWhile_append_cons hcolon, List.reverse_append, List.reverse_cons,
    List.append_assoc, List.singleton_append, dropWhile_append_cons hcolon, List.reverse_append,
    List.reverse_cons, List.reverse_reverse, List.append_assoc, List.singleton_append,
    List.filter_append, List.filter_cons_of_pos (by decide)]

/-- The scheme that a word is, in small letters: it starts with a letter. -/
def named? : List Char → Option String
  | [] => none
  | first :: more =>
    if isLetter first then some (String.ofList ((first :: more).map Char.toLower)) else none

/-- A text has the scheme that its scheme characters are, if a colon stands behind them. -/
theorem readScheme_map (s : List Char) :
    (readScheme s).map Prod.fst
      = if (s.drop (s.takeWhile isSchemeChar).length).head? = some ':' then
          named? (s.takeWhile isSchemeChar)
        else none := by
  unfold readScheme
  simp only
  cases s.takeWhile isSchemeChar with
  | nil => exact (ite_self none).symm
  | cons first more =>
      cases s.drop (first :: more).length with
      | nil => rfl
      | cons sign rest =>
          by_cases hsign : sign = ':'
          · subst hsign
            rw [List.head?_cons, if_pos rfl, named?]
            cases hletter : isLetter first with
            | true => simp only [hletter, if_true, Option.map_some]
            | false => simp only [hletter, Bool.false_eq_true, if_false, Option.map_none]
          · rw [List.head?_cons, if_neg fun heq => hsign (Option.some.inj heq)]
            split
            · next heq =>
                cases heq
                exact absurd rfl hsign
            · rfl

/-- A scheme does not hang on what stands behind its colon. -/
theorem readScheme_congr (front back back' : List Char) :
    (readScheme (front ++ ':' :: back)).map Prod.fst
      = (readScheme (front ++ ':' :: back')).map Prod.fst := by
  have htaken : ∀ back, (front ++ ':' :: back).takeWhile isSchemeChar
      = front.takeWhile isSchemeChar := takeWhile_append_cons rfl front
  have hlength := (List.takeWhile_prefix isSchemeChar (l := front)).length_le
  rw [readScheme_map, readScheme_map, htaken, htaken, List.drop_append_of_le_length hlength,
    List.drop_append_of_le_length hlength, List.head?_append, List.head?_append, List.head?_cons,
    List.head?_cons]

/-- The scheme of a text with a colon in it is that of what stands in front. -/
theorem scheme?_append (word rest : String) :
    scheme? (word ++ ":" ++ rest) = scheme? (word ++ ":") := by
  have hchars : (word ++ ":" ++ rest).toList = word.toList ++ ':' :: rest.toList := by
    rw [String.toList_append, String.toList_append, List.append_assoc]
    rfl
  have hfront : (word ++ ":").toList = word.toList ++ ':' :: [] := String.toList_append
  obtain ⟨kept, hkept⟩ := strip_append word.toList rest.toList
  obtain ⟨kept', hkept'⟩ := strip_append word.toList []
  rw [scheme?, scheme?, hchars, hfront, hkept, hkept']
  exact readScheme_congr _ kept kept'

/-- A word of visible characters counts as a whole in front of a colon. -/
theorem strip_word (h : ∀ c ∈ word.toList, IsInk c) :
    strip (word ++ ":").toList = word.toList ++ [':'] := by
  have hchars : (word ++ ":").toList = word.toList ++ [':'] := String.toList_append
  have hink : ∀ c ∈ word.toList ++ [':'], IsInk c :=
    List.forall_mem_append.mpr ⟨h, List.forall_mem_singleton.mpr ⟨by decide, by decide⟩⟩
  rw [hchars]
  exact strip_eq_self (fun c hc => (hink c hc).visible) (fun c hc => hink c (List.mem_of_head? hc))
    fun c hc => hink c (List.mem_of_getLast? hc)

/-- A visible word without a colon is its own scheme, if it is one. -/
theorem eq_of_scheme?_word (h : ∀ c ∈ word.toList, IsInk c ∧ c ≠ ':')
    (hscheme : scheme? (word ++ ":") = some scheme) :
    scheme = String.ofList (word.toList.map Char.toLower) := by
  have hlength := (List.takeWhile_prefix isSchemeChar (l := word.toList)).length_le
  rw [scheme?, strip_word fun c hc => (h c hc).1, readScheme_map,
    takeWhile_append_cons (by rfl), List.drop_append_of_le_length hlength] at hscheme
  obtain ⟨hcolon, hnamed⟩ := Option.ite_none_right_eq_some.mp hscheme
  -- the colon behind the scheme characters is none of the word's
  have hdrop : word.toList.drop (word.toList.takeWhile isSchemeChar).length = [] := by
    cases hrest : word.toList.drop (word.toList.takeWhile isSchemeChar).length with
    | nil => rfl
    | cons sign rest =>
        rw [hrest] at hcolon
        have hmem : sign ∈ word.toList := List.mem_of_mem_drop (hrest ▸ List.mem_cons_self)
        exact absurd (Option.some.inj hcolon) (h sign hmem).2
  have hwhole : word.toList.takeWhile isSchemeChar = word.toList :=
    (List.takeWhile_prefix isSchemeChar).eq_of_length_le (List.drop_eq_nil_iff.mp hdrop)
  rw [hwhole] at hnamed
  cases hword : word.toList with
  | nil =>
      rw [hword] at hnamed
      cases hnamed
  | cons first more =>
      rw [hword] at hnamed
      exact (Option.some.inj (Option.ite_none_right_eq_some.mp hnamed).2).symm

/-- A word that is a scheme is read in small letters. -/
theorem scheme?_of_isScheme (h : IsScheme word.toList) :
    scheme? (word ++ ":") = some (String.ofList (word.toList.map Char.toLower)) := by
  rw [scheme?, strip_word fun c hc => (toNat_of_isSchemeChar (h.2 c hc)).2,
    readScheme_append h []]
  rfl

theorem isLetter_of_toLower (h : isLetter c.toLower = true) : isLetter c = true := by
  by_cases hcapital : 'A' ≤ c ∧ c ≤ 'Z'
  · simp only [isLetter, Bool.or_eq_true, Bool.and_eq_true, decide_eq_true_eq]
    exact .inr hcapital
  · rwa [Text.toLower_of_not_capital hcapital] at h

/-- A word that is the name of a scheme, made of letters, is read as that scheme. -/
theorem scheme?_of_sameName (hname : Text.sameName word scheme = true)
    (hsome : Text.lower scheme ≠ "")
    (hletters : ∀ c ∈ (Text.lower scheme).toList, isLetter c = true) :
    scheme? (word ++ ":") = some (Text.lower scheme) := by
  have hlower : String.ofList (word.toList.map Char.toLower) = Text.lower scheme := by
    rw [← beq_iff_eq.mp hname, Text.lower, List.map_congr_left fun c _ => Text.lowerChar_eq_toLower c]
  have hword : ∀ c ∈ word.toList, isLetter c = true := fun c hc =>
    isLetter_of_toLower (hletters _ (by
      rw [← hlower, String.toList_ofList]
      exact List.mem_map_of_mem hc))
  have hstarts : ∃ first ∈ word.toList.head?, isLetter first = true := by
    cases hchars : word.toList with
    | nil =>
        rw [hchars] at hlower
        exact absurd hlower.symm hsome
    | cons first more => exact ⟨first, rfl, hword first (hchars ▸ List.mem_cons_self)⟩
  have hscheme : IsScheme word.toList := by
    refine ⟨hstarts, fun c hc => ?_⟩
    simp only [isSchemeChar, hword c hc, Bool.true_or]
  rw [scheme?_of_isScheme hscheme, hlower]

/-- A text that starts with a sign no scheme starts with has no scheme. -/
theorem scheme?_eq_none {rest : List Char} (htext : text.toList = c :: rest)
    (hend : isEnd c = false) (hc : isSchemeChar c = false) : scheme? text = none := by
  have hink : isIgnored c = false := Bool.eq_false_iff.mpr fun hignored =>
    Bool.eq_false_iff.mp hend (isEnd_of_isIgnored hignored)
  have hstrip : ∃ kept, strip text.toList = c :: kept := by
    have hfront := dropWhile_append_cons hend [] rest
    have hback := dropWhile_append_cons hend rest.reverse []
    refine ⟨((rest.reverse.dropWhile isEnd).reverse).filter fun c => !isIgnored c, ?_⟩
    rw [List.nil_append, List.dropWhile_nil, List.nil_append] at hfront
    rw [htext, strip, hfront, List.reverse_cons, hback, List.reverse_append, List.reverse_singleton,
      List.singleton_append, List.filter_cons_of_pos (by rw [hink]; rfl)]
  obtain ⟨kept, hkept⟩ := hstrip
  rw [scheme?, hkept, readScheme_map, List.takeWhile_cons_of_neg (Bool.eq_false_iff.mp hc)]
  exact ite_self none

end Url

/-! ## Request targets -/

namespace Http.Uri

variable {c : Char} {s rest : List Char} {scheme target : String} {u : Uri}

/-- A scheme is written in ink, and holds no colon. -/
theorem isInk_of_isSchemeChar (h : isSchemeChar c = true) : Url.IsInk c ∧ c ≠ ':' := by
  simp only [isSchemeChar, isAlnum, Bool.or_eq_true, Bool.and_eq_true, decide_eq_true_eq,
    beq_iff_eq] at h
  have hrange : ∀ {low high : Char}, low ≤ c ∧ c ≤ high → 0x20 < low.toNat → high.toNat ≤ 0x7E →
      ':'.toNat < low.toNat ∨ high.toNat < ':'.toNat → Url.IsInk c ∧ c ≠ ':' := by
    rintro low high ⟨hlow, hhigh⟩ hstart hstop hcolon
    have hlow : low.toNat ≤ c.toNat := hlow
    have hhigh : c.toNat ≤ high.toNat := hhigh
    refine ⟨⟨by omega, by omega⟩, ?_⟩
    rintro rfl
    omega
  rcases h with (((((h | h) | h) | rfl) | rfl) | rfl) | rfl
  · exact hrange h (by decide) (by decide) (by decide)
  · exact hrange h (by decide) (by decide) (by decide)
  · exact hrange h (by decide) (by decide) (by decide)
  all_goals exact ⟨⟨by decide, by decide⟩, by decide⟩

/-- What a URI is that was read: a scheme has no colon in it and is in small letters when it
    is one of the web's, and without a scheme the path, if there is one, starts with a slash or is a star. -/
structure Sent (u : Uri) : Prop where
  plain : ∀ own ∈ u.scheme, ∀ c ∈ own.toList, Url.IsInk c ∧ c ≠ ':'
  small : ∀ own ∈ u.scheme, String.ofList (own.toList.map Char.toLower) = "https" → own = "https"
  rooted : u.scheme = none → ∃ c rest, u.pathAndQuery.toList = c :: rest ∧ (c = '/' ∨ c = '*')

/-- A scheme that was read is in small letters when it is that of secure addresses. -/
theorem of_readScheme (h : readScheme s = some (some (scheme, rest))) :
    (∀ c ∈ scheme.toList, isSchemeChar c = true) ∧
      (String.ofList (scheme.toList.map Char.toLower) = "https" → scheme = "https") := by
  have hchars : ∀ c ∈ s.takeWhile isSchemeChar, isSchemeChar c = true :=
    fun c hc => List.mem_takeWhile_imp hc
  unfold readScheme at h
  simp only at h
  split at h
  · split at h
    · next hweb =>
        cases h
        rcases hweb with hweb | hweb
        · rw [hweb]
          exact ⟨List.all_eq_true.mp rfl, fun heq => absurd heq (by decide)⟩
        · rw [hweb]
          exact ⟨List.all_eq_true.mp rfl, fun _ => rfl⟩
    · next hother =>
        split at h
        · cases h
        · cases h
          rw [String.toList_ofList]
          exact ⟨hchars, fun heq => absurd (.inr heq) hother⟩
  · cases h

/-- A target that starts with a slash has a path that starts with one. -/
theorem rooted_of_readTarget {path : String} {query : Option String}
    (h : readTarget ('/' :: s) = some (path, query)) : ∃ more, path.toList = '/' :: more := by
  have hpath : ('/' :: s).takeWhile (fun c => c != '?' && c != '#')
      = '/' :: s.takeWhile fun c => c != '?' && c != '#' := List.takeWhile_cons_of_pos (by decide)
  unfold readTarget at h
  simp only at h
  split at h
  · cases h
  · split at h
    · split at h
      · cases h
        exact ⟨_, String.toList_ofList.trans hpath⟩
      · cases h
    · cases h
      exact ⟨_, String.toList_ofList.trans hpath⟩

/-- A path in front leads what is sent as the path and the query. -/
theorem pathAndQuery_of_path {more : List Char} (h : u.rawPath.toList = c :: more) :
    ∃ rest, u.pathAndQuery.toList = c :: rest := by
  have hchars : (u.rawPath ++ u.queryPart).toList = c :: (more ++ u.queryPart.toList) := by
    rw [String.toList_append, h, List.cons_append]
  have hsome : ¬ (u.rawPath ++ u.queryPart).isEmpty = true := by
    rw [String.isEmpty_iff, ← String.toList_eq_nil_iff, hchars]
    exact List.cons_ne_nil _ _
  refine ⟨more ++ u.queryPart.toList, ?_⟩
  rw [pathAndQuery, if_neg hsome, hchars]

/-- Without a scheme, a URI is as one that was read if a slash or a star leads it. -/
theorem sent_of_path (hscheme : u.scheme = none) (hpath : u.pathAndQuery.toList = c :: rest)
    (hc : c = '/' ∨ c = '*') : u.Sent := by
  have hnot : ∀ own, own ∉ u.scheme := fun own hown => by
    rw [hscheme] at hown
    cases hown
  exact ⟨fun own hown => absurd hown (hnot own), fun own hown => absurd hown (hnot own),
    fun _ => ⟨c, rest, hpath, hc⟩⟩

/-- Every URI that was read is of this kind. -/
theorem sent_of_read (h : read? target = some u) : u.Sent := by
  unfold read? at h
  split at h
  · cases h
  · split at h
    · cases h
    · cases h
      exact sent_of_path rfl rfl (.inr rfl)
    · obtain ⟨⟨path, query⟩, htarget, rfl⟩ := Option.map_eq_some_iff.mp h
      obtain ⟨more, hmore⟩ := rooted_of_readTarget htarget
      obtain ⟨rest, hrest⟩ := pathAndQuery_of_path (u := ⟨none, none, path, query⟩) hmore
      exact sent_of_path rfl hrest (.inl rfl)
    · obtain ⟨found, hfound, h⟩ := Option.bind_eq_some_iff.mp h
      cases found with
      | none =>
          -- a host and a port alone, which have no path
          obtain ⟨-, h⟩ := Option.ite_none_right_eq_some.mp h
          cases h
          have hslash : (pathAndQuery ⟨none, some target, "", none⟩).toList = '/' :: [] := by
            simp [pathAndQuery, queryPart]
          exact sent_of_path rfl hslash (.inl rfl)
      | some found =>
          obtain ⟨scheme, rest⟩ := found
          obtain ⟨-, h⟩ := Option.ite_none_left_eq_some.mp h
          obtain ⟨⟨path, query⟩, -, h⟩ := Option.bind_eq_some_iff.mp h
          cases h
          obtain ⟨hchars, hsmall⟩ := of_readScheme hfound
          refine ⟨?_, ?_, fun hnone => absurd hnone (Option.some_ne_none _)⟩
          · rintro own ⟨⟩ c hc
            exact isInk_of_isSchemeChar (hchars c hc)
          · rintro own ⟨⟩
            exact hsmall

end Http.Uri

/-! ## The views -/

namespace Request

open Text (sameName)

variable {r : Request} {target scheme own host : String}

/-- Do the fields of a proxy say that the caller's connection is secure? -/
def forwardsSecure (r : Request) : Bool :=
  match r.header? "x-forwarded-proto" with
  | some proto => sameName proto "https"
  | none =>
    match r.header? "x-forwarded-ssl" with
    | some ssl => sameName ssl "on"
    | none => false

/-- The ways in which the views of a request part. -/
inductive Parted (r : Request) : Prop
  /-- The URL keeps its own scheme, and the fields speak of another one. -/
  | own {own : String} (hown : r.uri.scheme = some own) (hother : own ≠ "https")
      (hforwarded : r.forwardsSecure = true)
  /-- It is `X-Forwarded-Ssl` alone that says so, at which the URL does not look. -/
  | ssl (hown : r.uri.scheme = none) (hproto : r.header? "x-forwarded-proto" = none)
      (hforwarded : r.forwardsSecure = true)
  /-- The URL starts with a forwarded word that is not the scheme, but is read as one. -/
  | word {proto : String} (hown : r.uri.scheme = none)
      (hproto : r.header? "x-forwarded-proto" = some proto)
      (hforwarded : r.forwardsSecure = false) (hread : Url.scheme? (proto ++ ":") = some "https")

/-- A request is secure by its own scheme or by what was forwarded. -/
theorem isSecure_iff :
    r.isSecure = true ↔ r.uri.scheme = some "https" ∨ r.forwardsSecure = true := by
  rw [isSecure]
  by_cases hown : r.uri.scheme = some "https"
  · rw [if_pos hown]
    exact iff_of_true rfl (.inl hown)
  · rw [if_neg hown, or_iff_right hown]
    exact Iff.rfl

/-- The URL of a request has the scheme of its target. -/
theorem scheme?_url_of_own (hown : r.uri.scheme = some own) :
    Url.scheme? r.url = Url.scheme? (own ++ ":") := by
  have hsome : r.uri.scheme.isSome = true := by
    rw [hown]
    rfl
  have hurl : r.url = own ++ ":" ++
      ("//" ++ r.uri.authority.getD "" ++ r.uri.path ++ r.uri.queryPart) := by
    rw [url, if_pos hsome, Http.Uri.text, hown]
    simp only [String.append_assoc]
    rfl
  rw [hurl, Url.scheme?_append]

/-- Without one it has the scheme that was forwarded for its host. -/
theorem scheme?_url_of_host (hown : r.uri.scheme = none) (hhost : r.header? "host" = some host) :
    Url.scheme? r.url
      = Url.scheme? ((r.header? "x-forwarded-proto").getD "http" ++ ":") := by
  have hnone : ¬ r.uri.scheme.isSome = true := by
    rw [hown]
    exact Bool.false_ne_true
  have hurl : r.url = (r.header? "x-forwarded-proto").getD "http" ++ ":" ++
      ("//" ++ host ++ r.uri.pathAndQuery) := by
    rw [url, if_neg hnone, hhost]
    simp only [String.append_assoc]
    rfl
  rw [hurl, Url.scheme?_append]

/-- Without a scheme and a host the URL of a request that was sent is a path alone. -/
theorem scheme?_url_of_path (hsent : r.uri.Sent) (hown : r.uri.scheme = none)
    (hhost : r.header? "host" = none) : Url.scheme? r.url = none := by
  have hnone : ¬ r.uri.scheme.isSome = true := by
    rw [hown]
    exact Bool.false_ne_true
  have hurl : r.url = r.uri.pathAndQuery := by
    rw [url, if_neg hnone, hhost]
  obtain ⟨c, rest, hpath, hc⟩ := hsent.rooted hown
  rw [hurl]
  rcases hc with rfl | rfl
  · exact Url.scheme?_eq_none hpath rfl rfl
  · exact Url.scheme?_eq_none hpath rfl rfl

/-- The scheme of a URL that keeps its own is that of the request. -/
theorem scheme_eq_https_iff_of_own (hsent : r.uri.Sent) (hown : r.uri.scheme = some own)
    (hscheme : Url.scheme? r.url = some scheme) : scheme = "https" ↔ own = "https" := by
  rw [scheme?_url_of_own hown] at hscheme
  rw [Url.eq_of_scheme?_word (hsent.plain own hown) hscheme]
  constructor
  · exact hsent.small own hown
  · rintro rfl
    rfl

/-- The scheme of a URL that is built is what the forwarded word is read as. -/
theorem scheme_eq_https_iff_of_host (hown : r.uri.scheme = none)
    (hhost : r.header? "host" = some host) (hscheme : Url.scheme? r.url = some scheme) :
    scheme = "https" ↔ ∃ proto, r.header? "x-forwarded-proto" = some proto ∧
      Url.scheme? (proto ++ ":") = some "https" := by
  rw [scheme?_url_of_host hown hhost] at hscheme
  cases hproto : r.header? "x-forwarded-proto" with
  | none =>
      have hplain : Url.scheme? ("http" ++ ":") = some "http" := by decide
      rw [hproto, Option.getD_none, hplain] at hscheme
      cases hscheme
      exact iff_of_false (by decide) fun ⟨_, hfound, _⟩ => Option.some_ne_none _ hfound.symm
  | some proto =>
      rw [hproto, Option.getD_some] at hscheme
      constructor
      · rintro rfl
        exact ⟨proto, rfl, hscheme⟩
      · rintro ⟨found, hfound, hread⟩
        cases hfound
        exact Option.some.inj (hscheme.symm.trans hread)

/-- A URL that keeps its own scheme parts from the fields when they speak of another one. -/
theorem parted_iff_of_own (hown : r.uri.scheme = some own) :
    r.Parted ↔ own ≠ "https" ∧ r.forwardsSecure = true := by
  constructor
  · intro hparted
    cases hparted with
    | own hfound hother hforwarded =>
        rw [hown] at hfound
        cases hfound
        exact ⟨hother, hforwarded⟩
    | ssl hfound _ _ | word hfound _ _ _ =>
        rw [hown] at hfound
        cases hfound
  · rintro ⟨hother, hforwarded⟩
    exact .own hown hother hforwarded

/-- A URL that is built parts from the fields when its first word is read in another way than
    they are. -/
theorem parted_iff_of_built (hown : r.uri.scheme = none) :
    r.Parted ↔ ¬ ((∃ proto, r.header? "x-forwarded-proto" = some proto ∧
      Url.scheme? (proto ++ ":") = some "https") ↔ r.forwardsSecure = true) := by
  constructor
  · intro hparted hagree
    cases hparted with
    | own hfound _ _ =>
        rw [hown] at hfound
        cases hfound
    | ssl _ hproto hforwarded =>
        obtain ⟨proto, hfound, -⟩ := hagree.mpr hforwarded
        rw [hproto] at hfound
        cases hfound
    | word _ hproto hforwarded hword =>
        exact Bool.eq_false_iff.mp hforwarded (hagree.mp ⟨_, hproto, hword⟩)
  · intro hdiffer
    refine Classical.byContradiction fun hnot => hdiffer ⟨?_, fun hforwarded => ?_⟩
    · rintro ⟨proto, hproto, hword⟩
      exact Bool.of_not_eq_false fun hforwarded => hnot (.word hown hproto hforwarded hword)
    · cases hproto : r.header? "x-forwarded-proto" with
      | none => exact absurd (.ssl hown hproto hforwarded) hnot
      | some proto =>
          -- a forwarded word that is the scheme is also read as it
          rw [forwardsSecure, hproto] at hforwarded
          exact ⟨proto, rfl, Url.scheme?_of_sameName hforwarded (by decide)
            (List.all_eq_true.mp rfl)⟩

/-- The two views of a request agree just when they do not part in one of three ways: the URL
    keeps a scheme of its own against the fields of a proxy, it leaves `X-Forwarded-Ssl` aside, or
    it is read with another scheme than the forwarded word is. -/
theorem views_agree_iff (hread : Http.Uri.read? target = some r.uri)
    (hscheme : Url.scheme? r.url = some scheme) :
    (scheme = "https" ↔ r.isSecure = true) ↔ ¬ r.Parted := by
  have hsent := Http.Uri.sent_of_read hread
  rw [isSecure_iff]
  cases hown : r.uri.scheme with
  | some own =>
      rw [scheme_eq_https_iff_of_own hsent hown hscheme, Option.some_inj, parted_iff_of_own hown,
        iff_self_or, not_and', not_ne_iff]
  | none =>
      cases hhost : r.header? "host" with
      | none =>
          rw [scheme?_url_of_path hsent hown hhost] at hscheme
          cases hscheme
      | some host =>
          rw [scheme_eq_https_iff_of_host hown hhost hscheme,
            or_iff_right (Option.some_ne_none _).symm, parted_iff_of_built hown, not_not]

/-- A proxy that forwards the scheme in capitals: both views go by it. -/
theorem views_agree_iff_forwarded :
    let r : Request := .ofTarget "GET" ⟨none, none, "/a", some "b=c"⟩
      [("host", "app.example"), ("x-forwarded-proto", "HTTPS")]
    Http.Uri.read? "/a?b=c" = some r.uri ∧ Url.scheme? r.url = some "https" ∧
      (("https" = "https" ↔ r.isSecure = true) ↔ ¬ r.Parted) ∧ r.isSecure = true ∧ ¬ r.Parted := by
  intro r
  have hread : Http.Uri.read? "/a?b=c" = some r.uri := by decide +kernel
  have hscheme : Url.scheme? r.url = some "https" := by decide +kernel
  have hsecure : r.isSecure = true := by decide +kernel
  have hagree := views_agree_iff hread hscheme
  exact ⟨hread, hscheme, hagree, hsecure, hagree.mp (iff_of_true rfl hsecure)⟩

/-- A proxy that says nothing but that it came over a secure connection: a cookie is marked
    secure, and the address to which the caller is sent back is not. -/
theorem url_forgets_ssl :
    let r : Request := .ofTarget "GET" ⟨none, none, "/a", none⟩
      [("host", "app.example"), ("x-forwarded-ssl", "on")]
    Http.Uri.read? "/a" = some r.uri ∧ r.url = "http://app.example/a" ∧
      Url.scheme? r.url = some "http" ∧ r.isSecure = true := by
  decide +kernel

end Request
end AccessGate
