import AccessGate.Client.Header
import AccessGate.Credentials.ApiKeys
import AccessGate.Proofs.Comparison
import AccessGate.Proofs.Lookup
import AccessGate.Proofs.Rounds
import AccessGate.Proofs.Stages
import AccessGate.Proofs.WireForm
import Mathlib.Data.List.Induction
import Mathlib.Data.Set.Card

/-! # Which keys open

    Keys are registered and taken back, and a registration of a text that is no key is
    refused.  After any such history a key stands for the holder of its last accepted
    registration, unless it was taken back since (`Stands`); the table of digests holds
    that and nothing more (`get?_digest_iff`), as long as different keys of the history
    have different digests.

    `opens_iff` goes from a request to the profile: a header client over the table
    answers with the profile of the holder just when the field has a readable first value
    that begins with the client's text and goes on with a key that stands.  It answers
    absent otherwise. -/

namespace AccessGate

/-! ## Histories of keys -/

/-- Something that is done to a table of keys. -/
inductive KeyChange where
  | register (key user : String) (roles : List String)
  | revoke (key : String)

namespace KeyChange

/-- The key that a change names. -/
def key : KeyChange → String
  | .register key _ _ => key
  | .revoke key => key

/-- Is a change carried out?  The registration of a text that is no key is refused. -/
def Effective : KeyChange → Prop
  | .register key _ _ => ApiKeyText.isValid key = true
  | .revoke _ => True

/-- Does a change have an effect on a key? -/
def Touches (change : KeyChange) (key : String) : Prop := change.Effective ∧ change.key = key

/-- The user and the roles for which a change leaves its key. -/
def outcome : KeyChange → Option (String × List String)
  | .register _ user roles => some (user, roles)
  | .revoke _ => none

end KeyChange

namespace ApiKeys

variable {key user : String} {roles : List String} {change : KeyChange}
  {changes : List KeyChange} {holder : ApiKeyHolder}

/-- The table after a change; a refused registration leaves it as it is. -/
def after (k : ApiKeys) : KeyChange → ApiKeys
  | .register key user roles =>
    match k.register key user roles with
    | .ok k => k
    | .error _ => k
  | .revoke key => k.revoke key

/-- The table after a history. -/
def ofHistory (changes : List KeyChange) : ApiKeys := changes.foldl after empty

theorem ofHistory_append (changes : List KeyChange) (change : KeyChange) :
    ofHistory (changes ++ [change]) = (ofHistory changes).after change := by
  rw [ofHistory, List.foldl_append]
  rfl

/-- A key stands for a user with roles: the last change with an effect on it registers it for
    them. -/
def Stands (changes : List KeyChange) (key user : String) (roles : List String) : Prop :=
  ∃ earlier change later, changes = earlier ++ change :: later ∧ change.Touches key ∧
    change.outcome = some (user, roles) ∧ ∀ other ∈ later, ¬ other.Touches key

theorem not_stands_nil : ¬ Stands [] key user roles := by
  rintro ⟨earlier, change, later, h, -⟩
  simp at h

/-- The last change of a history decides about the keys on which it has an effect, and about
    no other. -/
theorem stands_append_iff :
    Stands (changes ++ [change]) key user roles ↔
      change.Touches key ∧ change.outcome = some (user, roles) ∨
      ¬ change.Touches key ∧ Stands changes key user roles := by
  constructor
  · rintro ⟨earlier, first, later, hsplit, htouches, houtcome, hlater⟩
    rcases List.eq_nil_or_concat later with rfl | ⟨later, last, rfl⟩
    · obtain ⟨-, hlast⟩ := List.append_inj' hsplit rfl
      obtain rfl := List.singleton_inj.mp hlast
      exact .inl ⟨htouches, houtcome⟩
    · rw [List.concat_eq_append, ← List.cons_append, ← List.append_assoc] at hsplit
      obtain ⟨rfl, hlast⟩ := List.append_inj' hsplit rfl
      obtain rfl := List.singleton_inj.mp hlast
      refine .inr ⟨hlater change (by simp), earlier, first, later, rfl, htouches, houtcome, ?_⟩
      exact fun other hother => hlater other (by simp [hother])
  · rintro (⟨htouches, houtcome⟩ |
      ⟨huntouched, earlier, first, later, rfl, htouches, houtcome, hlater⟩)
    · exact ⟨changes, change, [], rfl, htouches, houtcome, List.forall_mem_nil _⟩
    · refine ⟨earlier, first, later ++ [change], by simp, htouches, houtcome, ?_⟩
      intro other hother
      rcases List.mem_append.mp hother with hother | hother
      · exact hlater other hother
      · rwa [List.mem_singleton.mp hother]

/-- A key that stands is a key, and the history names it. -/
theorem Stands.valid_and_named (h : Stands changes key user roles) :
    ApiKeyText.isValid key = true ∧ key ∈ changes.map KeyChange.key := by
  obtain ⟨earlier, change, later, rfl, ⟨heffective, rfl⟩, houtcome, -⟩ := h
  refine ⟨?_, by simp⟩
  cases change with
  | register key user roles => exact heffective
  | revoke key => cases houtcome

/-! ## The table of digests -/

theorem register_eq (k : ApiKeys) (key user : String) (roles : List String) :
    (ApiKeyText.isValid key = true ∧ k.register key user roles
        = .ok ⟨k.holders.insert (ApiKeyText.digest key) ⟨user, .ofList roles⟩⟩) ∨
      (ApiKeyText.isValid key = false ∧ ∃ fault, ApiKeyText.check key = .error fault ∧
        k.register key user roles = .error (.token (.key fault))) := by
  rw [ApiKeyText.isValid, register]
  cases ApiKeyText.check key with
  | ok _ => exact .inl ⟨rfl, rfl⟩
  | error fault => exact .inr ⟨rfl, fault, rfl, rfl⟩

/-- What is read under a digest after a change. -/
theorem get?_after (k : ApiKeys) (change : KeyChange) (digest : String) :
    (¬ change.Effective ∧ k.after change = k) ∨
      (change.Effective ∧ (k.after change).holders.get? digest
        = if digest = ApiKeyText.digest change.key then
            change.outcome.map fun given => ⟨given.1, .ofList given.2⟩
          else k.holders.get? digest) := by
  cases change with
  | register key user roles =>
      rcases k.register_eq key user roles with ⟨hvalid, h⟩ | ⟨hinvalid, fault, -, h⟩
      · refine .inr ⟨hvalid, ?_⟩
        rw [after, h]
        exact Dict.get?_insert _ _ _ _
      · refine .inl ⟨?_, ?_⟩
        · show ¬ ApiKeyText.isValid key = true
          rw [hinvalid]
          exact Bool.false_ne_true
        · rw [after, h]
  | revoke key => exact .inr ⟨trivial, Dict.get?_erase _ _ _⟩

/-- The table holds the digests of the keys that stand.  A digest that two keys of the
    history had in common could be taken back through the wrong one. -/
theorem get?_digest_iff {digest : String}
    (hinj : Set.InjOn ApiKeyText.digest {key | key ∈ changes.map KeyChange.key}) :
    (ofHistory changes).holders.get? digest = some holder ↔
      ∃ key user roles, ApiKeyText.digest key = digest ∧ Stands changes key user roles ∧
        holder = ⟨user, .ofList roles⟩ := by
  induction changes using List.reverseRecOn with
  | nil =>
      constructor
      · intro h
        cases h
      · rintro ⟨key, user, roles, -, h, -⟩
        exact absurd h not_stands_nil
  | append_singleton changes change ih =>
      have hearlier : Set.InjOn ApiKeyText.digest {key | key ∈ changes.map KeyChange.key} :=
        hinj.mono fun key hkey => by
          show key ∈ (changes ++ [change]).map KeyChange.key
          rw [List.map_append]
          exact List.mem_append_left _ hkey
      have ih := ih hearlier
      rw [ofHistory_append]
      rcases get?_after (ofHistory changes) change digest with ⟨hidle, h⟩ | ⟨heffective, h⟩
      · rw [h, ih]
        simp only [stands_append_iff, KeyChange.Touches, hidle, false_and, not_false_iff,
          true_and, false_or]
      · rw [h]
        by_cases hdigest : digest = ApiKeyText.digest change.key
        · rw [if_pos hdigest]
          constructor
          · intro hget
            obtain ⟨⟨user, roles⟩, houtcome, rfl⟩ := Option.map_eq_some_iff.mp hget
            exact ⟨change.key, user, roles, hdigest.symm,
              stands_append_iff.mpr (.inl ⟨⟨heffective, rfl⟩, houtcome⟩), rfl⟩
          · rintro ⟨key, user, roles, hkey, hstands, rfl⟩
            have hsame : change.key = key :=
              hinj (by simp) hstands.valid_and_named.2 (hdigest.symm.trans hkey.symm)
            rcases stands_append_iff.mp hstands with ⟨-, houtcome⟩ | ⟨huntouched, -⟩
            · rw [houtcome]
              rfl
            · exact absurd ⟨heffective, hsame⟩ huntouched
        · rw [if_neg hdigest, ih]
          have huntouched : ∀ key, ApiKeyText.digest key = digest → ¬ change.Touches key := by
            rintro key hkey ⟨-, rfl⟩
            exact hdigest hkey.symm
          constructor
          · rintro ⟨key, user, roles, hkey, hstands, hholder⟩
            exact ⟨key, user, roles, hkey,
              stands_append_iff.mpr (.inr ⟨huntouched key hkey, hstands⟩), hholder⟩
          · rintro ⟨key, user, roles, hkey, hstands, hholder⟩
            rcases stands_append_iff.mp hstands with ⟨htouches, -⟩ | ⟨-, hstands⟩
            · exact absurd htouches (huntouched key hkey)
            · exact ⟨key, user, roles, hkey, hstands, hholder⟩

/-- A presented key is looked up under its own digest alone. -/
theorem holder?_eq (k : ApiKeys) (key : String) :
    k.holder? key
      = if ApiKeyText.isValid key then k.holders.get? (ApiKeyText.digest key) else none := by
  have hfind : ∀ entries : List (String × ApiKeyHolder),
      (entries.find? fun e => Digest.secureCompare (ApiKeyText.digest key) e.1).map Prod.snd
        = entries.lookup (ApiKeyText.digest key) := by
    intro entries
    induction entries with
    | nil => rfl
    | cons entry rest ih =>
        rw [List.find?_cons, List.lookup_cons, Digest.secureCompare_eq]
        cases ApiKeyText.digest key == entry.1 with
        | true => rfl
        | false => exact ih
  rw [holder?]
  split
  · exact hfind k.holders.entries
  · rfl

/-- What a presented key opens. -/
theorem holder?_iff
    (hinj : Set.InjOn ApiKeyText.digest {other | other ∈ key :: changes.map KeyChange.key}) :
    (ofHistory changes).holder? key = some holder ↔
      ∃ user roles, Stands changes key user roles ∧ holder = ⟨user, .ofList roles⟩ := by
  have hhistory : Set.InjOn ApiKeyText.digest {other | other ∈ changes.map KeyChange.key} :=
    hinj.mono fun other => List.mem_cons_of_mem key
  rw [holder?_eq, Option.ite_none_right_eq_some, get?_digest_iff hhistory]
  constructor
  · rintro ⟨-, other, user, roles, hdigest, hstands, hholder⟩
    have hsame : other = key := hinj (List.mem_cons_of_mem key hstands.valid_and_named.2)
      List.mem_cons_self hdigest
    exact ⟨user, roles, hsame ▸ hstands, hholder⟩
  · rintro ⟨user, roles, hstands, hholder⟩
    exact ⟨hstands.valid_and_named.1, key, user, roles, rfl, hstands, hholder⟩

/-- The table has an entry for each key that stands. -/
theorem size_ofHistory
    (hinj : Set.InjOn ApiKeyText.digest {key | key ∈ changes.map KeyChange.key}) :
    (ofHistory changes).size = {key | ∃ user roles, Stands changes key user roles}.ncard := by
  have hkeys : (↑(ofHistory changes).holders.keys.toFinset : Set String)
      = ApiKeyText.digest '' {key | ∃ user roles, Stands changes key user roles} := by
    ext digest
    rw [Finset.mem_coe, List.mem_toFinset, Dict.mem_keys_iff, Option.isSome_iff_exists]
    constructor
    · rintro ⟨holder, hholder⟩
      obtain ⟨key, user, roles, rfl, hstands, -⟩ := (get?_digest_iff hinj).mp hholder
      exact ⟨key, ⟨user, roles, hstands⟩, rfl⟩
    · rintro ⟨key, ⟨user, roles, hstands⟩, rfl⟩
      exact ⟨_, (get?_digest_iff hinj).mpr ⟨key, user, roles, rfl, hstands, rfl⟩⟩
  have hstanding : Set.InjOn ApiKeyText.digest {key | ∃ user roles, Stands changes key user roles} :=
    hinj.mono fun key ⟨user, roles, hstands⟩ => hstands.valid_and_named.2
  rw [← hstanding.ncard_image, ← hkeys, Set.ncard_coe_finset,
    List.toFinset_card_of_nodup (Dict.nodup_keys _), Dict.keys, List.length_map]
  rfl

/-- The profile of who presents a holder's key to a client. -/
def profileOf (client : String) (holder : ApiKeyHolder) : Profile where
  id := holder.user
  clientName := some client
  attributes := Dict.empty.insert "auth_method" (.str "api_key")
  roles := holder.roles
  permissions := .empty
  rememberMe := false
  expiresAt := none

end ApiKeys

/-- A value that an outcome has was there. -/
theorem Attempt.of_ofOption {α : Type} {given : Option α} {value : α}
    (h : Attempt.ofOption given = .produced value) : given = some value := by
  cases given with
  | none => cases h
  | some other => exact congrArg some (Attempt.produced.inj h)

namespace HeaderClient

/-- A request presents a text to a header client: the first value of the client's field can
    be read, begins with the client's text, and goes on with the one given, up to blanks
    around it. -/
def Presents (h : HeaderClient) (c : Context) (text : String) : Prop :=
  ∃ value rest, (c.request.headers.all h.field).head? = some value ∧
    Http.isReadable value = true ∧ value.toList = h.start.toList ++ rest ∧
    text.toList = Text.trimChars rest

/-- The token of a request is what it presents, if that is anything. -/
theorem token_iff {h : HeaderClient} {c : Context} {text : String} :
    (c.request.header? h.field).bind (token? h.start) = some text ↔
      h.Presents c text ∧ text ≠ "" := by
  constructor
  · intro htoken
    obtain ⟨value, hvalue, htoken⟩ := Option.bind_eq_some_iff.mp htoken
    obtain ⟨hfirst, hreadable⟩ := Option.filter_eq_some_iff.mp hvalue
    obtain ⟨rest, hrest, htoken⟩ := Option.bind_eq_some_iff.mp htoken
    obtain ⟨hsome, htext⟩ := Option.ite_none_left_eq_some.mp htoken
    cases htext
    refine ⟨⟨value, rest, hfirst, hreadable, (List.isPrefixOf?_eq_some_iff_append_eq.mp hrest).symm,
      String.toList_ofList⟩, ?_⟩
    intro hempty
    rw [String.ofList_eq_empty_iff] at hempty
    exact hsome (List.isEmpty_iff.mpr hempty)
  · rintro ⟨⟨value, rest, hfirst, hreadable, hstart, htext⟩, hne⟩
    have hvalue : c.request.header? h.field = some value :=
      Option.filter_eq_some_iff.mpr ⟨hfirst, hreadable⟩
    have hsome : ¬ (Text.trimChars rest).isEmpty = true := by
      rw [← htext, List.isEmpty_iff, String.toList_eq_nil_iff]
      exact hne
    rw [hvalue, Option.bind_some, token?, List.isPrefixOf?_eq_some_iff_append_eq.mpr hstart.symm]
    show (if (Text.trimChars rest).isEmpty = true then none
      else some (String.ofList (Text.trimChars rest))) = some text
    rw [if_neg hsome, ← htext, String.ofList_toList]

/-- A header client over a table of keys answers for the holder of the token, if there is a
    token and it has a holder. -/
theorem answer_eq (h : HeaderClient) (k : ApiKeys) (now : Instant) (c : Context) :
    (h.client fun _ => k.profile?).answer now c
      = .ok (.ofOption ((((c.request.header? h.field).bind (token? h.start)).bind k.holder?).map
          (ApiKeys.profileOf h.name))) := by
  have hfetch : (h.client fun _ => k.profile?).fetch now c = .ok (h.fetch c) := rfl
  rw [Client.answer, hfetch, fetch]
  cases (c.request.header? h.field).bind (token? h.start) with
  | none => rfl
  | some token =>
      show (Except.ok (Attempt.ofOption (k.profile? (.token token)))).map _ = _
      rw [ApiKeys.profile?, Option.bind_some]
      cases k.holder? token with
      | none => rfl
      | some holder =>
          have hroles : (Profile.ofId holder.user).withRoles holder.roles.names
              = { Profile.ofId holder.user with roles := holder.roles } :=
            congrArg (fun roles => { Profile.ofId holder.user with roles := roles })
              (NameSet.ofList_names holder.roles)
          rw [Option.map_some, Option.map_some, hroles]
          rfl

end HeaderClient

open ApiKeys (Stands ofHistory profileOf)

/-- Whom the table knows for the token of a request. -/
theorem HeaderClient.holder_iff {h : HeaderClient} {c : Context} {changes : List KeyChange}
    {holder : ApiKeyHolder}
    (hinj : Set.InjOn ApiKeyText.digest
      {key | h.Presents c key ∨ key ∈ changes.map KeyChange.key}) :
    ((c.request.header? h.field).bind (token? h.start)).bind (ofHistory changes).holder?
        = some holder ↔
      ∃ key user roles, h.Presents c key ∧ Stands changes key user roles ∧
        holder = ⟨user, .ofList roles⟩ := by
  have hinvolved : ∀ key, h.Presents c key →
      Set.InjOn ApiKeyText.digest {other | other ∈ key :: changes.map KeyChange.key} := by
    intro key hpresents
    refine hinj.mono fun other hother => ?_
    rcases List.mem_cons.mp hother with rfl | hother
    · exact .inl hpresents
    · exact .inr hother
  rw [Option.bind_eq_some_iff]
  constructor
  · rintro ⟨key, htoken, hholder⟩
    obtain ⟨hpresents, -⟩ := token_iff.mp htoken
    obtain ⟨user, roles, hstands, heq⟩ :=
      (ApiKeys.holder?_iff (hinvolved key hpresents)).mp hholder
    exact ⟨key, user, roles, hpresents, hstands, heq⟩
  · rintro ⟨key, user, roles, hpresents, hstands, rfl⟩
    refine ⟨key, token_iff.mpr ⟨hpresents, ?_⟩,
      (ApiKeys.holder?_iff (hinvolved key hpresents)).mpr ⟨user, roles, hstands, rfl⟩⟩
    rintro rfl
    exact absurd hstands.valid_and_named.1 (by decide)

/-- For every history of registrations, accepted and refused ones, and of keys taken back, for
    every header client and every request.  The client produces a profile just when the request
    presents a key that stands; it is the profile of the user and the roles for which the key
    stands, and it bears the client's name.  Else the client answers absent.  The context is left
    as it is.  A refused registration changes nothing, and there are as many entries as keys
    that stand. -/
theorem opens_iff (changes : List KeyChange) (h : HeaderClient) (now : Instant) (c : Context)
    (hinj : Set.InjOn ApiKeyText.digest
      {key | h.Presents c key ∨ key ∈ changes.map KeyChange.key}) :
    let keys := ofHistory changes
    let client := h.client fun _ => keys.profile?
    (∀ p, client.authenticate now c
          = Plan.calling (client.calls now c) (.done (.ok (.produced p), c)) ↔
        ∃ key user roles, h.Presents c key ∧ Stands changes key user roles ∧
          p = profileOf h.name ⟨user, .ofList roles⟩) ∧
    ((¬ ∃ key user roles, h.Presents c key ∧ Stands changes key user roles) →
      client.authenticate now c = Plan.calling (client.calls now c) (.done (.ok .absent, c))) ∧
    (∀ user roles role,
      (profileOf h.name ⟨user, .ofList roles⟩).hasRole role = true ↔ role ∈ roles) ∧
    (∀ key user roles, (∃ e, keys.register key user roles = .error e) ↔
      ApiKeyText.isValid key = false) ∧
    (∀ key user roles e, keys.register key user roles = .error e →
      ofHistory (changes ++ [.register key user roles]) = keys) ∧
    keys.size = {key | ∃ user roles, Stands changes key user roles}.ncard := by
  intro keys client
  have hanswer : client.authenticate now c = Plan.calling (client.calls now c)
      (.done (.ok (.ofOption ((((c.request.header? h.field).bind
        (HeaderClient.token? h.start)).bind keys.holder?).map (profileOf h.name))), c)) := by
    rw [Client.authenticate_apply, HeaderClient.answer_eq]
  refine ⟨?_, ?_, ?_, ?_, ?_, ApiKeys.size_ofHistory (hinj.mono fun key hkey => .inr hkey)⟩
  · intro p
    rw [hanswer]
    constructor
    · intro hproduced
      obtain ⟨-, hproduced⟩ := Plan.calling_done_inj hproduced
      have hfound := Attempt.of_ofOption (Except.ok.inj (congrArg Prod.fst hproduced))
      obtain ⟨holder, hholder, rfl⟩ := Option.map_eq_some_iff.mp hfound
      obtain ⟨key, user, roles, hpresents, hstands, rfl⟩ :=
        (HeaderClient.holder_iff hinj).mp hholder
      exact ⟨key, user, roles, hpresents, hstands, rfl⟩
    · rintro ⟨key, user, roles, hpresents, hstands, rfl⟩
      rw [(HeaderClient.holder_iff hinj).mpr ⟨key, user, roles, hpresents, hstands, rfl⟩]
      rfl
  · intro hnobody
    rw [hanswer]
    cases hholder : ((c.request.header? h.field).bind
        (HeaderClient.token? h.start)).bind keys.holder? with
    | none => rfl
    | some holder =>
        obtain ⟨key, user, roles, hpresents, hstands, -⟩ :=
          (HeaderClient.holder_iff hinj).mp hholder
        exact absurd ⟨key, user, roles, hpresents, hstands⟩ hnobody
  · intro user roles role
    exact List.contains_iff_mem.trans NameSet.mem_names_ofList
  · intro key user roles
    rcases keys.register_eq key user roles with ⟨hvalid, h⟩ | ⟨hinvalid, fault, -, h⟩
    · simp [hvalid, h]
    · simp [hinvalid, h]
  · intro key user roles e hrefused
    rw [ApiKeys.ofHistory_append, ApiKeys.after]
    show (match keys.register key user roles with | .ok k => k | .error _ => keys) = keys
    rw [hrefused]

/-- A key that was taken for another user opens for the later one, also when it stands between
    blanks; a refused text and a key that was taken back do not count. -/
theorem opens_iff_replaced :
    let changes : List KeyChange := [.register "wdn_aaaaaaaaaaaaaaaa" "jdoe" ["admin"],
      .register "wdn_short" "jroe" [], .register "wdn_bbbbbbbbbbbbbbbb" "ops" [],
      .register "wdn_aaaaaaaaaaaaaaaa" "svc" ["reader", "writer", "reader"],
      .revoke "wdn_bbbbbbbbbbbbbbbb"]
    let h : HeaderClient := ⟨"Keys", "Authorization", "ApiKey "⟩
    let c : Context := .ofRequest ⟨"GET", .root,
      [("authorization", "ApiKey  wdn_aaaaaaaaaaaaaaaa ")], []⟩ none
    let client := h.client fun _ => (ofHistory changes).profile?
    Set.InjOn ApiKeyText.digest {key | h.Presents c key ∨ key ∈ changes.map KeyChange.key} ∧
      client.authenticate .epoch c = Plan.calling (client.calls .epoch c)
        (.done (.ok (.produced
          (profileOf "Keys" ⟨"svc", .ofList ["reader", "writer", "reader"]⟩)), c)) := by
  intro changes h c client
  have hpresents : ∀ key, h.Presents c key ↔ key = "wdn_aaaaaaaaaaaaaaaa" := by
    have hfirst : (Http.Headers.all [("authorization", "ApiKey  wdn_aaaaaaaaaaaaaaaa ")]
        "Authorization").head? = some "ApiKey  wdn_aaaaaaaaaaaaaaaa " := by
      decide
    have hsplit : "ApiKey  wdn_aaaaaaaaaaaaaaaa ".toList
        = "ApiKey ".toList ++ " wdn_aaaaaaaaaaaaaaaa ".toList := by
      decide
    intro key
    constructor
    · rintro ⟨value, rest, hvalue, -, hstart, hkey⟩
      obtain rfl := Option.some.inj (hfirst.symm.trans hvalue)
      obtain rfl : " wdn_aaaaaaaaaaaaaaaa ".toList = rest :=
        List.append_cancel_left (hsplit.symm.trans hstart)
      exact String.toList_inj.mp hkey
    · rintro rfl
      exact ⟨_, " wdn_aaaaaaaaaaaaaaaa ".toList, hfirst, by decide, hsplit, by decide⟩
  have hinj : Set.InjOn ApiKeyText.digest
      {key | h.Presents c key ∨ key ∈ changes.map KeyChange.key} := by
    have hnamed : ∀ key, h.Presents c key ∨ key ∈ changes.map KeyChange.key →
        key ∈ ["wdn_aaaaaaaaaaaaaaaa", "wdn_short", "wdn_bbbbbbbbbbbbbbbb"] := by
      rintro key (hkey | hkey)
      · rw [(hpresents key).mp hkey]
        exact List.mem_cons_self
      · revert key
        decide
    have hdistinct : ∀ a ∈ ["wdn_aaaaaaaaaaaaaaaa", "wdn_short", "wdn_bbbbbbbbbbbbbbbb"],
        ∀ b ∈ ["wdn_aaaaaaaaaaaaaaaa", "wdn_short", "wdn_bbbbbbbbbbbbbbbb"],
        ApiKeyText.digest a = ApiKeyText.digest b → a = b := by
      decide +kernel
    exact fun a ha b hb => hdistinct a (hnamed a ha) b (hnamed b hb)
  have hstands : Stands changes "wdn_aaaaaaaaaaaaaaaa" "svc" ["reader", "writer", "reader"] := by
    refine ⟨changes.take 3, _, [.revoke "wdn_bbbbbbbbbbbbbbbb"], rfl, ⟨?_, rfl⟩, rfl, ?_⟩
    · show ApiKeyText.isValid "wdn_aaaaaaaaaaaaaaaa" = true
      decide
    · rintro other hother ⟨-, hkey⟩
      obtain rfl := List.mem_singleton.mp hother
      exact absurd hkey (by decide)
  exact ⟨hinj, ((opens_iff changes h .epoch c hinj).1 _).mpr
    ⟨_, _, _, (hpresents _).mpr rfl, hstands, rfl⟩⟩

end AccessGate
