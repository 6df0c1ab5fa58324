import AccessGate.Credentials.SignedToken
import AccessGate.Proofs.JsonText
import AccessGate.Proofs.Lookup
import AccessGate.Proofs.OctetText
import AccessGate.Proofs.WireForm

/-! # Tokens that are minted here

    A token that was minted under the shared secret is taken apart into the header and the
    claims it was made of: the signature fits, and each part is read back.  So the check of
    such a token is the check of its claims (`check_mint`), with one exception.  The reader
    of the claims goes only so deep, and a token with deeper metadata cannot be read by the
    authority that made it. -/

namespace AccessGate

/-! ## Parts -/

namespace Encoding.Base64

/-- A sign of the alphabet stands for the number that it was written for. -/
theorem value?_char {n : Nat} (h : n < 64) : urlSafe.value? (urlSafe.char n) = some n := by
  have hsmall : ∀ n < 64, urlSafe.value? (urlSafe.char n) = some n := by decide
  exact hsmall n h

/-- Octets as values of six bits. -/
def sextets : List UInt8 → List Nat
  | [] => []
  | [x] => [x.toNat / 4, x.toNat % 4 * 16]
  | [x, y] => [x.toNat / 4, x.toNat % 4 * 16 + y.toNat / 16, y.toNat % 16 * 4]
  | x :: y :: z :: rest =>
    x.toNat / 4 :: (x.toNat % 4 * 16 + y.toNat / 16) :: (y.toNat % 16 * 4 + z.toNat / 64)
      :: z.toNat % 64 :: sextets rest

/-- What is encoded is written in groups of six bits. -/
theorem encode_eq (octets : List UInt8) :
    encode urlSafe octets = (sextets octets).map urlSafe.char := by
  fun_induction sextets octets with
  | case1 => rfl
  | case2 x => rfl
  | case3 x y => rfl
  | case4 x y z rest ih =>
      rw [encode, ih]
      rfl

/-- Each group is a sign of the alphabet. -/
theorem sextets_lt (octets : List UInt8) : ∀ n ∈ sextets octets, n < 64 := by
  have hlt : ∀ b : UInt8, b.toNat < 256 := fun b => b.toNat_lt
  fun_induction sextets octets with
  | case1 => exact List.forall_mem_nil _
  | case2 x =>
      have hx := hlt x
      simp only [List.forall_mem_cons]
      exact ⟨by omega, by omega, List.forall_mem_nil _⟩
  | case3 x y =>
      have hx := hlt x
      have hy := hlt y
      simp only [List.forall_mem_cons]
      exact ⟨by omega, by omega, by omega, List.forall_mem_nil _⟩
  | case4 x y z rest ih =>
      have hx := hlt x
      have hy := hlt y
      have hz := hlt z
      simp only [List.forall_mem_cons]
      exact ⟨by omega, by omega, by omega, by omega, ih⟩

/-- The values of octets are joined to the octets. -/
theorem join_sextets (octets : List UInt8) : join (sextets octets) = some octets := by
  have hlt : ∀ b : UInt8, b.toNat < 256 := fun b => b.toNat_lt
  have hoctet : ∀ {n : Nat} (b : UInt8), n = b.toNat → UInt8.ofNat n = b := fun b h =>
    h ▸ UInt8.ofNat_toNat
  fun_induction sextets octets with
  | case1 => rfl
  | case2 x =>
      rw [join, if_pos (by omega), hoctet x (by omega)]
  | case3 x y =>
      have hy := hlt y
      rw [join, if_pos (by omega), hoctet x (by omega), hoctet y (by omega)]
  | case4 x y z rest ih =>
      have hy := hlt y
      have hz := hlt z
      rw [join, ih, Option.map_some, hoctet x (by omega), hoctet y (by omega), hoctet z (by omega)]

/-- Octets are read back from the alphabet of URLs. -/
theorem decode?_encode (octets : List UInt8) : decode? urlSafe (encode urlSafe octets) = some octets := by
  rw [decode?, encode_eq, mapM_map_of_reads fun n hn => value?_char (sextets_lt octets n hn)]
  exact join_sextets octets

/-- What is encoded holds no dot, so a token falls into its three parts. -/
theorem no_dot_encode (octets : List UInt8) : '.' ∉ encode urlSafe octets := by
  intro hdot
  rw [encode_eq] at hdot
  obtain ⟨n, hn, heq⟩ := List.mem_map.mp hdot
  have hvalue := value?_char (sextets_lt octets n hn)
  rw [heq] at hvalue
  cases hvalue

end Encoding.Base64

namespace TokenAuthority

/-- A text without a dot behind a dot is what stands behind the last dot. -/
theorem splitLast?_append {front last : List Char} (h : '.' ∉ last) :
    splitLast? (front ++ '.' :: last) = some (front, last) := by
  have htail : ((front ++ '.' :: last).reverse.takeWhile (· != '.')).reverse = last := by
    have hfree : ∀ c ∈ last.reverse, (c != '.') = true := fun c hc =>
      bne_iff_ne.mpr fun heq => h (heq ▸ List.mem_reverse.mp hc)
    rw [List.reverse_append, List.reverse_cons, List.append_assoc,
      List.takeWhile_append_of_pos hfree, List.singleton_append,
      List.takeWhile_cons_of_neg (by decide), List.append_nil, List.reverse_reverse]
  rw [splitLast?, htail]
  have hlength : (front ++ '.' :: last).length = front.length + last.length + 1 := by
    rw [List.length_append, List.length_cons]
    omega
  rw [if_pos (by omega), hlength,
    show front.length + last.length + 1 - last.length - 1 = front.length by omega,
    List.take_left]

/-- A part of a token is read back as it was written. -/
theorem readPart_writePart (text : String) : readPart (writePart text) = .ok (some text) := by
  rw [readPart, writePart, Encoding.Base64.decode?_encode]
  show Except.ok (Text.ofOctets? (Text.octets text)) = _
  rw [Text.ofOctets?_octets]

theorem algorithm?_header : algorithm? header = some "HS256" := by decide +kernel

end TokenAuthority

/-! ## Claims -/

namespace Json

/-- Sorting the members of an object that are in order leaves them as they are. -/
theorem putMember_of_last {name : String} {value : Json} {l : List (String × Json)}
    (h : ∀ m ∈ l, m.1 < name) : putMember name value l = l ++ [(name, value)] := by
  induction l with
  | nil => rfl
  | cons head rest ih =>
      obtain ⟨first, v⟩ := head
      have hfirst : first < name := h _ List.mem_cons_self
      rw [putMember, if_neg (String.lt_asymm hfirst),
        if_neg fun heq : name = first => String.lt_irrefl first (heq ▸ hfirst),
        ih fun m hm => h m (List.mem_cons_of_mem _ hm), List.cons_append]

/-- Members in their simplest form stay what they are. -/
theorem canonicalMembers_eq_self {members : List (String × Json)}
    (h : ∀ m ∈ members, canonical m.2 = m.2) : canonicalMembers members = members := by
  induction members with
  | nil => rfl
  | cons m rest ih =>
      obtain ⟨name, value⟩ := m
      obtain ⟨hvalue, hrest⟩ := List.forall_mem_cons.mp h
      rw [canonicalMembers, hvalue, ih hrest]

/-- The entries of a dictionary of values in canonical form are an object in canonical form. -/
theorem canonical_entries {d : Dict Json} (h : ∀ m ∈ d.entries, canonical m.2 = m.2) :
    canonical (.obj d.entries) = .obj d.entries := by
  have hsorted : sortMembers d.entries = d.entries :=
    foldl_of_ordered (fun _ _ => putMember_of_last) d.sorted
  rw [canonical, canonicalMembers_eq_self h, hsorted]

end Json

namespace Claims

open Json

variable {c : Claims}

/-- Claims whose metadata are values as they are kept: with integers of 64 bits, no other numbers,
    and objects in canonical form. -/
def Kept (c : Claims) : Prop :=
  ∀ d ∈ c.metadata, ∀ m ∈ d.entries, isWhole m.2 = true ∧ canonical m.2 = m.2

/-- Claims whose metadata is not too deep for a reader that goes down 127 levels, two of which are
    the claims and the metadata themselves. -/
def Shallow (c : Claims) : Prop := ∀ d ∈ c.metadata, ∀ m ∈ d.entries, nesting m.2 ≤ 125

/-- Claimed roles in JSON. -/
def rolesToJson : Option (List String) → Json
  | some roles => .arr (roles.map .str)
  | none => .null

/-- Metadata in JSON. -/
def metadataToJson : Option (Dict Json) → Json
  | some d => .obj d.entries
  | none => .null

theorem toJson_eq (c : Claims) :
    c.toJson = .obj [("sub", .str c.subject), ("exp", .int c.expires.toNat),
      ("iat", .int c.issued.toNat), ("nbf", secondToJson c.notBefore), ("jti", .str c.tokenId),
      ("iss", .str c.issuer), ("aud", .str c.audience), ("roles", rolesToJson c.roles),
      ("metadata", metadataToJson c.metadata)] := by
  obtain ⟨subject, expires, issued, notBefore, tokenId, issuer, audience, roles, metadata⟩ := c
  cases roles <;> cases metadata <;> rfl

theorem isWhole_seconds (n : UInt64) : isWhole (.int n.toNat) = true := by
  have hlt : n.toNat < UInt64.size := n.toNat_lt
  have hlow : Int64.minValue.toInt ≤ 0 := by decide
  simp only [isWhole, Bool.and_eq_true, decide_eq_true_eq]
  omega

theorem isWhole_secondToJson (n : Option UInt64) : isWhole (secondToJson n) = true := by
  cases n with
  | none => rfl
  | some n => exact isWhole_seconds n

theorem isWhole_rolesToJson (roles : Option (List String)) : isWhole (rolesToJson roles) = true := by
  cases roles with
  | none => rfl
  | some names => exact areWhole_texts names

theorem isWhole_metadataToJson (h : c.Kept) : isWhole (metadataToJson c.metadata) = true := by
  cases hmetadata : c.metadata with
  | none => rfl
  | some d => exact areMembersWhole_iff.mpr fun m hm => (h d hmetadata m hm).1

/-- Claims that are kept are written with whole numbers only. -/
theorem isWhole_toJson (h : c.Kept) : isWhole c.toJson = true := by
  rw [toJson_eq]
  refine areMembersWhole_iff.mpr ?_
  simp only [List.forall_mem_cons]
  exact ⟨rfl, isWhole_seconds _, isWhole_seconds _, isWhole_secondToJson _, rfl, rfl, rfl,
    isWhole_rolesToJson _, isWhole_metadataToJson h, List.forall_mem_nil _⟩

theorem nesting_secondToJson (n : Option UInt64) : nesting (secondToJson n) = 0 := by
  cases n <;> rfl

theorem nesting_rolesToJson (roles : Option (List String)) : nesting (rolesToJson roles) ≤ 1 := by
  cases roles with
  | none => exact Nat.zero_le _
  | some names => exact Nat.le_of_eq (congrArg (· + 1) (nestingOfItems_texts names))

/-- Metadata can be read back just when it is not nested too deep. -/
theorem nesting_metadataToJson_lt_iff :
    nesting (metadataToJson c.metadata) < 127 ↔ c.Shallow := by
  cases hmetadata : c.metadata with
  | none =>
      constructor
      · intro _ d hd
        rw [hmetadata] at hd
        cases hd
      · exact fun _ => (by decide : 0 < 127)
  | some d =>
      show nestingOfMembers d.entries + 1 < 127 ↔ _
      rw [Nat.succ_lt_succ_iff, nestingOfMembers_lt_iff (by decide)]
      constructor
      · intro h e he m hm
        obtain rfl : d = e := Option.some.inj (hmetadata.symm.trans he)
        exact Nat.le_of_lt_succ (h m hm)
      · exact fun h m hm => Nat.lt_succ_of_le (h d hmetadata m hm)

/-- The claims are one level, and no claim but the metadata is deep. -/
theorem nesting_toJson_lt_iff : nesting c.toJson < 128 ↔ c.Shallow := by
  have hroles := nesting_rolesToJson c.roles
  rw [← nesting_metadataToJson_lt_iff, toJson_eq]
  show nestingOfMembers _ + 1 < 128 ↔ _
  rw [Nat.succ_lt_succ_iff, nestingOfMembers_lt_iff (by decide)]
  simp only [List.forall_mem_cons, nesting_secondToJson]
  constructor
  · rintro ⟨-, -, -, -, -, -, -, -, hmetadata, -⟩
    exact hmetadata
  · intro hmetadata
    have hzero : ∀ {v : Json}, nesting v = 0 → nesting v < 127 := fun h => by omega
    exact ⟨hzero rfl, hzero rfl, hzero rfl, by decide, hzero rfl, hzero rfl, hzero rfl, by omega,
      hmetadata, List.forall_mem_nil _⟩

/-- A second is read back as it was written. -/
theorem readSecond_int (n : UInt64) : readSecond (.int n.toNat) = some n := by
  have hlt : n.toNat < UInt64.size := n.toNat_lt
  show ((if n.toNat < UInt64.size then some n.toNat else none).map UInt64.ofNat) = some n
  rw [if_pos hlt, Option.map_some, UInt64.ofNat_toNat]

/-- Claims are read back from JSON. -/
theorem ofJson?_toJson (c : Claims) : ofJson? c.toJson = some c := by
  have hsecond : ∀ n : Option UInt64, orNull readSecond (secondToJson n) = some n := by
    intro n
    cases n with
    | none => rfl
    | some n => exact congrArg (Option.map some) (readSecond_int n)
  have hroles : ∀ roles : Option (List String), orNull texts? (rolesToJson roles) = some roles := by
    intro roles
    cases roles with
    | none => rfl
    | some names =>
        have hnames : texts? (.arr (names.map .str)) = some names :=
          mapM_map_of_reads fun _ _ => rfl
        exact congrArg (Option.map some) hnames
  have hmetadata : ∀ metadata : Option (Dict Json),
      orNull readMetadata (metadataToJson metadata) = some metadata := by
    intro metadata
    cases metadata with
    | none => rfl
    | some d => exact congrArg (fun d => some (some d)) (Dict.ofList_entries d)
  rw [toJson_eq, ofJson?]
  simp only [record?, Record.required, Record.optional, List.lookup_cons, List.lookup_nil,
    String.reduceBEq, Option.bind_eq_bind, Option.bind_some, text?, readSecond_int, hsecond, hroles,
    hmetadata]
  rfl

/-- Metadata that is kept is written in its simplest form. -/
theorem canonical_metadataToJson (h : c.Kept) :
    (metadataToJson c.metadata).canonical = metadataToJson c.metadata := by
  cases hmetadata : c.metadata with
  | none => rfl
  | some d => exact canonical_entries fun m hm => (h d hmetadata m hm).2

/-- Claims are read back from their text, unless they are too deep. -/
theorem ofText?_toText (h : c.Kept) :
    ofText? c.toJson.toText = if nesting c.toJson < 128 then some c else none := by
  rw [ofText?, read?_toText (isWhole_toJson h)]
  by_cases hshallow : nesting c.toJson < 128
  · rw [if_pos hshallow, if_pos hshallow, toJson_eq]
    simp only [Option.bind_eq_bind, Option.bind_some]
    refine (if_neg Bool.false_ne_true).trans ?_
    have hread := ofJson?_toJson c
    rw [toJson_eq, ← canonical_metadataToJson h] at hread
    exact hread
  · rw [if_neg hshallow, if_neg hshallow]
    rfl

instance (c : Claims) : Decidable c.Shallow := decidable_of_iff _ nesting_toJson_lt_iff

/-! ## The profile of the subject -/

/-- The end of the claims is an instant just when the calendar has it: no second that does not fit
    into 63 bits is in the calendar. -/
theorem ofSecond?_of_gt {n : Nat} (h : ¬ (n : Int) ≤ Int64.maxValue.toInt) :
    Instant.ofSecond? n = none := by
  have hlast : Instant.lastSecond ≤ Int64.maxValue.toInt := by decide +kernel
  have hout : Instant.inCalendar n = false := by
    rw [Instant.inCalendar, Bool.and_eq_false_iff]
    exact .inr (decide_eq_false (by omega))
  exact Instant.of?_eq_none_iff.mpr fun h => Bool.eq_false_iff.mp hout h.1

/-- The profile of the subject, field by field. -/
theorem profile_eq (c : Claims) :
    c.profile = {
      id := c.subject
      clientName := none
      attributes := ((Dict.empty.insert "auth_method" (.str "jwt")).insert "iss"
        (.str c.issuer)).insertAll (c.metadata.getD .empty).entries
      roles := .ofList (c.roles.getD [])
      permissions := .empty
      rememberMe := false
      expiresAt := Instant.ofSecond? c.expires.toNat } := by
  rw [profile]
  by_cases hfits : (c.expires.toNat : Int) ≤ Int64.maxValue.toInt
  · simp only [if_pos hfits]
    cases Instant.ofSecond? c.expires.toNat with
    | none => rfl
    | some t => rfl
  · simp only [if_neg hfits]
    rw [ofSecond?_of_gt hfits]
    rfl

/-- The profile of claims has the roles that they list. -/
theorem hasRole_profile_iff {role : String} :
    c.profile.hasRole role = true ↔ ∃ roles ∈ c.roles, role ∈ roles := by
  rw [profile_eq, Profile.hasRole, NameSet.contains, List.contains_iff_mem, NameSet.mem_names_ofList]
  cases c.roles with
  | none => simp
  | some roles => simp

/-- The profile has the metadata as attributes, and what the gate notes where there are none. -/
theorem get?_attributes_profile (c : Claims) (name : String) :
    c.profile.attributes.get? name = ((c.metadata.getD .empty).get? name).or
      (if name = "iss" then some (.str c.issuer)
        else if name = "auth_method" then some (.str "jwt") else none) := by
  rw [profile_eq, Dict.get?_insertAll, Dict.get?_insert, Dict.get?_insert]
  rfl

end Claims

namespace TokenAuthority

variable {a b : TokenAuthority} {c : Claims}

/-- The check of a token that was minted under the same secret is the check of its claims, unless
    they are too deep to be read. -/
theorem check_mint (hsecret : a.secret = b.secret) (h : c.Kept) (now : UInt64) :
    a.check now (b.mint c)
      = if c.Shallow then a.checkClaims now c else .error (.signedToken .json) := by
  have hsign : ∀ message, a.sign message = b.sign message := by
    intro message
    rw [sign, sign, hsecret]
  have hparts : ∀ message, splitLast? (message ++ '.' :: b.sign message)
      = some (message, b.sign message) := fun _ =>
    splitLast?_append (Encoding.Base64.no_dot_encode _)
  have hmessage : ∀ body, splitLast? (writePart header ++ '.' :: writePart body)
      = some (writePart header, writePart body) := fun _ =>
    splitLast?_append (Encoding.Base64.no_dot_encode _)
  have hread : Claims.ofText? c.toJson.toText = if c.Shallow then some c else none := by
    rw [Claims.ofText?_toText h]
    exact if_congr Claims.nesting_toJson_lt_iff rfl rfl
  rw [check, mint, String.toList_ofList]
  simp only [hparts, hmessage, readPart_writePart, bind, Except.bind, Option.bind_some,
    algorithm?_header, hsign, bne_self_eq_false, Bool.false_eq_true, if_false, hread]
  by_cases hshallow : c.Shallow
  · rw [if_pos hshallow, if_pos hshallow]
  · rw [if_neg hshallow, if_neg hshallow]

/-- The checks of minted claims in their order: whether each fails, and what is answered then. -/
def refusals (a : TokenAuthority) (now : UInt64) (c : Claims) : List (Bool × Error) :=
  [(!decide c.Shallow, .signedToken .json),
    (decide (c.expires.toNat + 60 < now.toNat), .tokenExpired),
    (c.notBefore.any fun n => now.toNat + 60 < n.toNat, .signedToken .immature),
    (c.issuer != a.issuer, .token .issuer),
    (c.audience != a.audience, .token .audience),
    (decide (c.expires.toNat < now.toNat), .tokenExpired)]

/-- What is answered to a minted token: the error of the first check that fails, or the claims. -/
theorem check_mint_eq (hsecret : a.secret = b.secret) (h : c.Kept) (now : UInt64) :
    a.check now (b.mint c) = match (a.refusals now c).find? Prod.fst with
      | some refusal => .error refusal.2
      | none => .ok c := by
  have hearly : ((c.notBefore.map UInt64.toNat).getD 0 > now.toNat + leeway)
      ↔ (c.notBefore.any fun n => decide (now.toNat + 60 < n.toNat)) = true := by
    cases c.notBefore with
    | none => simp
    | some n => simp [leeway]
  have hlate : c.isExpired now = decide (c.expires.toNat < now.toNat) := rfl
  have hstops : ∀ {fails : Bool} (e : Error) (rest : List (Bool × Error)), fails = true →
      ((fails, e) :: rest).find? Prod.fst = some (fails, e) := fun _ _ h =>
    List.find?_cons_of_pos h
  have hpasses : ∀ {fails : Bool} (e : Error) (rest : List (Bool × Error)), ¬ fails = true →
      ((fails, e) :: rest).find? Prod.fst = rest.find? Prod.fst := fun _ _ h =>
    List.find?_cons_of_neg h
  rw [check_mint hsecret h, checkClaims, hlate, refusals]
  by_cases hshallow : c.Shallow
  · rw [if_pos hshallow, hpasses _ _ (by simp [hshallow])]
    by_cases hexpired : c.expires.toNat + 60 < now.toNat
    · rw [if_pos (show c.expires.toNat + leeway < now.toNat from hexpired),
        hstops _ _ (decide_eq_true hexpired)]
    · rw [if_neg (show ¬ c.expires.toNat + leeway < now.toNat from hexpired),
        hpasses _ _ (by simpa using hexpired)]
      by_cases himmature : (c.notBefore.map UInt64.toNat).getD 0 > now.toNat + leeway
      · rw [if_pos himmature, hstops _ _ (hearly.mp himmature)]
      · rw [if_neg himmature, hpasses _ _ fun h => himmature (hearly.mpr h)]
        by_cases hissuer : (c.issuer != a.issuer) = true
        · rw [if_pos hissuer, hstops _ _ hissuer]
        · rw [if_neg hissuer, hpasses _ _ hissuer]
          by_cases haudience : (c.audience != a.audience) = true
          · rw [if_pos haudience, hstops _ _ haudience]
          · rw [if_neg haudience, hpasses _ _ haudience]
            by_cases hover : decide (c.expires.toNat < now.toNat) = true
            · rw [if_pos hover, hstops _ _ hover]
            · rw [if_neg hover, hpasses _ _ hover]
              rfl
  · rw [if_neg hshallow, hstops _ _ (by simp [hshallow])]

/-- No check of minted claims fails just when the claims are for this authority, they hold now, and
    they can be read. -/
theorem refusals_pass_iff (now : UInt64) :
    (a.refusals now c).find? Prod.fst = none ↔ c.Shallow ∧ c.issuer = a.issuer ∧
      c.audience = a.audience ∧ now ≤ c.expires ∧
      ∀ n ∈ c.notBefore, n.toNat ≤ now.toNat + 60 := by
  have hle : now ≤ c.expires ↔ now.toNat ≤ c.expires.toNat := UInt64.le_iff_toNat_le
  have hearly : (c.notBefore.any fun n => decide (now.toNat + 60 < n.toNat)) = true
      ↔ ¬ ∀ n ∈ c.notBefore, n.toNat ≤ now.toNat + 60 := by
    cases c.notBefore with
    | none => simp
    | some n => simp
  rw [List.find?_eq_none, hle]
  simp only [refusals, List.forall_mem_cons, hearly, not_not, Bool.not_eq_true', decide_eq_true_eq,
    bne_iff_ne, ne_eq, decide_eq_false_iff_not, Nat.not_lt]
  constructor
  · rintro ⟨hshallow, -, hearly, hissuer, haudience, hover, -⟩
    exact ⟨hshallow, hissuer, haudience, hover, hearly⟩
  · rintro ⟨hshallow, hissuer, haudience, hover, hearly⟩
    exact ⟨hshallow, by omega, hearly, hissuer, haudience, hover, List.forall_mem_nil _⟩

/-- A token that was minted under the secret of an authority validates there just when its claims
    are for the authority, they have not expired, they are valid already up to a minute, and their
    metadata is not too deep.  The profile is then that of the claims: it has their subject, their
    roles, their end if the calendar has it, and their metadata as attributes.  In every other case
    there is no profile, and the check answers the error of the first check that fails. -/
theorem minted_validates (a b : TokenAuthority) (c : Claims) (now : UInt64)
    (hsecret : a.secret = b.secret) (h : c.Kept) :
    (∀ p, a.profile? now (.token (b.mint c)) = some p ↔ p = c.profile ∧ c.Shallow ∧
      c.issuer = a.issuer ∧ c.audience = a.audience ∧ now ≤ c.expires ∧
      ∀ n ∈ c.notBefore, n.toNat ≤ now.toNat + 60) ∧
    c.profile.id = c.subject ∧
    (∀ role, c.profile.hasRole role = true ↔ ∃ roles ∈ c.roles, role ∈ roles) ∧
    c.profile.expiresAt = Instant.ofSecond? c.expires.toNat ∧
    (∀ d ∈ c.metadata, ∀ m ∈ d.entries, c.profile.attributes.get? m.1 = some m.2) ∧
    a.check now (b.mint c) = match (a.refusals now c).find? Prod.fst with
      | some refusal => .error refusal.2
      | none => .ok c := by
  have hcheck := check_mint_eq hsecret h now
  refine ⟨fun p => ?_, by rw [Claims.profile_eq], fun role => Claims.hasRole_profile_iff,
    by rw [Claims.profile_eq], fun d hd m hm => ?_, hcheck⟩
  · rw [← refusals_pass_iff, profile?, hcheck]
    cases (a.refusals now c).find? Prod.fst with
    | none =>
        simp only [Option.some.injEq, and_true]
        exact eq_comm
    | some refusal => simp
  · have hget : d.get? m.1 = some m.2 := d.mem_entries_iff.mp hm
    rw [Claims.get?_attributes_profile, hd, Option.getD_some, hget]
    rfl

end TokenAuthority

/-! ## How deep metadata may be -/

namespace Json

/-- Lists in lists, to a number of levels. -/
def lists : Nat → Json
  | 0 => .null
  | levels + 1 => .arr [lists levels]

/-- Lists inside of lists hold no numbers at all. -/
theorem isWhole_lists (levels : Nat) : isWhole (lists levels) = true := by
  induction levels with
  | zero => rfl
  | succ levels ih =>
      show (isWhole (lists levels) && true) = true
      rw [ih]
      rfl

/-- They are nested as deep as they are many. -/
theorem nesting_lists (levels : Nat) : nesting (lists levels) = levels := by
  induction levels with
  | zero => rfl
  | succ levels ih =>
      show max (nesting (lists levels)) 0 + 1 = levels + 1
      rw [ih, Nat.max_zero]

theorem canonical_lists (levels : Nat) : canonical (lists levels) = lists levels := by
  induction levels with
  | zero => rfl
  | succ levels ih =>
      show Json.arr [canonical (lists levels)] = .arr [lists levels]
      rw [ih]

end Json

/-- Claims whose metadata has one entry of a given depth. -/
def Claims.ofDepth (levels : Nat) : Claims :=
  ⟨"jdoe", 4102444800, 1700000000, none, "t", "warden", "api", none,
    some (.ofList [("deep", .lists levels)])⟩

theorem Claims.kept_ofDepth (levels : Nat) : (ofDepth levels).Kept := by
  rintro d ⟨⟩ m hm
  obtain rfl : m = ("deep", .lists levels) := List.mem_singleton.mp hm
  exact ⟨Json.isWhole_lists levels, Json.canonical_lists levels⟩

/-- Metadata of lists in lists is not nested too deep up to 125 of them. -/
theorem Claims.shallow_ofDepth_iff (levels : Nat) : (ofDepth levels).Shallow ↔ levels ≤ 125 := by
  constructor
  · intro h
    have hdeep := h _ rfl ("deep", .lists levels) List.mem_cons_self
    rwa [Json.nesting_lists] at hdeep
  · rintro h d ⟨⟩ m hm
    obtain rfl : m = ("deep", .lists levels) := List.mem_singleton.mp hm
    exact (Json.nesting_lists levels).symm ▸ h

namespace TokenAuthority

/-- Metadata of 125 levels is the deepest that is read back. -/
theorem minted_validates_deepest :
    (⟨"secret", "warden", "api"⟩ : TokenAuthority).profile? 1700000000
      (.token (mint ⟨"secret", "", ""⟩ (Claims.ofDepth 125))) = some (Claims.ofDepth 125).profile := by
  refine ((minted_validates ⟨"secret", "warden", "api"⟩ ⟨"secret", "", ""⟩ (Claims.ofDepth 125)
    1700000000 rfl (Claims.kept_ofDepth 125)).1 _).mpr ⟨rfl,
      (Claims.shallow_ofDepth_iff 125).mpr (Nat.le_refl _), rfl, rfl, by decide, ?_⟩
  rintro n ⟨⟩

/-- Metadata of 126 levels is lost: the token is for the authority that made it and holds, but its
    claims cannot be read. -/
theorem minted_too_deep :
    (Claims.ofDepth 126).Kept ∧ (Claims.ofDepth 126).issuer = "warden" ∧
    (Claims.ofDepth 126).audience = "api" ∧ 1700000000 ≤ (Claims.ofDepth 126).expires ∧
    (Claims.ofDepth 126).notBefore = none ∧
    (⟨"secret", "warden", "api"⟩ : TokenAuthority).check 1700000000
      (mint ⟨"secret", "warden", "api"⟩ (Claims.ofDepth 126)) = .error (.signedToken .json) ∧
    (⟨"secret", "warden", "api"⟩ : TokenAuthority).profile? 1700000000
      (.token (mint ⟨"secret", "warden", "api"⟩ (Claims.ofDepth 126))) = none := by
  have hdeep : ¬ (Claims.ofDepth 126).Shallow := fun h =>
    absurd ((Claims.shallow_ofDepth_iff 126).mp h) (by decide)
  have hcheck : (⟨"secret", "warden", "api"⟩ : TokenAuthority).check 1700000000
      (mint ⟨"secret", "warden", "api"⟩ (Claims.ofDepth 126)) = .error (.signedToken .json) := by
    rw [check_mint rfl (Claims.kept_ofDepth 126), if_neg hdeep]
  refine ⟨Claims.kept_ofDepth 126, rfl, rfl, by decide, rfl, hcheck, ?_⟩
  rw [profile?, hcheck]

end TokenAuthority

end AccessGate
