import AccessGate.Proofs.CookieField
import AccessGate.Proofs.OctetText
import AccessGate.Proofs.Registrations

/-! # The form of a key

    A key is `wdn_` with 16 to 196 letters, digits, dashes and underscores behind it.  The
    check counts octets, and it does so before it looks at any character, so what a text
    that is no key is told depends on the order: `Has` says when a text has a fault, and
    `check_eq_error_iff` that it is told the first one in the order of `faults`.

    A text without a fault has characters of one octet only, so octets and characters come
    to the same (`check_eq_ok_iff`).  The keys that are made of random octets have the form,
    whatever the octets are, so each of them can be registered (`form_of_keys`). -/

namespace AccessGate

/-! ## What is written in the alphabet of URLs -/

namespace Encoding.Base64

/-- Three octets take four characters, and what is left takes one more than it has octets. -/
theorem length_encode (octets : List UInt8) :
    (encode urlSafe octets).length = (octets.length * 4 + 2) / 3 := by
  fun_induction encode urlSafe octets with
  | case1 => rfl
  | case2 x =>
      show 2 = (1 * 4 + 2) / 3
      omega
  | case3 x y =>
      show 3 = (2 * 4 + 2) / 3
      omega
  | case4 x y z rest ih =>
      simp only [List.length_cons, ih]
      omega

end Encoding.Base64

/-- A text of small characters has an octet for each of them. -/
theorem Text.length_octets_of_ascii {s : String} (h : ∀ c ∈ s.toList, c.toNat < 128) :
    (octets s).length = s.toList.length := by
  rw [octets_eq]
  generalize s.toList = l at h
  induction l with
  | nil => rfl
  | cons c rest ih =>
      obtain ⟨hc, hrest⟩ := List.forall_mem_cons.mp h
      have hsize : c.utf8Size = 1 := by
        rw [Char.utf8Size_eq_one_iff, UInt32.le_iff_toNat_le]
        exact Nat.lt_succ_iff.mp hc
      rw [List.flatMap_cons, List.length_append, String.length_utf8EncodeChar, hsize, ih hrest,
        List.length_cons, Nat.add_comm]

namespace ApiKeyText

variable {key : String} {body : List Char} {fault other : KeyFault} {c : Char}

/-! ## Keys and faults -/

/-- A letter, a digit, a dash or an underscore. -/
def IsSign (c : Char) : Prop :=
  'A' ≤ c ∧ c ≤ 'Z' ∨ 'a' ≤ c ∧ c ≤ 'z' ∨ '0' ≤ c ∧ c ≤ '9' ∨ c = '-' ∨ c = '_'

/-- The form of a key. -/
def Formed (key : String) : Prop :=
  ∃ body : List Char, key.toList = start.toList ++ body ∧ 16 ≤ body.length ∧ body.length ≤ 196 ∧
    ∀ c ∈ body, IsSign c

/-- A text has a fault.  Its length is counted in octets. -/
def Has (key : String) : KeyFault → Prop
  | .wrongStart => ¬ start.toList <+: key.toList
  | .tooShort => (Text.octets key).length < 20
  | .tooLong => 200 < (Text.octets key).length
  | .badCharacter => ∃ c ∈ key.toList.drop start.toList.length, ¬ IsSign c

/-- The faults in the order in which they are looked for. -/
def faults : List KeyFault := [.wrongStart, .tooShort, .tooLong, .badCharacter]

/-- A fault is the first one that a text has. -/
structure First (key : String) (fault : KeyFault) : Prop where
  has : Has key fault
  hasNot : ∀ other ∈ faults.takeWhile (· ≠ fault), ¬ Has key other

/-- No two faults are the first one. -/
theorem First.unique (h : First key fault) (h' : First key other) : fault = other := by
  have hordered : fault = other ∨ fault ∈ faults.takeWhile (· ≠ other) ∨
      other ∈ faults.takeWhile (· ≠ fault) := by
    cases fault <;> cases other <;> decide
  rcases hordered with heq | hbefore | hbefore
  · exact heq
  · exact absurd h.has (h'.hasNot _ hbefore)
  · exact absurd h'.has (h.hasNot _ hbefore)

theorem isKeyChar_iff : isKeyChar c = true ↔ IsSign c := by
  simp only [isKeyChar, Http.isAlnum, Bool.or_eq_true, Bool.and_eq_true, decide_eq_true_eq,
    beq_iff_eq, IsSign]
  tauto

theorem toNat_of_isSign (h : IsSign c) : c.toNat < 128 := by
  have hle : ∀ last : Char, last.toNat < 128 → c ≤ last → c.toNat < 128 := fun last hlast h =>
    Nat.lt_of_le_of_lt (UInt32.le_iff_toNat_le.mp h) hlast
  rcases h with ⟨-, h⟩ | ⟨-, h⟩ | ⟨-, h⟩ | rfl | rfl
  · exact hle 'Z' (by decide) h
  · exact hle 'z' (by decide) h
  · exact hle '9' (by decide) h
  · decide
  · decide

/-- The octets of a text that goes on with signs behind the start. -/
theorem length_octets_of_signs (hbody : key.toList = start.toList ++ body)
    (hsigns : ∀ c ∈ body, IsSign c) : (Text.octets key).length = 4 + body.length := by
  have hstart : start.toList.all (fun c => c.toNat < 128) = true := rfl
  have hascii : ∀ c ∈ key.toList, c.toNat < 128 := by
    rw [hbody]
    exact List.forall_mem_append.mpr
      ⟨fun c hc => of_decide_eq_true (List.all_eq_true.mp hstart c hc),
        fun c hc => toNat_of_isSign (hsigns c hc)⟩
  rw [Text.length_octets_of_ascii hascii, hbody, List.length_append]
  rfl

/-! ## The check -/

theorem check_of_wrongStart (h : Has key .wrongStart) : check key = .error .wrongStart := by
  have hnone : start.toList.isPrefixOf? key.toList = none := by
    rw [Option.eq_none_iff_forall_ne_some]
    intro body hbody
    exact h ⟨body, List.isPrefixOf?_eq_some_iff_append_eq.mp hbody⟩
  rw [check, hnone]

/-- Behind the start, the length is looked at before the characters. -/
theorem check_of_body (hbody : key.toList = start.toList ++ body) :
    check key
      = if (Text.octets key).length < 20 then .error .tooShort
        else if 200 < (Text.octets key).length then .error .tooLong
        else if body.all isKeyChar then .ok () else .error .badCharacter := by
  rw [check, List.isPrefixOf?_eq_some_iff_append_eq.mpr hbody.symm]
  rfl

theorem has_badCharacter_iff (hbody : key.toList = start.toList ++ body) :
    Has key .badCharacter ↔ ¬ body.all isKeyChar = true := by
  have hdrop : key.toList.drop start.toList.length = body := by
    rw [hbody, List.drop_left]
  simp only [Has, hdrop, List.all_eq_true, isKeyChar_iff, not_forall, exists_prop]

/-- What a text is told that is no key. -/
theorem first_of_check (h : check key = .error fault) : First key fault := by
  by_cases hstart : Has key .wrongStart
  · cases (check_of_wrongStart hstart).symm.trans h
    exact ⟨hstart, List.forall_mem_nil _⟩
  · obtain ⟨body, hbody⟩ := not_not.mp hstart
    rw [check_of_body hbody.symm] at h
    split at h
    · next hshort =>
      cases h
      exact ⟨hshort, List.forall_mem_singleton.mpr hstart⟩
    · next hshort =>
      split at h
      · next hlong =>
        cases h
        exact ⟨hlong, List.forall_mem_cons.mpr ⟨hstart, List.forall_mem_singleton.mpr hshort⟩⟩
      · next hlong =>
        split at h
        · cases h
        · next hsigns =>
          cases h
          exact ⟨(has_badCharacter_iff hbody.symm).mpr hsigns,
            List.forall_mem_cons.mpr ⟨hstart,
              List.forall_mem_cons.mpr ⟨hshort, List.forall_mem_singleton.mpr hlong⟩⟩⟩

/-- What passes the check has the form of a key. -/
theorem formed_of_check (h : check key = .ok ()) : Formed key := by
  by_cases hstart : Has key .wrongStart
  · cases (check_of_wrongStart hstart).symm.trans h
  · obtain ⟨body, hbody⟩ := not_not.mp hstart
    rw [check_of_body hbody.symm] at h
    split at h
    · cases h
    · next hshort =>
      split at h
      · cases h
      · next hlong =>
        split at h
        · next hsigns =>
          have hsigns : ∀ c ∈ body, IsSign c := fun c hc =>
            isKeyChar_iff.mp (List.all_eq_true.mp hsigns c hc)
          have hlength := length_octets_of_signs hbody.symm hsigns
          exact ⟨body, hbody.symm, by omega, by omega, hsigns⟩
        · cases h

/-- A text of the form of a key has no fault. -/
theorem Formed.hasNot (h : Formed key) (fault : KeyFault) : ¬ Has key fault := by
  obtain ⟨body, hbody, hshort, hlong, hsigns⟩ := h
  have hlength := length_octets_of_signs hbody hsigns
  cases fault with
  | wrongStart => exact not_not.mpr ⟨body, hbody.symm⟩
  | tooShort =>
      show ¬ (Text.octets key).length < 20
      omega
  | tooLong =>
      show ¬ 200 < (Text.octets key).length
      omega
  | badCharacter =>
      rw [has_badCharacter_iff hbody, not_not, List.all_eq_true]
      exact fun c hc => isKeyChar_iff.mpr (hsigns c hc)

/-- The check lets through just what has the form of a key. -/
theorem check_eq_ok_iff : check key = .ok () ↔ Formed key := by
  refine ⟨formed_of_check, fun h => ?_⟩
  cases hcheck : check key with
  | ok _ => rfl
  | error fault => exact absurd (first_of_check hcheck).has (h.hasNot fault)

/-- Any other text is told the first of its faults. -/
theorem check_eq_error_iff : check key = .error fault ↔ First key fault := by
  refine ⟨first_of_check, fun h => ?_⟩
  cases hcheck : check key with
  | ok _ => exact absurd h.has ((formed_of_check hcheck).hasNot fault)
  | error other => rw [(first_of_check hcheck).unique h]

/-! ## Keys that are made -/

theorem isSign_urlSafe (n : Nat) : IsSign (Encoding.Base64.urlSafe.char n) := by
  rw [← isKeyChar_iff]
  by_cases hn : n < 63
  · have hbelow : ∀ n : Fin 63, isKeyChar (Encoding.Base64.urlSafe.char n) = true := by decide
    exact hbelow ⟨n, hn⟩
  · rw [Encoding.Base64.Alphabet.char, if_neg (by omega), if_neg (by omega), if_neg (by omega),
      if_neg (by omega)]
    rfl

/-- A key made of random octets has the form of a key. -/
theorem formed_ofOctets {octets : List UInt8} (h : octets.length = octetCount) :
    Formed (ofOctets octets) := by
  have hlength := Encoding.Base64.length_encode octets
  rw [h, octetCount] at hlength
  refine ⟨Encoding.Base64.encode Encoding.Base64.urlSafe octets, ?_, by omega, by omega,
    Encoding.Base64.forall_mem_encode isSign_urlSafe octets⟩
  rw [ofOctets, String.toList_append, Encoding.Base64.urlText, String.toList_ofList]

/-- The check lets through the texts that have the form of a key, and tells every other text
    the first of its faults.  A key that is made of random octets passes, so it is registered
    for whatever user. -/
theorem form_of_keys :
    (∀ key, check key = .ok () ↔ Formed key) ∧
      (∀ key fault, check key = .error fault ↔ First key fault) ∧
      ∀ (octets : Vector UInt8 octetCount) (k : ApiKeys) (user : String) (roles : List String),
        check (ofOctets octets.toList) = .ok () ∧
          ∃ k', k.register (ofOctets octets.toList) user roles = .ok k' ∧
            k'.isRegistered (ofOctets octets.toList) = true := by
  refine ⟨fun key => check_eq_ok_iff, fun key fault => check_eq_error_iff,
    fun octets k user roles => ?_⟩
  have hcheck : check (ofOctets octets.toList) = .ok () :=
    check_eq_ok_iff.mpr (formed_ofOctets octets.length_toList)
  refine ⟨hcheck, ?_⟩
  rcases k.register_eq (ofOctets octets.toList) user roles with
    ⟨-, hregister⟩ | ⟨-, fault, hfault, -⟩
  · refine ⟨_, hregister, ?_⟩
    rw [ApiKeys.isRegistered, Dict.contains, Dict.get?_insert_self]
    rfl
  · cases hcheck.symm.trans hfault

end ApiKeyText

end AccessGate
