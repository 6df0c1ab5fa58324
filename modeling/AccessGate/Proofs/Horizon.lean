import AccessGate.Credentials.SignedToken
import AccessGate.Proofs.Lookup

/-! # How far a lifetime reaches

    A deadline is an instant of the calendar, and the calendar ends.  A lifetime that leads
    beyond it (`Lifetime.Fits` says when) leaves a store that has to set a deadline without
    an answer, and a move that fails there has already taken the session away.  The seconds
    of a token are counted in 64 bits, so a lifetime that leads beyond those comes back to
    the start of the count, and the token has expired when it is made.

    `lasts_iff_fits` says that these are the limits, for each of the three operations that
    add a lifetime to the present. -/

namespace AccessGate

/-! ## Lifetimes -/

/-- The nanoseconds of an instant from the start of 1970. -/
def Instant.nanos (t : Instant) : Int := t.second * 1000000000 + t.nano

/-- Does the calendar have the instant a lifetime after another? -/
def Lifetime.Fits (d : Lifetime) (now : Instant) : Prop :=
  Instant.firstSecond * 1000000000 ≤ now.nanos + d.nanos ∧
    now.nanos + d.nanos < (Instant.lastSecond + 1) * 1000000000

instance (d : Lifetime) (now : Instant) : Decidable (d.Fits now) :=
  inferInstanceAs (Decidable (_ ∧ _))

namespace Instant

variable {now deadline : Instant} {d : Lifetime}

/-- The instant a lifetime later is the one so many nanoseconds on. -/
theorem add?_eq_some_iff :
    now.add? d = some deadline ↔
      d.Fits now ∧ deadline.nano < 1000000000 ∧ deadline.nanos = now.nanos + d.nanos := by
  have hcalendar := deadline.proper
  simp only [Proper, inCalendar, Bool.and_eq_true, decide_eq_true_eq] at hcalendar
  rw [add?, of?_eq_some_iff, Lifetime.Fits, nanos, nanos]
  omega

/-- There is no deadline just when the lifetime does not fit. -/
theorem add?_eq_none_iff : now.add? d = none ↔ ¬ d.Fits now := by
  rw [add?, of?_eq_none_iff]
  simp only [Proper, inCalendar, Bool.and_eq_true, decide_eq_true_eq, Lifetime.Fits, nanos]
  omega

theorem exists_add? (h : d.Fits now) : ∃ deadline, now.add? d = some deadline :=
  Option.ne_none_iff_exists'.mp fun hnone => add?_eq_none_iff.mp hnone h

end Instant

/-! ## Sessions -/

namespace MemoryStore

variable {m m' : MemoryStore} {lifetime : Lifetime} {now deadline : Instant}
  {id key old new : String} {value : Json} {s : Session}

/-- A session stands under an id that ends a lifetime from now: not before now, if the lifetime
    is not negative. -/
def Lasts (m : MemoryStore) (lifetime : Lifetime) (now : Instant) (id : String) : Prop :=
  ∃ s, m.sessions.get? id = some s ∧ s.deadline.nanos = now.nanos + lifetime.nanos ∧
    (0 ≤ lifetime.nanos → s.isLive now = true)

/-- A session with a new deadline lasts for its lifetime. -/
theorem lasts_of_deadline {values : Dict Json} (hs : m.sessions.get? id = some ⟨values, deadline⟩)
    (hadd : now.add? lifetime = some deadline) : m.Lasts lifetime now id := by
  obtain ⟨-, -, hnanos⟩ := Instant.add?_eq_some_iff.mp hadd
  refine ⟨_, hs, hnanos, fun hlife => ?_⟩
  rw [Session.isLive, Instant.not_before_of_add hadd hlife]
  rfl

/-- A write with a lifetime that fits is done, and the session lasts. -/
theorem set_of_fits (m : MemoryStore) (id key : String) (value : Json) (h : lifetime.Fits now) :
    ∃ m', m.apply lifetime now (.set id key value) = (.ok (), m') ∧ m'.Lasts lifetime now id := by
  obtain ⟨deadline, hadd⟩ := Instant.exists_add? h
  cases hset : m.set? lifetime now id key value with
  | none =>
      rw [set?, hadd] at hset
      cases hset
  | some m' =>
      obtain ⟨deadline, hadd, hget⟩ := sessions_set? hset id
      rw [if_pos rfl] at hget
      refine ⟨m', ?_, lasts_of_deadline hget hadd⟩
      rw [apply, hset]

/-- A write with one that does not fit is not done. -/
theorem set_of_not_fits (h : ¬ lifetime.Fits now) :
    m.apply lifetime now (.set id key value) = (.error .calendar, m) := by
  have hset : m.set? lifetime now id key value = none := by
    rw [set?, Instant.add?_eq_none_iff.mpr h]
    rfl
  rw [apply, hset]

/-- A write is done, and lasts, just when the calendar has the new deadline. -/
theorem set_lasts_iff :
    (∃ m', m.apply lifetime now (.set id key value) = (.ok (), m') ∧ m'.Lasts lifetime now id) ↔
      lifetime.Fits now := by
  constructor
  · rintro ⟨m', hdone, -⟩
    refine Classical.byContradiction fun hfits => ?_
    rw [set_of_not_fits hfits] at hdone
    cases hdone
  · exact set_of_fits m id key value

/-- A write that is not done changes nothing. -/
theorem set_fails_iff :
    m.apply lifetime now (.set id key value) = (.error .calendar, m) ↔ ¬ lifetime.Fits now := by
  constructor
  · intro hfails hfits
    obtain ⟨m', hdone, -⟩ := set_of_fits m id key value hfits
    rw [hfails] at hdone
    cases hdone
  · exact set_of_not_fits

/-- A session is live if it is there and has not ended. -/
theorem live?_eq_some : m.live? now id = some s ↔ m.sessions.get? id = some s ∧ s.isLive now = true :=
  Option.filter_eq_some_iff

/-- There is nothing to do for a session that is not there or has ended. -/
theorem renew_of_not_live (lifetime : Lifetime) (new : String) (h : m.live? now old = none) :
    ∃ m', m.renew lifetime now old new = (.ok (), m') := by
  cases hs : m.sessions.get? old with
  | none => exact ⟨_, renew_of_none hs⟩
  | some s =>
      have hended : s.isLive now = false := Bool.eq_false_iff.mpr fun hl => by
        rw [live?_eq_some.mpr ⟨hs, hl⟩] at h
        cases h
      exact ⟨_, renew_of_ended hs hended⟩

/-- A move with a lifetime that fits is done, and the session lasts. -/
theorem renew_of_fits (new : String) (hs : m.live? now old = some s) (h : lifetime.Fits now) :
    ∃ m', m.renew lifetime now old new = (.ok (), m') ∧ m'.Lasts lifetime now new := by
  obtain ⟨hs, hl⟩ := live?_eq_some.mp hs
  obtain ⟨deadline, hadd⟩ := Instant.exists_add? h
  exact ⟨_, renew_of_live hs hl hadd, lasts_of_deadline (Dict.get?_insert_self _ _ _) hadd⟩

/-- A move that fails has taken the session away. -/
theorem renew_of_not_fits (hs : m.live? now old = some s) (h : ¬ lifetime.Fits now) :
    m.renew lifetime now old new = (.error .calendar, m.destroy old) := by
  obtain ⟨hs, hl⟩ := live?_eq_some.mp hs
  exact renew_of_outside hs hl (Instant.add?_eq_none_iff.mpr h)

/-- A move is done, and what it moves lasts, just when there is nothing to move or the calendar
    has the new deadline. -/
theorem renew_lasts_iff :
    (∃ m', m.renew lifetime now old new = (.ok (), m') ∧
        (m.live? now old = none ∨ m'.Lasts lifetime now new)) ↔
      m.live? now old = none ∨ lifetime.Fits now := by
  cases hs : m.live? now old with
  | none =>
      obtain ⟨m', hdone⟩ := renew_of_not_live lifetime new hs
      exact iff_of_true ⟨m', hdone, .inl rfl⟩ (.inl rfl)
  | some s =>
      rw [or_iff_right (Option.some_ne_none s)]
      constructor
      · rintro ⟨m', hdone, -⟩
        refine Classical.byContradiction fun hfits => ?_
        rw [renew_of_not_fits hs hfits] at hdone
        cases hdone
      · intro hfits
        obtain ⟨m', hdone, hlasts⟩ := renew_of_fits new hs hfits
        exact ⟨m', hdone, .inr hlasts⟩

/-- A move that is not done takes the session away, and is one of a session that lives. -/
theorem renew_fails_iff :
    m.renew lifetime now old new = (.error .calendar, m.destroy old) ↔
      m.live? now old ≠ none ∧ ¬ lifetime.Fits now := by
  cases hs : m.live? now old with
  | none =>
      obtain ⟨m', hdone⟩ := renew_of_not_live lifetime new hs
      rw [hdone]
      exact iff_of_false (fun h => by cases h) fun h => h.1 rfl
  | some s =>
      rw [and_iff_right (Option.some_ne_none s)]
      constructor
      · intro hfails hfits
        obtain ⟨m', hdone, -⟩ := renew_of_fits new hs hfits
        rw [hfails] at hdone
        cases hdone
      · exact renew_of_not_fits hs

end MemoryStore

/-! ## Tokens -/

namespace Claims

variable (second seconds : UInt64) (tokenId subject issuer audience : String)
  (roles : Option (List String))

/-- Fresh claims end when they were issued or later just when 64 bits hold the end. -/
theorem issued_le_expires_iff :
    (fresh second tokenId subject issuer audience seconds roles).issued
        ≤ (fresh second tokenId subject issuer audience seconds roles).expires ↔
      second.toNat + seconds.toNat < UInt64.size := by
  have hsecond : second.toNat < UInt64.size := second.toNat_lt
  have hseconds : seconds.toNat < UInt64.size := seconds.toNat_lt
  rw [UInt64.le_iff_toNat_le]
  show second.toNat ≤ (second + seconds).toNat ↔ _
  have hsize : 2 ^ 64 = UInt64.size := rfl
  rw [UInt64.toNat_add, hsize]
  by_cases hfits : second.toNat + seconds.toNat < UInt64.size
  · rw [Nat.mod_eq_of_lt hfits]
    exact iff_of_true (Nat.le_add_right _ _) hfits
  · -- the sum is short of twice the count, so it comes back once
    have hback : (second.toNat + seconds.toNat) % UInt64.size
        = second.toNat + seconds.toNat - UInt64.size :=
      (Nat.mod_eq_sub_mod (Nat.le_of_not_lt hfits)).trans (Nat.mod_eq_of_lt (by omega))
    rw [hback]
    exact iff_of_false (by omega) hfits

/-- Fresh claims are not expired just when their end can be counted. -/
theorem not_expired_iff :
    (fresh second tokenId subject issuer audience seconds roles).isExpired second = false ↔
      second.toNat + seconds.toNat < UInt64.size := by
  rw [← issued_le_expires_iff second seconds tokenId subject issuer audience roles, isExpired,
    decide_eq_false_iff_not, UInt64.not_lt]
  exact Iff.rfl

end Claims

/-- How far a lifetime may lead.  A write to a session is done, and sets a deadline a lifetime
    from now, just when the calendar has that instant, and so is a move of a session that
    lives; a write that fails changes nothing, and a move that fails has lost the session.
    Fresh claims end no earlier than they were issued, and have not expired when they are
    made, just when 64 bits hold the second of their end. -/
theorem lasts_iff_fits (m : MemoryStore) (lifetime : Lifetime) (now : Instant)
    (id key old new : String) (value : Json) (second seconds : UInt64)
    (tokenId subject issuer audience : String) (roles : Option (List String)) :
    ((∃ m', m.apply lifetime now (.set id key value) = (.ok (), m') ∧ m'.Lasts lifetime now id) ↔
        lifetime.Fits now) ∧
    (m.apply lifetime now (.set id key value) = (.error .calendar, m) ↔ ¬ lifetime.Fits now) ∧
    ((∃ m', m.renew lifetime now old new = (.ok (), m') ∧
        (m.live? now old = none ∨ m'.Lasts lifetime now new)) ↔
      m.live? now old = none ∨ lifetime.Fits now) ∧
    (m.renew lifetime now old new = (.error .calendar, m.destroy old) ↔
      m.live? now old ≠ none ∧ ¬ lifetime.Fits now) ∧
    let claims := Claims.fresh second tokenId subject issuer audience seconds roles
    (claims.issued ≤ claims.expires ↔ second.toNat + seconds.toNat < UInt64.size) ∧
      (claims.isExpired second = false ↔ second.toNat + seconds.toNat < UInt64.size) := by
  refine ⟨MemoryStore.set_lasts_iff, MemoryStore.set_fails_iff, MemoryStore.renew_lasts_iff,
    MemoryStore.renew_fails_iff, ?_, ?_⟩
  · exact Claims.issued_le_expires_iff second seconds tokenId subject issuer audience roles
  · exact Claims.not_expired_iff second seconds tokenId subject issuer audience roles

/-- The longest lifetime that a host can give, in milliseconds of 64 bits, is beyond the
    calendar: nothing is written with it, and a session with a full cart is lost when it is
    moved.  The longest that it can give to a token ends the token before it begins. -/
theorem forever_does_not_last :
    let lifetime := Lifetime.ofMillis Int64.maxValue.toInt
    let now : Instant := .mk 1770000000 0
    let cart : Session := ⟨Dict.empty.insert "cart" (.str "full"), .mk 1770000060 0⟩
    let m : MemoryStore := ⟨Dict.empty.insert "s" cart⟩
    let claims := Claims.fresh 1770000000 "id" "jdoe" "warden" "api" (.ofNat (UInt64.size - 1)) none
    m.apply lifetime now (.set "s" "cart" (.str "empty")) = (.error .calendar, m) ∧
      m.get? now "s" "cart" = some (.str "full") ∧
      m.renew lifetime now "s" "t" = (.error .calendar, .empty) ∧
      claims.issued = 1770000000 ∧ claims.expires = 1769999999 ∧
      claims.isExpired 1770000000 = true := by
  intro lifetime now cart m claims
  have hbeyond : ¬ lifetime.Fits now := by decide +kernel
  have hlive : m.live? now "s" = some cart := by decide +kernel
  have hcart : m.get? now "s" "cart" = some (.str "full") := by decide +kernel
  refine ⟨MemoryStore.set_of_not_fits hbeyond, hcart, ?_, rfl, rfl, rfl⟩
  rw [MemoryStore.renew_of_not_fits hlive hbeyond]
  rfl

end AccessGate
