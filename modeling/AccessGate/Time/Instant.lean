import AccessGate.Time.Calendar

/-!
# Instants and lifetimes — when a session ends, when a profile goes stale

An instant counts seconds from the start of 1970 and nanoseconds within the second. Within a leap second
the nanoseconds go on from a thousand million, so the order of instants is the order of the pairs. The
calendar ends: adding a lifetime to an instant may leave it, and then there is no answer.
-/

namespace AccessGate

namespace Instant

/-- The first second of the calendar. -/
def firstSecond : Int := Calendar.dayNumber Calendar.firstYear 1 1 * 86400

/-- The last second of the calendar. -/
def lastSecond : Int := Calendar.dayNumber Calendar.lastYear 12 31 * 86400 + 86399

/-- Is a second within the calendar? -/
def inCalendar (second : Int) : Bool := firstSecond ≤ second && second ≤ lastSecond

/-- The numbers of an instant: a second of the calendar, and nanoseconds that are fewer than a second
    has. The last second of a minute may be followed by a leap second. -/
def Proper (second : Int) (nano : Nat) : Prop :=
  inCalendar second = true ∧ (nano < 1000000000 ∨ nano < 2000000000 ∧ second % 60 = 59)

instance (second : Int) (nano : Nat) : Decidable (Proper second nano) :=
  inferInstanceAs (Decidable (_ ∧ _))

end Instant

/-- A point in time, in universal time. -/
@[ext] structure Instant where
  second : Int
  nano : Nat
  proper : Instant.Proper second nano := by decide
  deriving DecidableEq, Repr

namespace Instant

/-- The start of 1970. -/
def epoch : Instant := .mk 0 0

instance : Inhabited Instant := ⟨epoch⟩

/-- The instant of two numbers, if they are those of one. -/
def of? (second : Int) (nano : Nat) : Option Instant :=
  if h : Proper second nano then some ⟨second, nano, h⟩ else none

/-- The instant at which a whole second begins, within the calendar. -/
def ofSecond? (second : Int) : Option Instant := of? second 0

/-- Is the first instant earlier than the second? -/
def before (a b : Instant) : Bool :=
  a.second < b.second || (a.second == b.second && a.nano < b.nano)

/-- An instant is found by its own numbers only. -/
theorem of?_eq_some_iff {second : Int} {nano : Nat} {t : Instant} :
    of? second nano = some t ↔ t.second = second ∧ t.nano = nano := by
  rw [of?]
  constructor
  · intro h
    split at h
    · cases h
      exact ⟨rfl, rfl⟩
    · cases h
  · rintro ⟨rfl, rfl⟩
    exact dif_pos t.proper

theorem of?_eq_none_iff {second : Int} {nano : Nat} :
    of? second nano = none ↔ ¬ Proper second nano := by
  rw [of?]
  split <;> simp [*]

theorem before_irrefl (a : Instant) : a.before a = false := by simp [before]

/-- What does not come before is a matter of order too. -/
theorem not_before_trans {a b c : Instant} (h : b.before a = false) (k : c.before b = false) :
    c.before a = false := by
  simp only [before, Bool.or_eq_false_iff, Bool.and_eq_false_iff, beq_eq_false_iff_ne,
    decide_eq_false_iff_not] at *
  omega

end Instant

/-- A length of time in nanoseconds; it may be negative. -/
structure Lifetime where
  nanos : Int
  deriving DecidableEq, Repr, Inhabited

namespace Lifetime

/-- A number of milliseconds. -/
def ofMillis (n : Int) : Lifetime := ⟨n * 1000000⟩

/-- A number of minutes. -/
def ofMinutes (n : Int) : Lifetime := ⟨n * 60000000000⟩

end Lifetime

/-- The instant a lifetime later, if the calendar has it. -/
def Instant.add? (t : Instant) (d : Lifetime) : Option Instant :=
  let total := t.second * 1000000000 + t.nano + d.nanos
  Instant.of? (total / 1000000000) (total % 1000000000).toNat

/-- A lifetime that is not negative leads to no earlier instant. -/
theorem Instant.not_before_of_add {t deadline : Instant} {d : Lifetime}
    (h : t.add? d = some deadline) (hd : 0 ≤ d.nanos) : deadline.before t = false := by
  obtain ⟨hsecond, hnano⟩ := Instant.of?_eq_some_iff.mp h
  simp only [Instant.before, Bool.or_eq_false_iff, Bool.and_eq_false_iff, beq_eq_false_iff_ne,
    decide_eq_false_iff_not]
  omega

end AccessGate
