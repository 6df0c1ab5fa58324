import AccessGate.Digest.Compare
import Mathlib.Data.List.Forall2

/-! # Comparing to the end

    Two texts are compared through an accumulator that goes over their octets pair by pair.
    It is best read as a set of bits: a step adds the bits in which its two octets differ and
    takes none away (`testBit_step`), so at the end it holds just the bits in which some pair
    differs (`testBit_differences`), wherever the pair stands and however many others there
    are.  It is zero just when no pair differs (`differences_eq_zero_iff`).

    The accumulator sees as many pairs as the shorter text has octets.  What stands behind
    them is told by the lengths, so together they tell every two texts apart
    (`secureCompare_eq`). -/

namespace AccessGate

namespace Digest

variable {acc a b : UInt8} {x y : List UInt8} {i : Nat}

/-! ## Bits -/

/-- Do the octets of a pair differ in a bit? -/
def DiffersAt (i : Nat) (p : UInt8 × UInt8) : Prop := p.1.toNat.testBit i ≠ p.2.toNat.testBit i

/-- Octets are the same just when they differ in no bit. -/
theorem eq_iff_not_differsAt : a = b ↔ ∀ i, ¬ DiffersAt i (a, b) := by
  constructor
  · rintro rfl i hdiffers
    exact hdiffers rfl
  · intro h
    exact UInt8.toNat_inj.mp (Nat.eq_of_testBit_eq fun i => not_not.mp (h i))

/-- An octet is zero just when it has no bit. -/
theorem eq_zero_iff_testBit : a = 0 ↔ ∀ i, ¬ a.toNat.testBit i = true := by
  constructor
  · rintro rfl i hbit
    rw [UInt8.toNat_zero, Nat.zero_testBit] at hbit
    cases hbit
  · intro h
    refine UInt8.toNat_inj.mp (Nat.eq_of_testBit_eq fun i => ?_)
    rw [UInt8.toNat_zero, Nat.zero_testBit]
    exact Bool.eq_false_iff.mpr (h i)

/-! ## The accumulator -/

/-- One step keeps the bits that the accumulator has and adds those in which the two octets
    differ. -/
theorem testBit_step :
    (acc ||| (a ^^^ b)).toNat.testBit i = true
      ↔ acc.toNat.testBit i = true ∨ DiffersAt i (a, b) := by
  rw [UInt8.toNat_or, UInt8.toNat_xor, Nat.testBit_or, Nat.testBit_xor, Bool.or_eq_true,
    bne_iff_ne]
  rfl

/-- At the end the accumulator has the bits that it began with and those in which some pair
    differs. -/
theorem testBit_differences :
    (differences acc x y).toNat.testBit i = true
      ↔ acc.toNat.testBit i = true ∨ ∃ p ∈ x.zip y, DiffersAt i p := by
  induction x generalizing acc y with
  | nil => simp [differences]
  | cons a x ih =>
      cases y with
      | nil => simp [differences]
      | cons b y => rw [differences, ih, testBit_step, List.zip_cons_cons,
          List.exists_mem_cons_iff, or_assoc]

/-- No pair that differs can take back the bits of an earlier one. -/
theorem differences_eq_zero_iff :
    differences acc x y = 0 ↔ acc = 0 ∧ ∀ p ∈ x.zip y, p.1 = p.2 := by
  constructor
  · intro hzero
    have hnone : ∀ i, ¬ (acc.toNat.testBit i = true ∨ ∃ p ∈ x.zip y, DiffersAt i p) :=
      fun i hbit => eq_zero_iff_testBit.mp hzero i (testBit_differences.mpr hbit)
    refine ⟨eq_zero_iff_testBit.mpr fun i hacc => hnone i (.inl hacc), ?_⟩
    rintro ⟨a, b⟩ hp
    exact eq_iff_not_differsAt.mpr fun i hdiffers => hnone i (.inr ⟨(a, b), hp, hdiffers⟩)
  · rintro ⟨hacc, hsame⟩
    refine eq_zero_iff_testBit.mpr fun i hbit => ?_
    rcases testBit_differences.mp hbit with hold | ⟨p, hp, hdiffers⟩
    · exact eq_zero_iff_testBit.mp hacc i hold
    · exact eq_iff_not_differsAt.mp (hsame p hp) i hdiffers

/-! ## Texts -/

/-- Lists are the same when they have one length and agree pair by pair. -/
theorem eq_iff_length_and_zip : x = y ↔ x.length = y.length ∧ ∀ p ∈ x.zip y, p.1 = p.2 := by
  have hpairs : List.Forall₂ (· = ·) x y ↔ x = y := by
    rw [List.forall₂_eq_eq_eq]
  rw [← hpairs, List.forall₂_iff_zip, Prod.forall]

theorem secureCompare_eq {a b : String} : secureCompare a b = (a == b) := by
  rw [Bool.eq_iff_iff, beq_iff_eq, ← Text.octets_inj, eq_iff_length_and_zip]
  show ((Text.octets a).length == (Text.octets b).length
    && differences 0 (Text.octets a) (Text.octets b) == 0) = true ↔ _
  rw [Bool.and_eq_true, beq_iff_eq, beq_iff_eq, differences_eq_zero_iff, eq_self, true_and]

/-- Texts compare as the same just when they are.  For any two lists of octets the
    accumulator is zero just when every pair of octets is equal: a bit is in it just when
    some pair differs in the bit, wherever the pair stands and whatever the others are. -/
theorem compares_whole :
    (∀ a b : String, secureCompare a b = true ↔ a = b) ∧
      ∀ x y : List UInt8,
        (differences 0 x y = 0 ↔ ∀ p ∈ x.zip y, p.1 = p.2) ∧
          ∀ i, (differences 0 x y).toNat.testBit i = true ↔ ∃ p ∈ x.zip y, DiffersAt i p := by
  refine ⟨fun a b => ?_, fun x y => ⟨?_, fun i => ?_⟩⟩
  · rw [secureCompare_eq, beq_iff_eq]
  · rw [differences_eq_zero_iff, eq_self, true_and]
  · rw [testBit_differences, UInt8.toNat_zero, Nat.zero_testBit, Bool.false_eq_true, false_or]

/-- The two differences are the same bits, so they would cancel if bits were not kept. -/
example : secureCompare "ab" "ba" = false := by decide +kernel

/-- The beginning of a text differs from it in no pair; its length gives it away. -/
example : differences 0 (Text.octets "hello") (Text.octets "hello world") = 0
    ∧ secureCompare "hello" "hello world" = false := by decide +kernel

end Digest

end AccessGate
