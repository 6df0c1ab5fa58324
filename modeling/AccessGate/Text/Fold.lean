/-!
# Names up to ASCII case

Client, matcher and authorizer names are compared with the letters `A` to `Z` taken as `a` to `z`. No
other character has a case here: the names `É` and `é` are different.
-/

namespace AccessGate.Text

/-- The lower-case letter of an ASCII capital, every other character as it is. -/
def lowerChar (c : Char) : Char :=
  if 'A' ≤ c ∧ c ≤ 'Z' then Char.ofNat (c.toNat + 32) else c

/-- A text with its ASCII capitals in lower case. -/
def lower (s : String) : String := String.ofList (s.toList.map lowerChar)

/-- Two texts are the same name when they differ at most in the case of ASCII letters. -/
def sameName (a b : String) : Bool := lower a == lower b

@[simp] theorem sameName_self (a : String) : sameName a a = true := by simp [sameName]

theorem sameName_comm (a b : String) : sameName a b = sameName b a := by
  rw [Bool.eq_iff_iff, sameName, sameName, beq_iff_eq, beq_iff_eq]
  exact eq_comm

theorem sameName_trans {a b c : String} (h : sameName a b = true) (k : sameName b c = true) :
    sameName a c = true := by
  simp only [sameName, beq_iff_eq] at *
  exact h.trans k

end AccessGate.Text
