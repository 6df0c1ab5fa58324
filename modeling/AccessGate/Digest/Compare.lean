import AccessGate.Text.Octets

/-!
# Comparing secrets without telling where they differ

Two texts of the same length are compared octet by octet, always to the end: every differing bit is
kept in an accumulator, and only its final value decides.
-/

namespace AccessGate.Digest

/-- Collect the bits in which two octet lists differ. -/
def differences (acc : UInt8) : List UInt8 → List UInt8 → UInt8
  | a :: as, b :: bs => differences (acc ||| (a ^^^ b)) as bs
  | _, _ => acc

/-- Are two texts the same? The time taken depends on their lengths alone. -/
def secureCompare (a b : String) : Bool :=
  let x := Text.octets a
  let y := Text.octets b
  x.length == y.length && differences 0 x y == 0

end AccessGate.Digest
