/-!
# Network addresses as hosts

A host that ends in a number is an address of four octets. It may be given by fewer numbers, the last of
which fills the octets that are left, and each number may be decimal, octal after `0` or hexadecimal after
`0x`. An address of eight groups stands in brackets; one stretch of zero groups may be left out, and the
last two groups may be given as four octets.
-/

namespace AccessGate.Url

/-- The value of a digit up to a base. -/
def digit? (base : Nat) (c : Char) : Option Nat :=
  let n := c.toNat
  let value :=
    if 48 ≤ n ∧ n ≤ 57 then some (n - 48)
    else if 97 ≤ n ∧ n ≤ 102 then some (n - 87)
    else if 65 ≤ n ∧ n ≤ 70 then some (n - 55)
    else none
  value.filter (· < base)

/-- The value of digits. -/
def number? (base : Nat) (s : List Char) : Option Nat :=
  s.foldlM (fun acc c => (digit? base c).map (acc * base + ·)) 0

namespace Ipv4

/-- Read one number of an address. -/
def part? : List Char → Option Nat
  | [] => none
  | '0' :: 'x' :: s => number? 16 s
  | '0' :: 'X' :: s => number? 16 s
  | '0' :: c :: s => number? 8 (c :: s)
  | s => number? 10 s

/-- The parts between dots. A dot at the end does not count. -/
def parts (s : List Char) : List (List Char) :=
  let all := s.splitOn '.'
  if all.length > 1 && all.getLast? == some [] then all.dropLast else all

/-- Does a host end in a number, so that it must be an address? -/
def isMeant (s : List Char) : Bool :=
  match (parts s).getLast? with
  | some last => (!last.isEmpty && last.all Char.isDigit) || (part? last).isSome
  | none => false

/-- Put octets before the last number. -/
def join (last : Nat) : Nat → List Nat → Nat
  | _, [] => last
  | place, n :: rest => n * Nat.pow 256 place + join last (place - 1) rest

/-- Read an address as one number. -/
def read? (s : List Char) : Option Nat := do
  let numbers ← (parts s).mapM part?
  let last ← numbers.getLast?
  let octets := numbers.dropLast
  if octets.length ≤ 3 && octets.all (· ≤ 255) && last < Nat.pow 256 (4 - octets.length) then
    some (join last 3 octets)
  else none

/-- The written form of an address. -/
def write (address : Nat) : List Char :=
  let octet := fun place => Nat.toDigits 10 (address / Nat.pow 256 place % 256)
  octet 3 ++ '.' :: octet 2 ++ '.' :: octet 1 ++ '.' :: octet 0

end Ipv4

namespace Ipv6

/-- Read one group. -/
def group? (s : List Char) : Option Nat :=
  if s.isEmpty || s.length > 4 then none else number? 16 s

/-- Read one of the four octets at the end: decimal, without leading zeros. -/
def octet? (s : List Char) : Option Nat :=
  if s.isEmpty || (s.length > 1 && s.head? == some '0') then none
  else (number? 10 s).filter (· ≤ 255)

/-- Read the last part: a group, or four octets as two groups. -/
def tail? (s : List Char) : Option (List Nat) :=
  if s.contains '.' then do
    match ← (s.splitOn '.').mapM octet? with
    | [a, b, c, d] => some [a * 256 + b, c * 256 + d]
    | _ => none
  else (group? s).map fun g => [g]

/-- Read groups with colons between them; the last may be four octets. -/
def groups? (s : List Char) : Option (List Nat) :=
  if s.isEmpty then some []
  else do
    let parts := s.splitOn ':'
    return (← parts.dropLast.mapM group?) ++ (← tail? (parts.getLast?.getD []))

/-- Split at the first two colons in a row. -/
def splitGap : List Char → List Char × Option (List Char)
  | ':' :: ':' :: rest => ([], some rest)
  | c :: rest =>
    let (before, after) := splitGap rest
    (c :: before, after)
  | [] => ([], none)

/-- Read the eight groups of an address. -/
def read? (s : List Char) : Option (List Nat) :=
  match splitGap s with
  | (all, none) => (groups? all).filter fun l => l.length == 8
  | (before, some after) => do
    let head ← groups? before
    let tail ← groups? after
    if before.contains '.' || head.length + tail.length > 7 then none
    else some (head ++ List.replicate (8 - head.length - tail.length) 0 ++ tail)

/-- The number of zeros at the start. -/
def zeros (groups : List Nat) : Nat := (groups.takeWhile (· == 0)).length

/-- The length of the longest stretch of zeros. -/
def longestGap : List Nat → Nat
  | [] => 0
  | g :: rest => max (zeros (g :: rest)) (longestGap rest)

/-- Groups with colons between them. -/
def writeGroups (groups : List Nat) : List Char :=
  List.intercalate [':'] (groups.map (Nat.toDigits 16))

/-- The groups before the first stretch of so many zeros. -/
def beforeGap (length : Nat) : List Nat → List Nat
  | [] => []
  | g :: rest => if zeros (g :: rest) = length then [] else g :: beforeGap length rest

/-- The written form of an address: the first of the longest stretches of at least two zeros is left
    out. -/
def write (groups : List Nat) : List Char :=
  let gap := longestGap groups
  if gap < 2 then writeGroups groups
  else
    let before := beforeGap gap groups
    writeGroups before ++ ':' :: ':' :: writeGroups (groups.drop (before.length + gap))

end Ipv6

end AccessGate.Url
