import AccessGate.Encoding.Percent

/-!
# Forms — lists of named values as the query of a URL

Pairs are joined by `&`, a name and its value by `=`. A space is written as `+`, letters, digits and
four signs as they are, every other octet as an escape. Reading takes any text: a segment without `=`
is a name with an empty value, and empty segments are passed over.
-/

namespace AccessGate.Encoding.Form

/-- The octets that are written as they are. -/
def isPlain (b : UInt8) : Bool :=
  let n := b.toNat
  n == 42 || n == 45 || n == 46 || (48 ≤ n && n ≤ 57) || (65 ≤ n && n ≤ 90) || n == 95
    || (97 ≤ n && n ≤ 122)

/-- The written form of an octet. -/
def encodeOctet (b : UInt8) : List Char :=
  if b = octet ' ' then ['+'] else if isPlain b then [Char.ofNat b.toNat] else escape b

/-- The written form of a name or a value. -/
def encode (s : String) : List Char := (Text.octets s).flatMap encodeOctet

/-- A pair, written. -/
def encodePair (pair : String × String) : List Char := encode pair.1 ++ '=' :: encode pair.2

/-- The octets of a written name or value. -/
def decodeOctets (bytes : List UInt8) : List UInt8 :=
  unescape (bytes.map fun b => if b = octet '+' then octet ' ' else b)

/-- Read a name or a value. -/
def decode (bytes : List UInt8) : String := Text.ofOctetsLossy (decodeOctets bytes)

/-- Read one segment. -/
def readPair (segment : List UInt8) : String × String :=
  let name := segment.takeWhile (· != octet '=')
  (decode name, decode (segment.drop (name.length + 1)))

/-- Read the pairs of a query. -/
def read (query : String) : List (String × String) :=
  (((Text.octets query).splitOn (octet '&')).filter fun s => !s.isEmpty).map readPair

end AccessGate.Encoding.Form
