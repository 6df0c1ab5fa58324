import AccessGate.Encoding.Base64

/-!
# Identifiers — ids and secrets made of random octets

An id is a short start that tells its purpose and random octets in the alphabet of URLs, so it may stand
in a cookie or a header field. A signing secret is random octets in the padded alphabet.
-/

namespace AccessGate

/-- A session id. -/
def sessionIdOf (octets : List UInt8) : String := "sess_" ++ Encoding.Base64.urlText octets

/-- The number of random octets in a session id. -/
def sessionIdOctets : Nat := 32

/-- A request id. -/
def requestIdOf (octets : List UInt8) : String := "req_" ++ Encoding.Base64.urlText octets

/-- The number of random octets in a request id. -/
def requestIdOctets : Nat := 16

/-- The id of a signed token. -/
def tokenIdOf (octets : List UInt8) : String := Encoding.Base64.urlText octets

/-- The number of random octets in the id of a signed token. -/
def tokenIdOctets : Nat := 16

/-- A signing secret. -/
def secretOf (octets : List UInt8) : String := Encoding.Base64.standardText octets

/-- The number of random octets in a signing secret. -/
def secretOctets : Nat := 64

end AccessGate
