import AccessGate.Credentials.Basic
import AccessGate.Digest.Sha256
import AccessGate.Encoding.Base64
import AccessGate.Encoding.Form
import AccessGate.Error
import AccessGate.Json.Printer
import AccessGate.Json.Reader
import AccessGate.Json.Record
import AccessGate.Profile.Basic
import AccessGate.Text.Quoted

/-!
# Signed tokens — claims that their issuer has signed

A token has three parts: a header that names the algorithm, the claims, and a signature of both under a
shared secret. Only one algorithm is accepted. The checks are made in a fixed order: the parts, the
header, the algorithm, the signature, the shape of the claims, their times, issuer and audience. A small
difference of clocks is allowed when a token is not valid yet, none when it has expired.
-/

namespace AccessGate

/-- What a token claims. -/
structure Claims where
  /-- The id of the profile. -/
  subject : String
  /-- The last second at which the token holds. -/
  expires : UInt64
  issued : UInt64
  notBefore : Option UInt64
  tokenId : String
  issuer : String
  audience : String
  roles : Option (List String)
  /-- Attributes for the profile. -/
  metadata : Option (Dict Json)
  deriving DecidableEq

namespace Claims

/-- The names of the claims, in the order in which they are written. -/
def fields : List String := ["sub", "exp", "iat", "nbf", "jti", "iss", "aud", "roles", "metadata"]

/-- A number of seconds in JSON. -/
def readSecond (value : Json) : Option UInt64 := (value.natBelow? UInt64.size).map UInt64.ofNat

/-- A number of seconds, or null. -/
def secondToJson : Option UInt64 → Json
  | some n => .int n.toNat
  | none => .null

/-- The claims in the order in which they are written. -/
def toJson (c : Claims) : Json :=
  .obj [("sub", .str c.subject), ("exp", .int c.expires.toNat), ("iat", .int c.issued.toNat),
    ("nbf", secondToJson c.notBefore), ("jti", .str c.tokenId), ("iss", .str c.issuer),
    ("aud", .str c.audience),
    ("roles", match c.roles with
      | some roles => .arr (roles.map .str)
      | none => .null),
    ("metadata", match c.metadata with
      | some d => .obj d.entries
      | none => .null)]

/-- Attributes from a JSON object. -/
def readMetadata : Json → Option (Dict Json)
  | .obj members => some (.ofList members)
  | _ => none

/-- Read claims from an object or from the list of all of them in order. -/
def ofJson? (value : Json) : Option Claims := do
  let r ← value.record? fields
  return {
    subject := ← r.required "sub" Json.text?
    expires := ← r.required "exp" readSecond
    issued := ← r.required "iat" readSecond
    notBefore := ← r.optional "nbf" readSecond
    tokenId := ← r.required "jti" Json.text?
    issuer := ← r.required "iss" Json.text?
    audience := ← r.required "aud" Json.text?
    roles := ← r.optional "roles" Json.texts?
    metadata := ← r.optional "metadata" readMetadata }

/-- Read claims from the text of a token: an object in which no claim stands twice. -/
def ofText? (text : String) : Option Claims := do
  let .obj members ← Json.read? text | none
  if Json.repeatsName (members.filter fun m => fields.contains m.1) then none
  else
    let kept := members.map fun m =>
      (m.1, if m.1 = "metadata" then m.2.canonical else m.2)
    ofJson? (.obj kept)

/-- Fresh claims that hold for a number of seconds. The seconds are counted in 64 bits. -/
def fresh (now : UInt64) (tokenId subject issuer audience : String) (seconds : UInt64)
    (roles : Option (List String)) : Claims :=
  ⟨subject, now + seconds, now, some now, tokenId, issuer, audience, roles, none⟩

/-- Have the claims expired at a second? -/
def isExpired (c : Claims) (now : UInt64) : Bool := c.expires < now

/-- The profile of the subject. Attributes of the issuer go over those that the gate notes. -/
def profile (c : Claims) : Profile :=
  let noted := (((Profile.ofId c.subject).withRoles (c.roles.getD [])).withAttribute "auth_method"
    (.str "jwt")).withAttribute "iss" (.str c.issuer)
  let dated :=
    if c.expires.toNat ≤ Int64.maxValue.toInt then
      match Instant.ofSecond? c.expires.toNat with
      | some t => noted.withExpiry t
      | none => noted
    else noted
  { dated with attributes := dated.attributes.insertAll (c.metadata.getD .empty).entries }

end Claims

/-- The second of an instant as tokens count it. -/
def Instant.tokenSecond (t : Instant) : UInt64 := UInt64.ofNat t.second.toNat

/-- The shared secret of a token's parties, and the issuer and audience that are expected. -/
structure TokenAuthority where
  secret : String
  issuer : String
  audience : String
  deriving DecidableEq, Repr

namespace TokenAuthority

/-- The allowed difference of clocks in seconds. -/
def leeway : Nat := 60

/-- The header of every token that is made here. -/
def header : String := "\x7b\"typ\":\"JWT\",\"alg\":\"HS256\"\x7d"

/-- The algorithms that a header may name. -/
def algorithms : List String :=
  ["HS256", "HS384", "HS512", "ES256", "ES384", "RS256", "RS384", "RS512", "PS256", "PS384", "PS512",
    "EdDSA"]

/-- The members of a header, the algorithm apart, that must be texts when they are there. -/
def headerTexts : List String := ["typ", "cty", "jku", "kid", "x5u", "x5t", "x5t#S256"]

/-- The members of a header that have a meaning. -/
def headerFields : List String := ["alg", "jwk", "x5c"] ++ headerTexts

/-- A part of a token: octets in base64, their signs those of URLs. -/
def writePart (text : String) : List Char :=
  Encoding.Base64.encode Encoding.Base64.urlSafe (Text.octets text)

/-- The signature of a message. -/
def sign (a : TokenAuthority) (message : List Char) : List Char :=
  Encoding.Base64.encode Encoding.Base64.urlSafe
    (Digest.hmacSha256 (Text.octets a.secret) (Text.octets (String.ofList message)))

/-- Make a token. -/
def mint (a : TokenAuthority) (c : Claims) : String :=
  let message := writePart header ++ '.' :: writePart c.toJson.toText
  String.ofList (message ++ '.' :: a.sign message)

/-- Split at the last dot. -/
def splitLast? (s : List Char) : Option (List Char × List Char) :=
  let last := (s.reverse.takeWhile (· != '.')).reverse
  if last.length < s.length then some (s.take (s.length - last.length - 1), last) else none

/-- The text of a part. -/
def readPart (part : List Char) : Except Error (Option String) :=
  match Encoding.Base64.decode? Encoding.Base64.urlSafe part with
  | none => .error (.signedToken .base64)
  | some octets => .ok (Text.ofOctets? octets)

/-- Is a member of a header a text, null or missing? -/
def isTextMember (members : List (String × Json)) (name : String) : Bool :=
  match members.lookup name with
  | none => true
  | some value => (Json.orNull Json.text? value).isSome

/-- The algorithm that a header names, if the text is a header. -/
def algorithm? (text : String) : Option String := do
  let .obj members ← Json.read? text | none
  let named ← (members.lookup "alg").bind Json.text?
  let chain := match members.lookup "x5c" with
    | none => true
    | some value => (Json.orNull Json.texts? value).isSome
  let key := match members.lookup "jwk" with
    | none | some .null | some (.obj _) => true
    | _ => false
  if Json.repeatsName (members.filter fun m => headerFields.contains m.1) || !chain || !key
      || !headerTexts.all (isTextMember members) || !algorithms.contains named then none
  else some named

/-- Check the times, the issuer and the audience of claims. -/
def checkClaims (a : TokenAuthority) (now : UInt64) (c : Claims) : Except Error Claims :=
  if c.expires.toNat + leeway < now.toNat then .error .tokenExpired
  else if (c.notBefore.map UInt64.toNat).getD 0 > now.toNat + leeway then
    .error (.signedToken .immature)
  else if c.issuer != a.issuer then .error (.token .issuer)
  else if c.audience != a.audience then .error (.token .audience)
  else if c.isExpired now then .error .tokenExpired
  else .ok c

/-- Check a token. -/
def check (a : TokenAuthority) (now : UInt64) (token : String) : Except Error Claims := do
  let some (message, signature) := splitLast? token.toList | .error (.token .malformed)
  let some (head, body) := splitLast? message | .error (.token .malformed)
  let some algorithm := (← readPart head).bind algorithm? | .error (.signedToken .json)
  if algorithm != "HS256" then .error (.signedToken .algorithm)
  else if a.sign message != signature then .error (.token .signature)
  else
    let some claims := (← readPart body).bind Claims.ofText? | .error (.signedToken .json)
    a.checkClaims now claims

/-- The profile of the subject of a presented token. A token that fails a check is no error. -/
def profile? (a : TokenAuthority) (now : UInt64) : Credentials → Option Profile
  | .token token =>
    match a.check now token with
    | .ok claims => some claims.profile
    | .error _ => none
  | _ => none

/-- How an authority is shown; its secret is not. -/
def describe (a : TokenAuthority) : String :=
  "JwtAuthenticator \x7b expected_issuer: " ++ Text.quoted a.issuer ++ ", expected_audience: "
    ++ Text.quoted a.audience ++ ", secret: \"[REDACTED]\" \x7d"

end TokenAuthority

end AccessGate
