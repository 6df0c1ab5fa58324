import AccessGate.Text.Quoted
import AccessGate.Url.Fault

/-!
# Errors — why a decision could not be made

An error is a cause. Its sentence is one function of the cause. An action that a client or an authorizer
asks for (a redirect, a status) is an answer and not an error.
-/

namespace AccessGate

/-- Mistakes in how the gate was put together. -/
inductive ConfigError where
  /-- A part the gate cannot do without is not there. -/
  | missing (part : String)
  /-- No client is registered. -/
  | noClient
  | unknownClient (name : String)
  | unknownMatcher (name : String)
  | unknownAuthorizer (name : String)
  | blankClientName
  /-- A name is taken already, up to ASCII case. -/
  | duplicateClient (name existing : String)
  | loginUrl (text : String) (fault : Url.Fault)
  | pathPattern (pattern : String)
  | emptyClientParameter
  | cookieName (name : String)
  /-- A mistake that a component of the host reports in its own words. -/
  | reported (text : String)
  deriving DecidableEq, Repr

/-- The sentence for a mistake. -/
def ConfigError.text : ConfigError → String
  | .missing part => part ++ " cannot be null"
  | .noClient => "no client registered"
  | .unknownClient name => "unknown client: " ++ name
  | .unknownMatcher name => "unknown matcher: " ++ name
  | .unknownAuthorizer name => "unknown authorizer: " ++ name
  | .blankClientName => "client name cannot be blank"
  | .duplicateClient name existing =>
    "duplicate client name: " ++ name ++ " (already registered as " ++ existing ++ ")"
  | .loginUrl text fault => "invalid login url " ++ text ++ ": " ++ fault.text
  | .pathPattern pattern => "invalid path pattern " ++ pattern
  | .emptyClientParameter => "client name parameter cannot be empty"
  | .cookieName name => "invalid session cookie name: " ++ Text.quoted name
  | .reported text => text

/-- What can be wrong with the text of an API key. -/
inductive KeyFault where
  | wrongStart
  | tooShort
  | tooLong
  | badCharacter
  deriving DecidableEq, Repr

/-- The sentence for a malformed API key. -/
def KeyFault.text : KeyFault → String
  | .wrongStart => "API key must start with 'wdn_'"
  | .tooShort => "API key too short"
  | .tooLong => "API key too long"
  | .badCharacter => "Invalid characters in API key"

/-- What can be wrong with a token. -/
inductive TokenFault where
  | key (fault : KeyFault)
  /-- The token does not have three parts. -/
  | malformed
  | signature
  | audience
  | issuer
  /-- A fault that a component of the host reports in its own words. -/
  | reported (text : String)
  deriving DecidableEq, Repr

/-- The sentence for a bad token. -/
def TokenFault.text : TokenFault → String
  | .key fault => fault.text
  | .malformed => "Invalid JWT token"
  | .signature => "Invalid JWT signature"
  | .audience => "Invalid JWT audience"
  | .issuer => "Invalid JWT issuer"
  | .reported text => text

/-- Faults of a signed token that its reader names in its own words. -/
inductive SignedTokenFault where
  | json
  | base64
  | algorithm
  | immature
  | missingClaim (name : String)
  | reported (text : String)
  deriving DecidableEq, Repr

/-- The sentence for a fault of a signed token. -/
def SignedTokenFault.text : SignedTokenFault → String
  | .json => "JSON error"
  | .base64 => "Base64 error"
  | .algorithm => "InvalidAlgorithm"
  | .immature => "ImmatureSignature"
  | .missingClaim name => "Missing required claim: " ++ name
  | .reported text => text

/-- Why there is no decision. -/
inductive Error where
  | config (cause : ConfigError)
  /-- A client failed in an unexpected way. -/
  | authentication (text : String)
  | token (fault : TokenFault)
  | tokenExpired
  | apiKey
  | signedToken (fault : SignedTokenFault)
  /-- The session store failed. -/
  | session (text : String)
  /-- A stored or received value does not have the expected shape. -/
  | json
  | internal (text : String)
  /-- An instant would leave the calendar, so the run cannot go on. -/
  | calendar
  deriving DecidableEq, Repr

/-- The name of the kind of an error. -/
def Error.kind : Error → String
  | .config _ => "config"
  | .authentication _ => "authentication_failed"
  | .token _ => "invalid_token"
  | .tokenExpired => "token_expired"
  | .apiKey => "invalid_api_key"
  | .signedToken _ => "jwt_validation"
  | .session _ => "session"
  | .json => "json"
  | .internal _ => "internal"
  | .calendar => "panic"

/-- The sentence for an error. -/
def Error.message : Error → String
  | .config cause => "Configuration error: " ++ cause.text
  | .authentication text => "Authentication failed: " ++ text
  | .token fault => "Invalid token: " ++ fault.text
  | .tokenExpired => "Token expired"
  | .apiKey => "Invalid API key"
  | .signedToken fault => "JWT validation error: " ++ fault.text
  | .session text => "Session store error: " ++ text
  | .json => "JSON error"
  | .internal text => "Internal security error: " ++ text
  | .calendar => "instant out of range"

/-- Is the error a mistake in how the gate was put together? -/
def Error.isConfig : Error → Bool
  | .config _ => true
  | _ => false

end AccessGate
