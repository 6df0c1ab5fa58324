/-!
# What can be wrong with a URL
-/

namespace AccessGate.Url

/-- The causes for which a text is no URL. -/
inductive Fault where
  | emptyHost
  | domainName
  | port
  | ipv4
  | ipv6
  | domainCharacter
  | noBase
  | tooLong
  deriving DecidableEq, Repr

/-- The sentence that names the cause. -/
def Fault.text : Fault → String
  | .emptyHost => "empty host"
  | .domainName => "invalid international domain name"
  | .port => "invalid port number"
  | .ipv4 => "invalid IPv4 address"
  | .ipv6 => "invalid IPv6 address"
  | .domainCharacter => "invalid domain character"
  | .noBase => "relative URL without a base"
  | .tooLong => "URLs more than 4 GB are not supported"

end AccessGate.Url
