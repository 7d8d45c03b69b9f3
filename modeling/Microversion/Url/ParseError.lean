/-! # Why a text is not a URL -/

namespace Microversion.Url

inductive ParseError where
  | relativeWithoutBase
  | relativeWithFlatBase
  | emptyHost
  | invalidPort
  | invalidIpv4
  | invalidIpv6
  | invalidDomainCharacter
  | invalidDomainName
deriving DecidableEq, Repr

def ParseError.message : ParseError → String
  | relativeWithoutBase => "relative URL without a base"
  | relativeWithFlatBase => "relative URL with a cannot-be-a-base base"
  | emptyHost => "empty host"
  | invalidPort => "invalid port number"
  | invalidIpv4 => "invalid IPv4 address"
  | invalidIpv6 => "invalid IPv6 address"
  | invalidDomainCharacter => "invalid domain character"
  | invalidDomainName => "invalid international domain name"

end Microversion.Url
