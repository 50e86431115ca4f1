/-! URLs as far as they say where something is to be found, and what can be wrong with them. -/

namespace StreamBridge

/-- A URL: its scheme in lower case, its host, which may be empty, and its port, where that is not
the usual one of the scheme. -/
structure Url where
  scheme : String
  host : String
  port : Option Nat
deriving DecidableEq, Repr

namespace Url

/-- Why a text is no URL. -/
inductive Fault where
  | noScheme
  | emptyHost
  | badPort
  | badCharacter
  | badDomain
  | badIpv4
  | badIpv6
deriving DecidableEq, Repr

/-- The wording of a fault. -/
def Fault.message : Fault → String
  | .noScheme => "relative URL without a base"
  | .emptyHost => "empty host"
  | .badPort => "invalid port number"
  | .badCharacter => "invalid domain character"
  | .badDomain => "invalid international domain name"
  | .badIpv4 => "invalid IPv4 address"
  | .badIpv6 => "invalid IPv6 address"

end Url
end StreamBridge
