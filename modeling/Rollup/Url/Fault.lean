/-
Why a text is no address of the web.
-/

set_option autoImplicit false

namespace Rollup.Url

/-- Why a text is no address. -/
inductive Fault where
  /-- It does not begin with a scheme. -/
  | noScheme
  /-- There is no host where there has to be one. -/
  | emptyHost
  /-- The host is no name that the net has. -/
  | badName
  /-- The host ends in a number and is no address of 32 bits. -/
  | badShortAddress
  /-- The host begins with a bracket and is no address of 128 bits. -/
  | badLongAddress
  /-- The host has a character that no host has. -/
  | badCharacter
  /-- What follows the host is no port. -/
  | badPort
  deriving DecidableEq, Repr

/-- What is wrong, in words. -/
def Fault.message : Fault → String
  | .noScheme => "relative URL without a base"
  | .emptyHost => "empty host"
  | .badName => "invalid international domain name"
  | .badShortAddress => "invalid IPv4 address"
  | .badLongAddress => "invalid IPv6 address"
  | .badCharacter => "invalid domain character"
  | .badPort => "invalid port number"

end Rollup.Url
