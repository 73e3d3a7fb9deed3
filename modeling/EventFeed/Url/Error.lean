/-
  This file defines why a text is no address.

  Key definitions include:
    * `Url.Error`
    * `Url.Error.message`
-/

------------------------------------------------------------
-- Errors
------------------------------------------------------------

namespace EventFeed

namespace Url

/- Why a text is no address. -/
inductive Error
  | noScheme
  | emptyHost
  | badPort
  | badV4
  | badV6
  | badName
  | badCharacter
deriving DecidableEq, Inhabited, Repr

/- The reason in words. -/
def Error.message : Error → String
  | noScheme => "relative URL without a base"
  | emptyHost => "empty host"
  | badPort => "invalid port number"
  | badV4 => "invalid IPv4 address"
  | badV6 => "invalid IPv6 address"
  | badName => "invalid international domain name"
  | badCharacter => "invalid domain character"

end Url

end EventFeed
