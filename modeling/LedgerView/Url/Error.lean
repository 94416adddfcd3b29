/-
  Why a text is no URL.

  Key definitions include:
    * `UrlError`
    * `UrlError.message`
-/

namespace LedgerView

/- The first fault of a URL. -/
inductive UrlError where
  | relative
  | emptyHost
  | portNumber
  | ipv4
  | ipv6
  | domainCharacter
  | domainName
deriving Repr, DecidableEq

/- The wording shown to users. -/
def UrlError.message : UrlError → String
  | .relative => "relative URL without a base"
  | .emptyHost => "empty host"
  | .portNumber => "invalid port number"
  | .ipv4 => "invalid IPv4 address"
  | .ipv6 => "invalid IPv6 address"
  | .domainCharacter => "invalid domain character"
  | .domainName => "invalid international domain name"

end LedgerView
