/-! Why a text is no absolute address of a resource. -/
namespace CSymbols.Url

inductive Fault where
  /-- There is no scheme at the front. -/
  | noScheme
  | emptyHost
  /-- The host is no domain name, be it international or not. -/
  | domain
  | port
  | address4
  | address6
  /-- A host that is no domain name either holds a character that divides addresses. -/
  | hostCharacter
  deriving DecidableEq, Repr

def Fault.message : Fault → String
  | noScheme => "relative URL without a base"
  | emptyHost => "empty host"
  | domain => "invalid international domain name"
  | port => "invalid port number"
  | address4 => "invalid IPv4 address"
  | address6 => "invalid IPv6 address"
  | hostCharacter => "invalid domain character"

end CSymbols.Url
