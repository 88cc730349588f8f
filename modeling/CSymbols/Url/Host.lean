import CSymbols.Text.Utf8
import CSymbols.Url.Address
import CSymbols.Url.Domain.Name
import CSymbols.Url.Fault

/-! The hosts of addresses. -/
namespace CSymbols.Url.Host

/-- Bytes that are written by their numbers, behind a percent sign each, are put in their place. -/
def unescape : List UInt8 → List UInt8
  | [] => []
  | b :: c :: d :: rest =>
    match if b == 37 then Text.digitsValue? 16 [Char.ofNat c.toNat, Char.ofNat d.toNat]
      else none with
    | some n => n.toUInt8 :: unescape rest
    | none => b :: unescape (c :: d :: rest)
  | b :: rest => b :: unescape rest

/-- An address in brackets. -/
def checkBrackets (host : List Char) : Except Fault Unit :=
  if host.getLast? == some ']' && Address.isColoned (host.drop 1).dropLast then .ok ()
  else .error .address6

/-- A host that is looked up: an address, or a domain name. -/
def check (host : List Char) : Except Fault Unit :=
  if host.head? == some '[' then checkBrackets host
  else
    match Text.Utf8.decode 0 (unescape (String.ofList host).toUTF8.toList) with
    | .error _ => .error .domain
    | .ok name =>
      match Domain.plain? name with
      | none => .error .domain
      | some [] => .error .emptyHost
      | some plain =>
        if Address.endsInNumber plain && !Address.isDotted plain then .error .address4
        else .ok ()

/-- The characters that divide an address. -/
def isDivider (c : Char) : Bool := "\x00\t\n\r #/:<>?@[\\]^|".toList.contains c

/-- A host whose meaning is left to its scheme. -/
def checkFree (host : List Char) : Except Fault Unit :=
  if host.head? == some '[' then checkBrackets host
  else if host.any isDivider then .error .hostCharacter
  else .ok ()

end CSymbols.Url.Host
