import NamespaceLifecycle.Text.Percent
import NamespaceLifecycle.Url.Domain
import NamespaceLifecycle.Url.Ip

/-!
# Hosts

A host is a name or a numeric address. Where the scheme is one of the web, a name is a domain: it is
read without its escapes and in ASCII, and when it ends in a number it must be an address. Any other
scheme takes a name as it stands.
-/

namespace NamespaceLifecycle.Url

open Text

inductive Host where
  | name (text : String)
  | ipv4 (address : UInt32)
  | ipv6 (address : Ipv6)
  deriving DecidableEq, Repr

/-- Why a text is no address. -/
inductive Fault where
  | relative
  | emptyHost
  | invalidName
  | invalidHostCharacter
  | invalidIpv4
  | invalidIpv6
  | invalidPort
  deriving DecidableEq, Repr

def Fault.message : Fault → String
  | relative => "relative URL without a base"
  | emptyHost => "empty host"
  | invalidName => "invalid international domain name"
  | invalidHostCharacter => "invalid domain character"
  | invalidIpv4 => "invalid IPv4 address"
  | invalidIpv6 => "invalid IPv6 address"
  | invalidPort => "invalid port number"

def Host.text : Host → String
  | name text => text
  | ipv4 address => ipv4Text address
  | ipv6 address => "[" ++ address.text ++ "]"

/-- Characters that no host may hold. -/
def isForbiddenInHost (c : Char) : Bool :=
  "\x00\t\n\r #/:<>?@[\\]^|".toList.contains c

def isPrintableAscii (c : Char) : Bool :=
  decide (0x20 ≤ c.toNat ∧ c.toNat < 0x7f)

/-- An address of eight groups between brackets, none when the text has no bracket first. -/
def bracketed? (chars : List Char) : Option (Except Fault Host) :=
  match chars with
  | '[' :: rest =>
    some <|
      match rest.getLast?, ipv6? rest.dropLast with
      | some ']', some address => .ok (.ipv6 address)
      | _, _ => .error .invalidIpv6
  | _ => none

def Host.ofWeb (domains : Domains) (chars : List Char) : Except Fault Host :=
  match bracketed? chars with
  | some host => host
  | none =>
    match domains.toAscii? (Utf8.lenient (Percent.decode (String.ofList chars))) with
    | none => .error .invalidName
    | some ascii =>
      if ascii = "" then .error .emptyHost
      else if endsInNumber ascii.toList then
        match ipv4? ascii.toList with
        | some address => .ok (.ipv4 address)
        | none => .error .invalidIpv4
      else .ok (.name ascii)

/-- The host of any other scheme; an empty name is no host. -/
def Host.ofOther (chars : List Char) : Except Fault (Option Host) :=
  match bracketed? chars with
  | some host => host.map some
  | none =>
    if chars.any isForbiddenInHost then .error .invalidHostCharacter
    else if chars.isEmpty then .ok none
    else .ok (some (.name (String.ofList (Percent.encodeChars isPrintableAscii chars))))

end NamespaceLifecycle.Url
