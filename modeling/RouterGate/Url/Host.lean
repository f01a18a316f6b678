import RouterGate.Net.Ip
import RouterGate.Url.Percent
import RouterGate.Url.Punycode
/-!
Hosts of a URL: a bracketed address, a number in any of its spellings, or a domain.
-/
namespace RouterGate.Url

inductive Defect where
  | emptyHost
  | badDomain
  | badIpv4
  | badIpv6
  | badDomainCharacter
  | badPort
  | relativeWithoutBase
  deriving DecidableEq, Repr

def Defect.message : Defect → String
  | .emptyHost => "empty host"
  | .badDomain => "invalid international domain name"
  | .badIpv4 => "invalid IPv4 address"
  | .badIpv6 => "invalid IPv6 address"
  | .badDomainCharacter => "invalid domain character"
  | .badPort => "invalid port number"
  | .relativeWithoutBase => "relative URL without a base"

def forbiddenInHost (c : Char) : Bool :=
  c.toNat ≤ 0x20 || c.toNat == 0x7F ||
    ['#', '/', ':', '<', '>', '?', '@', '[', '\\', ']', '^', '|'].contains c

def forbiddenInDomain (c : Char) : Bool :=
  forbiddenInHost c || c == '%'

/-- A number in hexadecimal after `0x`, in octal after `0`, or in decimal. -/
def hostNumber? : List Char → Option Nat
  | [] => none
  | ['0'] => some 0
  | '0' :: 'x' :: rest => if rest.isEmpty then some 0 else Net.inBase? 16 rest
  | '0' :: 'X' :: rest => if rest.isEmpty then some 0 else Net.inBase? 16 rest
  | '0' :: rest => Net.inBase? 8 rest
  | digits => Net.decimal? digits

/-- The parts between the dots; a dot at the end counts for nothing. -/
def hostParts (host : List Char) : List (List Char) :=
  let parts := Text.fields '.' host
  if parts.length > 1 && parts.getLast? == some [] then parts.dropLast else parts

def endsInNumber (host : List Char) : Bool :=
  match (hostParts host).getLast? with
  | none => false
  | some last => (!last.isEmpty && last.all Char.isDigit) || (hostNumber? last).isSome

/-- All parts but the last are octets; the last fills the octets that remain. -/
def joinHostNumbers? (numbers : List Nat) : Option Nat :=
  match numbers.reverse with
  | [] => none
  | last :: others =>
      if numbers.length > 4 || !(others.all (· < 256)) ||
          last ≥ Nat.pow 256 (5 - numbers.length) then none
      else some ((others.reverse.zipIdx).foldl
        (fun sum part => sum + part.1 * Nat.pow 256 (3 - part.2)) last)

def hostIpv4? (host : List Char) : Option Nat :=
  ((hostParts host).mapM hostNumber?).bind joinHostNumbers?

def asciiLabel (label : List Char) : List Char :=
  if label.all (·.toNat < 128) then label
  else ['x', 'n', '-', '-'] ++ Punycode.encode label

def asciiDomain (domain : List Char) : List Char :=
  ['.'].intercalate ((Text.fields '.' domain).map asciiLabel)

/-- How the name of a host is brought to its form in ASCII; none if it is no name. What becomes
of a name that is not in ASCII, or has labels in Punycode, is up to the tables of Unicode. -/
abbrev HostMapping := List Char → Option (List Char)

/-- The mapping without tables: it is exact for names in ASCII that have no label in Punycode. -/
def HostMapping.tableless : HostMapping :=
  fun name => some (asciiDomain (name.map Char.toLower))

def readDomain (hosts : HostMapping) (decoded : String) : Except Defect String :=
  match hosts decoded.toList with
  | none => .error .badDomain
  | some name =>
      if name.isEmpty then .error .emptyHost
      else if name.any forbiddenInDomain then .error .badDomain
      else if endsInNumber name then
        match hostIpv4? name with
        | some address => .ok (Net.ipv4Text address)
        | none => .error .badIpv4
      else .ok (String.ofList name)

def readBracketed (inside : List Char) : Except Defect String :=
  match inside.getLast? with
  | some ']' =>
      match Net.ipv6? inside.dropLast with
      | some groups => .ok ("[" ++ Net.ipv6Text groups ++ "]")
      | none => .error .badIpv6
  | _ => .error .badIpv6

def readHost (hosts : HostMapping) (text : List Char) : Except Defect String :=
  match text with
  | [] => .error .emptyHost
  | '[' :: inside => readBracketed inside
  | _ =>
      match Bytes.text? (percentDecode text) with
      | none => .error .badDomain
      | some decoded => readDomain hosts decoded

def readOpaqueHost (text : List Char) : Except Defect Unit :=
  match text with
  | '[' :: inside => (readBracketed inside).map fun _ => ()
  | _ => if text.any forbiddenInHost then .error .badDomainCharacter else .ok ()

end RouterGate.Url
