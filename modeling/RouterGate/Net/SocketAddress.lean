import RouterGate.Net.Ip
/-!
Socket addresses: an internet address and a port, as they are written and read back.
-/
namespace RouterGate.Net

inductive SocketAddress where
  | v4 (address : Nat) (port : Nat)
  | v6 (groups : List Nat) (scope : Nat) (port : Nat)
  deriving DecidableEq, Repr

namespace SocketAddress

def port : SocketAddress → Nat
  | .v4 _ port => port
  | .v6 _ _ port => port

def isV4 : SocketAddress → Bool
  | .v4 .. => true
  | .v6 .. => false

def port? (s : List Char) : Option Nat :=
  (decimal? s).bind fun n => if n < 65536 then some n else none

def scope? (s : List Char) : Option Nat :=
  (decimal? s).bind fun n => if n < UInt32.size then some n else none

def bracketed? (s : List Char) : Option SocketAddress := do
  let (inside, after) ← Text.cut? ']' s
  let port ← match after with
    | ':' :: digits => port? digits
    | _ => none
  match Text.cut? '%' inside with
  | none => do
      let groups ← ipv6? inside
      some (.v6 groups 0 port)
  | some (address, digits) => do
      let groups ← ipv6? address
      let scope ← scope? digits
      some (.v6 groups scope port)

def parse? (s : String) : Option SocketAddress :=
  match s.toList with
  | '[' :: rest => bracketed? rest
  | text => do
      let (address, digits) ← Text.cut? ':' text
      let n ← ipv4? address
      let port ← port? digits
      some (.v4 n port)

/-- Addresses that stand for a version 4 address show it. -/
def groupsText : List Nat → String
  | [0, 0, 0, 0, 0, 65535, high, low] => "::ffff:" ++ ipv4Text (high * 65536 + low)
  | groups => ipv6Text groups

def text : SocketAddress → String
  | .v4 address port => ipv4Text address ++ ":" ++ toString port
  | .v6 groups scope port =>
      let zone := if scope = 0 then "" else "%" ++ toString scope
      "[" ++ groupsText groups ++ zone ++ "]:" ++ toString port

end SocketAddress

end RouterGate.Net
