/-
  Socket addresses: an IP address and a port, `1.2.3.4:80` or `[::1]:80`. An IPv6 address may name
  a scope, `[fe80::1%2]:80`; the scope zero is not written.
-/
import OpenIdProvider.Net.Ipv6

namespace OpenIdProvider.Net

/-- Where a server listens. -/
inductive SocketAddress
  | v4 (ip : Ipv4) (port : Nat)
  | v6 (ip : Ipv6) (scopeId : Nat) (port : Nat)
deriving DecidableEq, Repr

namespace SocketAddress

/-- The address of this host itself with a port that is free. -/
def loopback : SocketAddress := .v4 ⟨0x7F000001⟩ 0

def port : SocketAddress → Nat
  | v4 _ port => port
  | v6 _ _ port => port

/-- The text of an address. -/
def text : SocketAddress → String
  | v4 ip port => String.ofList (ip.text ++ ':' :: Ascii.digits 10 port)
  | v6 ip scopeId port =>
    let zone := if scopeId = 0 then [] else '%' :: Ascii.digits 10 scopeId
    String.ofList ('[' :: ip.mixedText ++ zone ++ [']', ':'] ++ Ascii.digits 10 port)

/-- A number in decimal digits, with any zeros in front, below a bound. -/
def number? (bound : Nat) (cs : List Char) : Option Nat :=
  (Ascii.readNat? 10 cs).bind fun n => if n < bound then some n else none

def port? (cs : List Char) : Option Nat := number? 0x10000 cs

/-- An IPv6 address with the scope after it. -/
def zoned? (cs : List Char) : Option (Ipv6 × Nat) :=
  match Split.splitOnce '%' cs with
  | none => (Ipv6.ofText? cs).map fun ip => (ip, 0)
  | some (ip, scopeId) => do some (← Ipv6.ofText? ip, ← number? 0x100000000 scopeId)

/-- Reads the text of an address. -/
def ofText? (s : String) : Option SocketAddress :=
  match s.toList with
  | '[' :: rest => do
    let (inside, after) ← Split.splitOnce ']' rest
    let (ip, scopeId) ← zoned? inside
    match after with
    | ':' :: port => some (.v6 ip scopeId (← port? port))
    | _ => none
  | cs => do
    let (ip, port) ← Split.splitOnce ':' cs
    some (.v4 (← Ipv4.ofText? ip) (← port? port))

end SocketAddress

end OpenIdProvider.Net
