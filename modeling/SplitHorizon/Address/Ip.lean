/-
IP addresses of either family.
-/
import SplitHorizon.Address.Ipv6

namespace SplitHorizon

inductive Ip where
  | v4 (ip : Ipv4)
  | v6 (ip : Ipv6)
deriving DecidableEq, Repr

namespace Ip

/-- An address of either family in front of a text.  No text starts both ways,
so the order of the two readers does not matter. -/
def read? (cs : List Char) : Option (Ip × List Char) :=
  match Ipv4.read? cs with
  | some (ip, rest) => some (.v4 ip, rest)
  | none => (Ipv6.read? cs).map fun (ip, rest) => (.v6 ip, rest)

/-- Characters that are an address and nothing more. -/
def parseChars? (cs : List Char) : Option Ip :=
  match read? cs with
  | some (ip, []) => some ip
  | _ => none

def parse? (s : String) : Option Ip :=
  parseChars? s.toList

def chars : Ip → List Char
  | .v4 ip => ip.chars
  | .v6 ip => ip.chars

def text (ip : Ip) : String :=
  String.ofList ip.chars

/-- Folds an IPv6 address that stands for an IPv4 one into that IPv4 address, so
that a host reached over either family is the same host. -/
def fold : Ip → Ip
  | .v4 ip => .v4 ip
  | .v6 ip =>
    match ip.toIpv4? with
    | some folded => .v4 folded
    | none => .v6 ip

end Ip
end SplitHorizon
