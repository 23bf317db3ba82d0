/-
Socket addresses: an IP address with a port.

An IPv6 address stands in square brackets and may carry a numeric scope after a
percent sign; scope zero means none and is not written.
-/
import SplitHorizon.Address.Ip

namespace SplitHorizon

structure SocketAddress where
  ip : Ip
  /-- The scope of an IPv6 address; zero for none, and always for IPv4. -/
  scope : UInt32
  port : UInt16
deriving DecidableEq, Repr

namespace SocketAddress

def ofIp (ip : Ip) (port : UInt16) : SocketAddress :=
  { ip := ip, scope := 0, port := port }

/-- A colon and a port in decimal; zeros in front are allowed. -/
def readPort : List Char → Option (UInt16 × List Char)
  | ':' :: rest =>
    (Text.readNumber 10 0xFFFF rest).map fun (n, rest) => (UInt16.ofNat n, rest)
  | _ => none

/-- A percent sign and a scope; where none can be read, nothing is passed over. -/
def readScope (cs : List Char) : UInt32 × List Char :=
  match cs with
  | '%' :: rest =>
    match Text.readNumber 10 0xFFFFFFFF rest with
    | some (n, rest) => (UInt32.ofNat n, rest)
    | none => (0, cs)
  | _ => (0, cs)

def readV4 (cs : List Char) : Option (SocketAddress × List Char) := do
  let (ip, cs) ← Ipv4.read? cs
  let (port, cs) ← readPort cs
  return (ofIp (.v4 ip) port, cs)

def readV6 : List Char → Option (SocketAddress × List Char)
  | '[' :: cs => do
    let (ip, cs) ← Ipv6.read? cs
    let (scope, cs) := readScope cs
    match cs with
    | ']' :: cs =>
      let (port, cs) ← readPort cs
      return ({ ip := .v6 ip, scope := scope, port := port }, cs)
    | _ => none
  | _ => none

/-- A text that is a socket address and nothing more. -/
def parse? (s : String) : Option SocketAddress :=
  match readV4 s.toList with
  | some (a, []) => some a
  | some _ => none
  | none =>
    match readV6 s.toList with
    | some (a, []) => some a
    | _ => none

def chars (a : SocketAddress) : List Char :=
  let port := ':' :: Text.decimalChars a.port.toNat
  match a.ip with
  | .v4 ip => ip.chars ++ port
  | .v6 ip =>
    let scope := if a.scope = 0 then [] else '%' :: Text.decimalChars a.scope.toNat
    '[' :: (ip.chars ++ scope ++ ']' :: port)

def text (a : SocketAddress) : String :=
  String.ofList a.chars

end SocketAddress
end SplitHorizon
