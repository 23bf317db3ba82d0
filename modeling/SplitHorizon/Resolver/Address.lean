/-
Where a resolver is found.

An entry of a resolver list is an IP address or the name of a host, each with a
port or without one; without one it is the port of DNS.  An IPv6 address with a
port stands in square brackets, and one without may.
-/
import SplitHorizon.Address.Socket
import SplitHorizon.Fault
import SplitHorizon.Text.Blank

namespace SplitHorizon

inductive ResolverAddress where
  | literal (address : SocketAddress)
  | host (name : String) (port : UInt16)
deriving DecidableEq, Repr

namespace ResolverAddress

/-- The port resolvers listen on unless an entry says otherwise. -/
def defaultPort : UInt16 := 53

/-- The text between square brackets, or the text itself if it does not stand
in a pair of them. -/
def unbracketed : List Char → List Char
  | '[' :: rest => if rest.getLast? = some ']' then rest.dropLast else '[' :: rest
  | cs => cs

/-- The text before the last colon and the one after it. -/
def splitLastColon (cs : List Char) : Option (List Char × List Char) :=
  let back := cs.reverse.takeWhile (· ≠ ':')
  if back.length < cs.length then
    some (cs.take (cs.length - back.length - 1), back.reverse)
  else none

/-- Reads an entry that is not an IP address as the name of a host. -/
def hostOf (cs : List Char) : Except ResolverAddressFault ResolverAddress :=
  let checked (name : List Char) (port : UInt16) :=
    if name.isEmpty || name.contains ':' then
      .error (.invalidHost (String.ofList cs))
    else .ok (.host (String.ofList name) port)
  match splitLastColon cs with
  | none => checked cs defaultPort
  | some (name, port) =>
    match Text.readUnsigned 0xFFFF (String.ofList port) with
    | some port => checked name (UInt16.ofNat port)
    | none => .error (.invalidPort (String.ofList cs))

/-- Reads an entry.  Blanks around it do not matter. -/
def parse (s : String) : Except ResolverAddressFault ResolverAddress :=
  let cs := Text.trimChars s.toList
  if cs.isEmpty then .error .blank
  else match SocketAddress.parse? (String.ofList cs) with
    | some address => .ok (.literal address)
    | none =>
      match Ip.parseChars? (unbracketed cs) with
      | some ip => .ok (.literal (.ofIp ip defaultPort))
      | none => hostOf cs

def text : ResolverAddress → String
  | .literal address => address.text
  | .host name port => name ++ ":" ++ Text.decimal port.toNat

/-- The address of an entry that needs no look-up. -/
def socketAddress? : ResolverAddress → Option SocketAddress
  | .literal address => some address
  | .host _ _ => none

end ResolverAddress
end SplitHorizon
