/-
The network, as a resolver is asked over it.

Everything that is not up to this server is behind this type: whether a server
is reached, what it sends back, and which numbers the queries get.
-/
import SplitHorizon.Address.Socket

namespace SplitHorizon

/-- Why a server gives nothing at all. -/
inductive LinkFault where
  /-- Nothing came in time. -/
  | silent
  | failed (reason : String)
deriving DecidableEq, Repr

/-- What came over a stream, and whether the server closed it afterwards.  A
stream that stays open is waited for in vain. -/
structure StreamReply where
  bytes : List UInt8
  closed : Bool
deriving DecidableEq, Repr

/-- A network with a state of type `ν`. -/
structure Network (ν : Type) where
  /-- The number of the next query. -/
  freshId : ν → UInt16 × ν
  /-- The addresses of a host, found through the system. -/
  lookUp : String → UInt16 → ν → Except LinkFault (List SocketAddress) × ν
  /-- Sends a datagram and waits for one. -/
  datagram : SocketAddress → List UInt8 → ν → Except LinkFault (List UInt8) × ν
  /-- Opens a stream, sends bytes and waits for what comes back. -/
  stream : SocketAddress → List UInt8 → ν → Except LinkFault StreamReply × ν

namespace Network

/-- A network without a route to anywhere. -/
def unreachable : Network Unit :=
  { freshId := fun s => (0, s)
    lookUp := fun _ _ s => (.error (.failed "no name service"), s)
    datagram := fun _ _ s =>
      (.error (.failed "connect: Network is unreachable (os error 101)"), s)
    stream := fun _ _ s =>
      (.error (.failed "connect: Network is unreachable (os error 101)"), s) }

inductive Sent where
  | datagram (server : SocketAddress) (bytes : List UInt8)
  | stream (server : SocketAddress) (bytes : List UInt8)
deriving DecidableEq, Repr

/-- The same network, which also writes down what was sent. -/
def recorded {ν : Type} (network : Network ν) : Network (ν × List Sent) :=
  { freshId := fun s =>
      let (id, inner) := network.freshId s.1
      (id, inner, s.2)
    lookUp := fun name port s =>
      let (found, inner) := network.lookUp name port s.1
      (found, inner, s.2)
    datagram := fun server bytes s =>
      let (reply, inner) := network.datagram server bytes s.1
      (reply, inner, s.2 ++ [.datagram server bytes])
    stream := fun server bytes s =>
      let (reply, inner) := network.stream server bytes s.1
      (reply, inner, s.2 ++ [.stream server bytes]) }

end Network
end SplitHorizon
