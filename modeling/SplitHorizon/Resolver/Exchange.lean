/-
Asking resolvers.

A server is asked by datagram.  A reply counts only if it has the number of the
query, is marked as a reply and repeats the question.  If it is truncated, the
same query is sent over a stream to the same server, and that reply has to pass
the same checks.  What counts in the end is a reply without error.

Servers are asked one after another until one of them answers.
-/
import SplitHorizon.Resolution.Delegate
import SplitHorizon.Resolver.Address
import SplitHorizon.Resolver.Network
import SplitHorizon.Resolver.Query
import SplitHorizon.Resolver.Reply
import SplitHorizon.Text.Quoted
import SplitHorizon.Wire.Frame

namespace SplitHorizon
namespace Resolver

variable {ν : Type}

/-- A step that may use the network and may fail. -/
abbrev Act (ν α : Type) := ExceptT Fault (StateM ν) α

def maxDatagram : Nat := 4096

inductive Transport where
  | datagram
  | stream
deriving DecidableEq, Repr

namespace Transport

def text : Transport → String
  | .datagram => "UDP"
  | .stream => "TCP"

end Transport

def linkFault (server : String) : LinkFault → Fault
  | .silent => .timeout server
  | .failed reason => .transport server reason

def streamMessage (server : String) (reply : StreamReply) : Except Fault (List UInt8) :=
  match Wire.unframe reply.bytes with
  | .ok (message, _) => .ok message
  | .error fault =>
    .error (if reply.closed then .transport server fault.message else .timeout server)

def send (network : Network ν) (transport : Transport) (server : SocketAddress)
    (message : List UInt8) : Act ν (List UInt8) := fun state =>
  match transport with
  | .datagram =>
    let (reply, state) := network.datagram server message state
    (match reply with
      | .ok bytes => .ok (bytes.take maxDatagram)
      | .error fault => .error (linkFault server.text fault), state)
  | .stream =>
    match Wire.frame message with
    | .error fault => (.error (.transport server.text fault.message), state)
    | .ok framed =>
      let (reply, state) := network.stream server framed state
      (match reply with
        | .ok reply => streamMessage server.text reply
        | .error fault => .error (linkFault server.text fault), state)

def questionText : Option String → String
  | none => "None"
  | some name => "Some(" ++ Text.quoted name ++ ")"

/-- Why a reply does not belong to a query, if it does not. -/
def mismatch? (reply : Reply) (id : UInt16) (fqdn : String) : Option String :=
  if reply.id ≠ id then
    some ("response ID " ++ Text.decimal reply.id.toNat ++ " does not match query ID " ++
      Text.decimal id.toNat)
  else if !reply.isResponse then some "reply is not marked as a response"
  else if !reply.echoes fqdn then
    some ("reply question " ++ questionText reply.question ++ " does not match " ++ fqdn)
  else none

/-- One message to a server and its reply, if it belongs to the query. -/
def exchange (network : Network ν) (transport : Transport) (server : SocketAddress)
    (fqdn : String) (id : UInt16) (message : List UInt8) : Act ν Reply := do
  let bytes ← send network transport server message
  let reply ← liftExcept (Reply.parse bytes)
  match mismatch? reply id fqdn with
  | some reason => throw (.transport server.text (transport.text ++ " " ++ reason))
  | none => return reply
where
  liftExcept {α : Type} (x : Except Fault α) : Act ν α := fun state => (x, state)

def locate (network : Network ν) (entry : String) : Act ν SocketAddress := fun state =>
  match ResolverAddress.parse entry with
  | .error cause => (.error (.invalidResolver cause), state)
  | .ok (.literal address) => (.ok address, state)
  | .ok (.host name port) =>
    let server := (ResolverAddress.host name port).text
    let (found, state) := network.lookUp name port state
    (match found with
      | .ok (address :: _) => .ok address
      | .ok [] => .error (.transport server "no addresses found")
      | .error .silent => .error (.timeout server)
      | .error (.failed reason) => .error (.transport server ("resolution failed: " ++ reason)),
      state)

/-- A query for the addresses of a name, under a number of its own.  A text that is no name
takes no number. -/
def freshQuery (network : Network ν) (fqdn : String) : Act ν (UInt16 × List UInt8) :=
  fun state =>
    match askedName fqdn with
    | .error fault => (.error fault, state)
    | .ok name =>
      let (id, state) := network.freshId state
      ((queryBytes id name .a).map fun message => (id, message), state)

def askServer (network : Network ν) (entry fqdn : String) : Act ν (List Record) := do
  let server ← locate network entry
  let (id, message) ← freshQuery network fqdn
  let first ← exchange network .datagram server fqdn id message
  let reply ← if first.truncated then exchange network .stream server fqdn id message
    else pure first
  if reply.isSuccess then return reply.records
  else throw (.rejected server.text reply.code.text)

/-- Asks servers in turn; the first that answers is enough. -/
def askInTurn (network : Network ν) (fqdn : String) : List String → Act ν (List Record)
  | [] => throw .allUnreachable
  | entry :: rest => fun state =>
    match askServer network entry fqdn state with
    | (.ok records, state) => (.ok records, state)
    | (.error _, state) => askInTurn network fqdn rest state

/-- Asks all servers of a list, which must not be empty. -/
def askAll (network : Network ν) (fqdn : String) (servers : List String) :
    Act ν (List Record) :=
  if servers.isEmpty then throw .noResolvers else askInTurn network fqdn servers

def delegate (network : Network ν) : Delegate ν :=
  { ask := fun call state => askAll network call.fqdn call.servers state }

end Resolver
end SplitHorizon
