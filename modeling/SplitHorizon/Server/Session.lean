/-
A server over time.

The server answers from one generation of answers until the next one is loaded
or put in place.  A generation that does not load leaves the current one where
it is, and what a question sees is the generation that was current when it was
asked.
-/
import SplitHorizon.Answers.File
import SplitHorizon.Server.Datagram
import SplitHorizon.Server.Stream

namespace SplitHorizon
namespace Server

structure Setup (ρ δ : Type) where
  answersPath : String
  defaultTtl : UInt32
  source : IndexSource ρ
  delegate : Delegate δ

structure Session (ρ δ : Type) where
  /-- What stands at the path of the answers file. -/
  file : StoredFile
  current : Answers
  /-- A generation that somebody keeps hold of. -/
  held : Option Answers
  outside : Resolution.Outside ρ δ
deriving DecidableEq, Repr

structure Summary where
  clients : Nat
  records : Nat
deriving DecidableEq, Repr

inductive Step where
  /-- The answers file becomes another one. -/
  | write (file : StoredFile)
  | reload
  /-- A generation is put in place without a file. -/
  | replace (answers : Answers)
  | hold
  | askHeld
  | describe
  | query (client : Ip) (name : String)
  | datagram (client : Ip) (bytes : List UInt8)
  | stream (client : Ip) (bytes : List UInt8) (sendFails : Bool)
deriving DecidableEq, Repr

inductive StepResult where
  | done
  | loaded (summary : Summary)
  | failed (fault : Fault)
  | held (answers : Option Answers)
  | described (text : String)
  | records (records : List Record)
  | datagram (reply : Option (List UInt8))
  | stream (outcome : Option StreamOutcome)
deriving DecidableEq, Repr

namespace Session

variable {ρ δ : Type}

def summaryOf (answers : Answers) : Summary :=
  { clients := answers.clientCount, records := answers.recordCount }

/-- The session of a server that has loaded nothing yet. -/
def start (outside : Resolution.Outside ρ δ) : Session ρ δ :=
  { file := .missing, current := .empty, held := none, outside := outside }

def service (setup : Setup ρ δ) (session : Session ρ δ) : Service ρ δ :=
  { answers := session.current
    defaultTtl := setup.defaultTtl
    source := setup.source
    delegate := setup.delegate }

/-- Loads the answers file.  A file that does not load changes nothing. -/
def reload (setup : Setup ρ δ) (session : Session ρ δ) : Session ρ δ × StepResult :=
  match Answers.ofFile setup.answersPath session.file with
  | .ok answers => ({ session with current := answers }, .loaded (summaryOf answers))
  | .error fault => (session, .failed fault)

/-- Runs something that draws and asks, and turns what comes out into a
result. -/
def run {α : Type} (session : Session ρ δ) (act : Resolution.Act ρ δ α)
    (result : α → StepResult) : Session ρ δ × StepResult :=
  let (value, outside) := act session.outside
  ({ session with outside := outside }, result value)

def recordsResult : Except Fault (List Record) → StepResult
  | .ok records => .records records
  | .error fault => .failed fault

def step (setup : Setup ρ δ) (session : Session ρ δ) : Step → Session ρ δ × StepResult
  | .write file => ({ session with file := file }, .done)
  | .reload => session.reload setup
  | .replace answers => ({ session with current := answers }, .done)
  | .hold => ({ session with held := some session.current }, .done)
  | .askHeld => (session, .held session.held)
  | .describe => (session, .described setup.answersPath)
  | .query client name =>
    session.run ((session.service setup).query client name) recordsResult
  | .datagram client bytes =>
    session.run (handleDatagram (session.service setup) client bytes) .datagram
  | .stream client bytes sendFails =>
    session.run (handleStream (session.service setup) client sendFails bytes) .stream

def steps (setup : Setup ρ δ) : Session ρ δ → List Step → Session ρ δ × List StepResult
  | session, [] => (session, [])
  | session, s :: rest =>
    let (session, result) := session.step setup s
    let (session, results) := steps setup session rest
    (session, result :: results)

end Session
end Server
end SplitHorizon
