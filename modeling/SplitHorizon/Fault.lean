/-
What can go wrong, and how it is said.

Each constructor is a cause.  The wording stands in one function for each type,
so that nothing else depends on it.
-/
import SplitHorizon.ClientKey
import SplitHorizon.Record

namespace SplitHorizon

/-- Why an answers document does not load. -/
inductive DocumentFault where
  /-- The text is not a JSON document of the right shape. -/
  | unreadable (reason : String)
  | invalidKey (key : String)
  | duplicateClient (key : ClientKey)
  | blankResolver (client : String)
  | noAddresses (client name : String)
  | invalidAddress (client name address : String)
  | noTarget (client name : String)
  | duplicateName (client : String) (kind : RecordKind) (name : String)
deriving DecidableEq, Repr

namespace DocumentFault

def message : DocumentFault → String
  | .unreadable reason => reason
  | .invalidKey key => "invalid client key '" ++ key ++ "'"
  | .duplicateClient key => "client '" ++ key.text ++ "' is defined more than once"
  | .blankResolver client => "client '" ++ client ++ "' has an empty recurse address"
  | .noAddresses client name =>
    "client '" ++ client ++ "': A record " ++ name ++ " has no addresses"
  | .invalidAddress client name address =>
    "client '" ++ client ++ "': A record " ++ name ++ " has invalid IPv4 address '" ++
      address ++ "'"
  | .noTarget client name => "client '" ++ client ++ "': CNAME " ++ name ++ " has no target"
  | .duplicateName client kind name =>
    "client '" ++ client ++ "': " ++ kind.text ++ " " ++ name ++ " is defined more than once"

end DocumentFault

/-- Why bytes are not a message. -/
inductive MessageFault where
  /-- The bytes do not decode. -/
  | undecodable (reason : String)
  | tooLarge (size : Nat)
  | lengthCut
  | bodyCut
deriving DecidableEq, Repr

namespace MessageFault

def message : MessageFault → String
  | .undecodable reason => reason
  | .tooLarge size => "Message too large for TCP framing: " ++ Text.decimal size ++ " bytes"
  | .lengthCut => "Failed to read message length: early eof"
  | .bodyCut => "Failed to read message body: early eof"

end MessageFault

/-- Why a text does not name a resolver. -/
inductive ResolverAddressFault where
  | blank
  | invalidPort (text : String)
  | invalidHost (text : String)
deriving DecidableEq, Repr

namespace ResolverAddressFault

def message : ResolverAddressFault → String
  | .blank => "empty address"
  | .invalidPort text => "bad port in '" ++ text ++ "'"
  | .invalidHost text => text

end ResolverAddressFault

inductive Fault where
  /-- A text is not a name that can be put into a message. -/
  | invalidName (reason : String)
  | invalidResolver (cause : ResolverAddressFault)
  | malformed (cause : MessageFault)
  | invalidDocument (cause : DocumentFault)
  | unreadableFile (path reason : String)
  | unresolved (name : String)
  | noResolvers
  | timeout (server : String)
  | transport (server reason : String)
  | rejected (server status : String)
  | allUnreachable
deriving DecidableEq, Repr

namespace Fault

def message : Fault → String
  | .invalidName reason => "Invalid domain name: " ++ reason
  | .invalidResolver cause => "Invalid upstream address: " ++ cause.message
  | .malformed cause => "Malformed DNS message: " ++ cause.message
  | .invalidDocument cause => "Failed to parse answers document: " ++ cause.message
  | .unreadableFile path reason => "Failed to read answers file " ++ path ++ ": " ++ reason
  | .unresolved name => "No answer for " ++ name
  | .noResolvers => "No upstream servers configured"
  | .timeout server => "Transport timeout talking to " ++ server
  | .transport server reason => "Transport error talking to " ++ server ++ ": " ++ reason
  | .rejected server status => "Upstream " ++ server ++ " answered " ++ status
  | .allUnreachable => "All upstream servers are unreachable"

/-- The faults of asking a resolver, as opposed to those found at home. -/
def isResolverFailure : Fault → Bool
  | .noResolvers | .timeout _ | .transport _ _ | .rejected _ _ | .allUnreachable => true
  | _ => false

end Fault
end SplitHorizon
