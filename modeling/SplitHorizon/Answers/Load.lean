/-
From a document to the answers it configures.

Names are normalized on the way in, so that two spellings of one name are found
out as a repetition and every stored name is the one that a query looks up.
Within a section the resolvers are checked first, then the addresses, then the
aliases; the first fault ends the load.
-/
import SplitHorizon.Answers.Document
import SplitHorizon.Answers.Store
import SplitHorizon.Fault
import SplitHorizon.Fqdn
import SplitHorizon.Json.Reader

namespace SplitHorizon
namespace Answers

/-- A resolver as written, without the blanks around it. -/
def loadResolver (client : String) (host : String) : Except DocumentFault String :=
  if Text.isAllBlank host then .error (.blankResolver client) else .ok (Text.trim host)

def loadAddress (client name : String) (address : String) : Except DocumentFault Ipv4 :=
  match Ipv4.parse? (Text.trim address) with
  | some ip => .ok ip
  | none => .error (.invalidAddress client name address)

/-- The addresses of a name; there must be at least one. -/
def loadAddressRecord (client name : String) (record : AddressRecord) :
    Except DocumentFault AddressEntry :=
  match record.answer.getD [] with
  | [] => .error (.noAddresses client name)
  | texts => do
    let addresses ← texts.mapM (loadAddress client name)
    return { ttl := record.ttl, addresses := addresses }

/-- The alias of a name; its target must not be blank. -/
def loadAliasRecord (client name : String) (record : AliasRecord) :
    Except DocumentFault AliasEntry :=
  let target := record.answer.getD ""
  if Text.isAllBlank target then .error (.noTarget client name)
  else .ok { ttl := record.ttl, target := Fqdn.normalize target }

/-- Loads the records of one kind, each under its normalized name and none twice. -/
def loadNames {α β : Type} (client : String) (kind : RecordKind)
    (load : String → α → Except DocumentFault β) :
    NameMap β → List (String × α) → Except DocumentFault (NameMap β)
  | loaded, [] => .ok loaded
  | loaded, (name, record) :: rest => do
    let fqdn := Fqdn.normalize name
    let entry ← load fqdn record
    if loaded.contains fqdn then .error (.duplicateName client kind fqdn)
    else loadNames client kind load (loaded.add fqdn entry) rest

def loadSection (client : String) (part : ClientSection) : Except DocumentFault Tier := do
  let resolvers ← (part.resolvers.getD []).mapM (loadResolver client)
  let addresses ← loadNames client .a (loadAddressRecord client) [] (part.addresses.getD [])
  let aliases ← loadNames client .cname (loadAliasRecord client) [] (part.aliases.getD [])
  return { resolvers := resolvers, addresses := addresses, aliases := aliases }

/-- Keeps a tier under a key and says whether the key was taken.  The new tier
is kept in either case. -/
def insert (answers : Answers) (key : ClientKey) (tier : Tier) :
    Answers × Option DocumentFault :=
  (answers.put key tier,
   if answers.contains key then some (.duplicateClient key) else none)

def loadClients : Answers → Document → Except DocumentFault Answers
  | answers, [] => .ok answers
  | answers, (text, part) :: rest =>
    match ClientKey.parse? text with
    | none => .error (.invalidKey text)
    | some key => do
      let tier ← loadSection text part
      match answers.insert key tier with
      | (_, some fault) => .error fault
      | (answers, none) => loadClients answers rest

/-- The answers of a document text.  A blank text is a document without
clients. -/
def ofText (text : String) : Except DocumentFault Answers :=
  if Text.isAllBlank text then .ok empty
  else match (Json.parse? text).bind Document.ofJson? with
    | none => .error (.unreadable "not a JSON document of clients")
    | some document => loadClients empty document

/-- The answers of a document that may be missing; a missing one configures
nothing. -/
def load : Option String → Except DocumentFault Answers
  | none => .ok empty
  | some text => ofText text

end Answers
end SplitHorizon
