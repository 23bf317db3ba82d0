/-
The answers configured for one client, or for everybody.

A tier maps names to addresses and to aliases and lists resolvers to ask.  The
maps are lists of pairs in which the first pair of a name counts, so that a
tier can be compared and walked through in proofs; `NameMap.get?` is the view
through which everything else sees them.
-/
import SplitHorizon.Record

namespace SplitHorizon

abbrev NameMap (α : Type) := List (String × α)

namespace NameMap

def get? {α : Type} (map : NameMap α) (name : String) : Option α :=
  List.lookup name map

def contains {α : Type} (map : NameMap α) (name : String) : Bool :=
  (map.get? name).isSome

/-- Puts a value under a name that the map does not hold yet. -/
def add {α : Type} (map : NameMap α) (name : String) (value : α) : NameMap α :=
  map ++ [(name, value)]

end NameMap

/-- The addresses of a name, with a TTL of their own or none. -/
structure AddressEntry where
  ttl : Option UInt32
  addresses : List Ipv4
deriving DecidableEq, Repr

/-- The name that a name stands for, with a TTL of its own or none. -/
structure AliasEntry where
  ttl : Option UInt32
  target : String
deriving DecidableEq, Repr

namespace AddressEntry

/-- The TTL to serve: the entry's own, else the one given. -/
def ttlOr (entry : AddressEntry) (defaultTtl : UInt32) : UInt32 :=
  entry.ttl.getD defaultTtl

/-- One record for each address, in the configured order. -/
def records (entry : AddressEntry) (name : String) (defaultTtl : UInt32) : List Record :=
  entry.addresses.map (Record.address name (entry.ttlOr defaultTtl))

end AddressEntry

namespace AliasEntry

def ttlOr (entry : AliasEntry) (defaultTtl : UInt32) : UInt32 :=
  entry.ttl.getD defaultTtl

def record (entry : AliasEntry) (name : String) (defaultTtl : UInt32) : Record :=
  Record.canonical name (entry.ttlOr defaultTtl) entry.target

end AliasEntry

structure Tier where
  resolvers : List String
  addresses : NameMap AddressEntry
  aliases : NameMap AliasEntry
deriving DecidableEq, Repr

namespace Tier

def empty : Tier :=
  { resolvers := [], addresses := [], aliases := [] }

def addressesOf? (tier : Tier) (name : String) : Option AddressEntry :=
  tier.addresses.get? name

def aliasOf? (tier : Tier) (name : String) : Option AliasEntry :=
  tier.aliases.get? name

def recordCount (tier : Tier) : Nat :=
  tier.addresses.length + tier.aliases.length

end Tier
end SplitHorizon
