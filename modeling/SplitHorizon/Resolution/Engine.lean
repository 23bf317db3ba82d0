/-
Finding the answer to a question.

A name is looked for in the client's own tier and then in the default tier.
Within a tier an alias comes first: if its target resolves, the answer is the
alias followed by the answer for the target; if not, the addresses of the name
itself are tried.  Only names reached over an alias in the default tier are
asked for elsewhere.

The room in a tier is the number of names that may still be looked at.  It ends
the walk round a circle of aliases, and it also tells whether an alias was
followed on the way, since the walk starts with the full room.
-/
import SplitHorizon.AliasChain
import SplitHorizon.Answers.Store
import SplitHorizon.Fqdn
import SplitHorizon.Resolution.Delegate
import SplitHorizon.Shuffle.Order

namespace SplitHorizon

structure Resolution (ρ δ : Type) where
  answers : Answers
  client : ClientKey
  defaultTtl : UInt32
  source : IndexSource ρ
  delegate : Delegate δ

namespace Resolution

structure Outside (ρ δ : Type) where
  random : ρ
  delegate : δ
deriving Repr, DecidableEq

/-- A step of a resolution, which may draw and ask. -/
abbrev Act (ρ δ α : Type) := StateM (Outside ρ δ) α

/-- How many names a walk along aliases may look at in one tier. -/
def maxHops : Nat := 10

variable {ρ δ : Type}

/-- A random order of the records. -/
def shuffled (r : Resolution ρ δ) (records : List Record) : Act ρ δ (List Record) :=
  fun outside =>
    let (records, random) := Shuffle.shuffle r.source records outside.random
    (records, { outside with random := random })

/-- Asks the delegate on behalf of the client.  A fault is no answer. -/
def asked (r : Resolution ρ δ) (fqdn : String) : Act ρ δ (Option (List Record)) :=
  fun outside =>
    let call := { fqdn := fqdn, servers := r.answers.resolversFor r.client }
    let (answer, delegate) := r.delegate.ask call outside.delegate
    (answer.toOption, { outside with delegate := delegate })

def addressRecords (r : Resolution ρ δ) (tier : Tier) (fqdn : String) : List Record :=
  match tier.addressesOf? fqdn with
  | some entry => entry.records fqdn r.defaultTtl
  | none => []

/-- The answer of the name itself, its alias left aside: the addresses in the
tier, or what lies beyond the tier. -/
def direct (r : Resolution ρ δ) (tier : Tier)
    (beyond : Nat → String → Act ρ δ (Option (List Record)))
    (room : Nat) (fqdn : String) : Act ρ δ (Option (List Record)) :=
  match r.addressRecords tier fqdn with
  | [] => beyond room fqdn
  | records => some <$> r.shuffled records

/-- The answer that starts in a tier.  `beyond` is asked where the tier has
neither a working alias nor an address.  An alias of a name to itself ends the
search for that name at once, and an empty answer of the target is none. -/
def inTier (r : Resolution ρ δ) (tier : Tier)
    (beyond : Nat → String → Act ρ δ (Option (List Record))) :
    Nat → String → Act ρ δ (Option (List Record))
  | 0, _ => pure none
  | room + 1, fqdn =>
    match tier.aliasOf? fqdn with
    | none => r.direct tier beyond (room + 1) fqdn
    | some entry =>
      let target := Fqdn.normalize entry.target
      if target = fqdn then pure none
      else do
        match ← r.inTier tier beyond room target with
        | some (first :: rest) =>
          pure (some (entry.record fqdn r.defaultTtl :: first :: rest))
        | _ => r.direct tier beyond (room + 1) fqdn

/-- Beyond the default tier there is the delegate, for a name that an alias led
to. -/
def beyondDefault (r : Resolution ρ δ) (room : Nat) (fqdn : String) :
    Act ρ δ (Option (List Record)) :=
  if room < maxHops then r.asked fqdn else pure none

def inDefault (r : Resolution ρ δ) (room : Nat) (fqdn : String) :
    Act ρ δ (Option (List Record)) :=
  r.inTier (r.answers.tier .default) r.beyondDefault room fqdn

/-- Beyond a client's own tier there is the default tier, with all the room
again. -/
def beyondOwn (r : Resolution ρ δ) (_room : Nat) (fqdn : String) :
    Act ρ δ (Option (List Record)) :=
  r.inDefault maxHops fqdn

def inOwn (r : Resolution ρ δ) (room : Nat) (fqdn : String) :
    Act ρ δ (Option (List Record)) :=
  r.inTier (r.answers.tier r.client) r.beyondOwn room fqdn

/-- The answer for a name, when the aliases of `chain` were followed to it. -/
def resolve (r : Resolution ρ δ) (name : String) (chain : AliasChain) :
    Act ρ δ (Option (List Record)) :=
  let room := maxHops - chain.length
  let fqdn := Fqdn.normalize name
  match r.client with
  | .default => r.inDefault room fqdn
  | .client _ => r.inOwn room fqdn

end Resolution
end SplitHorizon
