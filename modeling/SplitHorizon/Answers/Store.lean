/-
All configured answers: a tier for some clients and one for everybody else.

`lookup` is exact: a client without a tier of its own has none, and whoever
wants the default tier for it must ask for that.
-/
import SplitHorizon.Answers.Tier
import SplitHorizon.ClientKey

namespace SplitHorizon

structure Answers where
  clients : List (Ip × Tier)
  default : Option Tier
deriving DecidableEq, Repr

namespace Answers

def empty : Answers :=
  { clients := [], default := none }

def lookup (answers : Answers) : ClientKey → Option Tier
  | .default => answers.default
  | .client ip => List.lookup ip answers.clients

def contains (answers : Answers) (key : ClientKey) : Bool :=
  (answers.lookup key).isSome

/-- The tier kept under a key, or the one that configures nothing. -/
def tier (answers : Answers) (key : ClientKey) : Tier :=
  (answers.lookup key).getD Tier.empty

/-- Keeps a tier under a key, in place of any that was there. -/
def put (answers : Answers) (key : ClientKey) (tier : Tier) : Answers :=
  match key with
  | .default => { answers with default := some tier }
  | .client ip =>
    { answers with clients := answers.clients.filter (·.1 ≠ ip) ++ [(ip, tier)] }

/-- The resolvers to ask on behalf of a client: its own, then everybody's.  The
default key is not a client of its own and gets everybody's once. -/
def resolversFor (answers : Answers) (key : ClientKey) : List String :=
  let own := match key with
    | .default => []
    | .client _ => (answers.tier key).resolvers
  own ++ (answers.tier .default).resolvers

/-- The tiers of the store, the default one last. -/
def tiers (answers : Answers) : List Tier :=
  answers.clients.map Prod.snd ++ answers.default.toList

def clientCount (answers : Answers) : Nat :=
  answers.tiers.length

def recordCount (answers : Answers) : Nat :=
  answers.tiers.foldr (fun tier count => tier.recordCount + count) 0

def isEmpty (answers : Answers) : Bool :=
  answers.clients.isEmpty && answers.default.isNone

@[simp]
theorem lookup_empty (key : ClientKey) : empty.lookup key = none := by
  cases key <;> rfl

end Answers
end SplitHorizon
