/-
The aliases followed so far in one resolution, oldest first.

A chain is a value: following one more alias makes a longer chain and leaves
the old one as it was, so two branches of a resolution never see each other's
hops.
-/
import SplitHorizon.Record

namespace SplitHorizon

structure AliasChain where
  hops : List Record
deriving DecidableEq, Repr

namespace AliasChain

def empty : AliasChain :=
  { hops := [] }

def follow (chain : AliasChain) (hop : Record) : AliasChain :=
  { hops := chain.hops ++ [hop] }

def length (chain : AliasChain) : Nat :=
  chain.hops.length

def isEmpty (chain : AliasChain) : Bool :=
  chain.hops.isEmpty

def names (chain : AliasChain) : List String :=
  chain.hops.map Record.name

@[simp]
theorem length_empty : empty.length = 0 := rfl

end AliasChain
end SplitHorizon
