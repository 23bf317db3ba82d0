/-
Somebody to ask for names that nothing is configured for.

A delegate is told the name and the resolvers to use, and answers with records
or with a fault.  Its state is explicit, as with sources of indices.
-/
import SplitHorizon.Fault

namespace SplitHorizon

structure DelegateCall where
  fqdn : String
  servers : List String
deriving DecidableEq, Repr

/-- Somebody to ask, with a state of type `δ`. -/
structure Delegate (δ : Type) where
  ask : DelegateCall → δ → Except Fault (List Record) × δ

namespace Delegate

def ofFunction (f : DelegateCall → Except Fault (List Record)) : Delegate Unit :=
  { ask := fun call s => (f call, s) }

/-- A delegate that knows some names by heart and reaches nobody for the others.
Without resolvers to use it answers nothing at all. -/
def canned (known : List (String × Except Fault (List Record))) : Delegate Unit :=
  ofFunction fun call =>
    if call.servers.isEmpty then .error .noResolvers
    else (List.lookup call.fqdn known).getD (.error .allUnreachable)

/-- The same delegate, which also writes down what it was asked. -/
def recorded {δ : Type} (delegate : Delegate δ) : Delegate (δ × List DelegateCall) :=
  { ask := fun call s =>
      let (answer, inner) := delegate.ask call s.1
      (answer, inner, s.2 ++ [call]) }

end Delegate
end SplitHorizon
