/-
Sources of indices.

A source answers a draw below a bound with a number that keeps to the bound, so
a shuffle needs no check of its own.  The state of the source is explicit: what
was drawn before can matter for what is drawn next, and nothing else can.
-/

namespace SplitHorizon

/-- A source of numbers from zero up to a bound, with a state of type `ρ`. -/
structure IndexSource (ρ : Type) where
  draw : (upper : Nat) → ρ → Fin (upper + 1) × ρ

namespace IndexSource

/-- The source that returns every bound itself, so that nothing moves. -/
def still : IndexSource Unit :=
  { draw := fun upper s => (Fin.last upper, s) }

/-- The source that returns the numbers of a list in turn, each cut down to the
bound, and the bound itself when the list has run out. -/
def scripted : IndexSource (List Nat) :=
  { draw := fun upper s =>
      match s with
      | [] => (Fin.last upper, [])
      | j :: rest => (⟨min j upper, by omega⟩, rest) }

/-- The same source, which also writes down the bounds it was asked for. -/
def recorded {ρ : Type} (source : IndexSource ρ) : IndexSource (ρ × List Nat) :=
  { draw := fun upper s =>
      let (j, inner) := source.draw upper s.1
      (j, inner, s.2 ++ [upper]) }

end IndexSource
end SplitHorizon
