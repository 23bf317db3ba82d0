/-
Shuffling.

The items are placed one after another.  The item at position `i` draws a place
among `0` to `i`: at `i` it stays last, elsewhere it takes that place and the
item found there moves to the end.  Each placement is undone by its draw, so
every sequence of draws leaves an ordering of its own.
-/
import SplitHorizon.Shuffle.Source

namespace SplitHorizon
namespace Shuffle

/-- Places one more item: it takes place `j`, and the item that was there, if
any, moves to the end. -/
def place {α : Type} (placed : List α) (item : α) (j : Nat) : List α :=
  match placed[j]? with
  | some moved => placed.set j item ++ [moved]
  | none => placed ++ [item]

/-- Places all items of a list, with draws from a source. -/
def placeAll {α ρ : Type} (source : IndexSource ρ) :
    List α → List α → ρ → List α × ρ
  | placed, [], s => (placed, s)
  | placed, item :: rest, s =>
    let (j, s) := source.draw placed.length s
    placeAll source (place placed item j) rest s

/-- A random ordering of a list. -/
def shuffle {α ρ : Type} (source : IndexSource ρ) (items : List α) (s : ρ) : List α × ρ :=
  placeAll source [] items s

theorem length_place {α : Type} (placed : List α) (item : α) (j : Nat) :
    (place placed item j).length = placed.length + 1 := by
  unfold place
  split <;> simp

theorem place_perm {α : Type} (placed : List α) (item : α) (j : Nat) :
    (place placed item j).Perm (item :: placed) := by
  unfold place
  split
  · next moved h =>
    obtain ⟨hj, rfl⟩ := List.getElem?_eq_some_iff.1 h
    have split : placed = placed.take j ++ placed[j] :: placed.drop (j + 1) := by simp
    rw [List.set_eq_take_append_cons_drop, if_pos hj]
    refine (List.perm_append_singleton placed[j] _).trans ?_
    have h₁ : (placed[j] :: (placed.take j ++ item :: placed.drop (j + 1))).Perm
        (placed[j] :: item :: (placed.take j ++ placed.drop (j + 1))) :=
      List.Perm.cons _ List.perm_middle
    have h₂ : (item :: placed).Perm
        (item :: placed[j] :: (placed.take j ++ placed.drop (j + 1))) :=
      List.Perm.cons _ ((List.Perm.of_eq split).trans List.perm_middle)
    exact h₁.trans ((List.Perm.swap _ _ _).trans h₂.symm)
  · exact List.perm_append_singleton item placed

theorem placeAll_perm {α ρ : Type} (source : IndexSource ρ) (items : List α) :
    ∀ (placed : List α) (s : ρ),
      (placeAll source placed items s).1.Perm (placed ++ items) := by
  induction items with
  | nil => intro placed s; simp [placeAll]
  | cons item rest ih =>
    intro placed s
    refine (ih _ _).trans ?_
    exact ((place_perm placed item _).append_right rest).trans
      List.perm_middle.symm

/-- A shuffle keeps every item as often as it was there. -/
theorem shuffle_perm {α ρ : Type} (source : IndexSource ρ) (items : List α) (s : ρ) :
    (shuffle source items s).1.Perm items := by
  exact placeAll_perm source items [] s

end Shuffle
end SplitHorizon
