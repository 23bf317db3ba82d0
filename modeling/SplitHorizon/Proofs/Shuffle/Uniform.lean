/-
Every ordering from one sequence of draws.

A shuffle asks its source for one number below each of the bounds `0`, `1`, `2` and so on,
and its result depends on nothing but the answers.  `ordering` is this dependence, played
back from a list.  A placement can be undone by whoever knows where the item went, and in a
list without repetitions the item itself tells that.  So the ordering gives away the last
draw, then the one before it, and so on down to the first.

`shuffle_uniform` says that the sequences of draws and the orderings match one to one.  A
source that is fair to the indices is therefore fair to the orderings.
-/
import Mathlib.Data.List.Permutation
import Mathlib.Data.Set.Card
import SplitHorizon.Shuffle.Order

namespace SplitHorizon
namespace Shuffle

variable {α ρ : Type}

/-! ## Draws -/

/-- One number for each bound from `first` on, none of them above its bound. -/
structure Keeps (first count : Nat) (draws : List Nat) : Prop where
  length : draws.length = count
  le : ∀ i (h : i < draws.length), draws[i] ≤ first + i

theorem keeps_nil (first : Nat) : Keeps first 0 [] :=
  ⟨rfl, fun _ h => absurd h (Nat.not_lt_zero _)⟩

theorem keeps_cons_iff {first count j : Nat} {rest : List Nat} :
    Keeps first (count + 1) (j :: rest) ↔ j ≤ first ∧ Keeps (first + 1) count rest := by
  constructor
  · intro h
    refine ⟨h.le 0 (Nat.succ_pos _), Nat.succ.inj h.length, fun i hi => ?_⟩
    have hle := h.le (i + 1) (Nat.succ_lt_succ hi)
    rw [List.getElem_cons_succ] at hle
    omega
  · rintro ⟨hj, hrest⟩
    refine ⟨congrArg Nat.succ hrest.length, fun i hi => ?_⟩
    cases i with
    | zero => exact hj
    | succ i =>
      have hle := hrest.le i (Nat.lt_of_succ_lt_succ hi)
      rw [List.getElem_cons_succ]
      omega

theorem Keeps.exists_cons {first count : Nat} {draws : List Nat}
    (h : Keeps first (count + 1) draws) :
    ∃ j rest, draws = j :: rest ∧ j ≤ first ∧ Keeps (first + 1) count rest := by
  cases draws with
  | nil => cases h.length
  | cons j rest => exact ⟨j, rest, rfl, keeps_cons_iff.1 h⟩

/-- The numbers that a source gives for the bounds from `first` on. -/
def drawn (source : IndexSource ρ) : Nat → Nat → ρ → List Nat × ρ
  | _, 0, s => ([], s)
  | first, count + 1, s =>
    let (j, s) := source.draw first s
    let (rest, s) := drawn source (first + 1) count s
    (j.val :: rest, s)

theorem keeps_drawn (source : IndexSource ρ) (first count : Nat) (s : ρ) :
    Keeps first count (drawn source first count s).1 := by
  induction count generalizing first s with
  | zero => exact keeps_nil first
  | succ count ih =>
    exact keeps_cons_iff.2 ⟨Nat.le_of_lt_succ (source.draw first s).1.isLt, ih _ _⟩

/-- A list that keeps to the bounds is played back as it is. -/
theorem drawn_scripted {first count : Nat} {draws : List Nat} (h : Keeps first count draws) :
    drawn IndexSource.scripted first count draws = (draws, []) := by
  induction count generalizing first draws with
  | zero =>
    obtain rfl := List.length_eq_zero_iff.1 h.length
    rfl
  | succ count ih =>
    obtain ⟨j, rest, rfl, hj, hrest⟩ := h.exists_cons
    simp only [drawn, IndexSource.scripted, Nat.min_eq_left hj] at ih ⊢
    rw [ih hrest]

/-! ## The ordering of a sequence of draws -/

/-- The ordering that a sequence of draws leaves. -/
def ordering (items : List α) (draws : List Nat) : List α :=
  (shuffle IndexSource.scripted items draws).1

theorem placeAll_scripted_cons {placed rest : List α} {item : α} {j : Nat} {draws : List Nat}
    (hj : j ≤ placed.length) :
    placeAll IndexSource.scripted placed (item :: rest) (j :: draws) =
      placeAll IndexSource.scripted (place placed item j) rest draws := by
  simp only [placeAll, IndexSource.scripted, Nat.min_eq_left hj]

/-- What is placed depends on the source through its answers only. -/
theorem placeAll_eq (source : IndexSource ρ) (items placed : List α) (s : ρ) :
    placeAll source placed items s =
      ((placeAll IndexSource.scripted placed items
        (drawn source placed.length items.length s).1).1,
        (drawn source placed.length items.length s).2) := by
  induction items generalizing placed s with
  | nil => rfl
  | cons item rest ih =>
    have hj := Nat.le_of_lt_succ (source.draw placed.length s).1.isLt
    have hrest := ih (place placed item (source.draw placed.length s).1)
      (source.draw placed.length s).2
    rw [length_place] at hrest
    simp only [List.length_cons, drawn]
    rw [placeAll_scripted_cons hj]
    exact hrest

theorem shuffle_eq (source : IndexSource ρ) (items : List α) (s : ρ) :
    shuffle source items s =
      (ordering items (drawn source 0 items.length s).1, (drawn source 0 items.length s).2) :=
  placeAll_eq source items [] s

theorem ordering_perm (items : List α) (draws : List Nat) : (ordering items draws).Perm items :=
  shuffle_perm IndexSource.scripted items draws

/-! ## Bounds -/

theorem drawn_recorded (source : IndexSource ρ) (first count : Nat) (s : ρ) (asked : List Nat) :
    drawn source.recorded first count (s, asked) =
      ((drawn source first count s).1, (drawn source first count s).2,
        asked ++ List.range' first count) := by
  induction count generalizing first s asked with
  | zero => simp [drawn]
  | succ count ih =>
    simp only [drawn, IndexSource.recorded] at ih ⊢
    rw [ih, List.range'_succ, List.append_assoc, List.singleton_append]

/-- A shuffle asks for the bounds from zero on, one for each item, and writing them down
changes nothing else. -/
theorem shuffle_recorded (source : IndexSource ρ) (items : List α) (s : ρ) (asked : List Nat) :
    shuffle source.recorded items (s, asked) =
      ((shuffle source items s).1, (shuffle source items s).2,
        asked ++ List.range items.length) := by
  rw [shuffle_eq, shuffle_eq source, drawn_recorded, List.range_eq_range']

/-! ## Undoing a placement -/

/-- The items as they stood before one was placed at `j`: the last one goes back there. -/
def displaced (ordered : List α) (j : Nat) : List α :=
  match ordered.getLast? with
  | some last => ordered.dropLast.set j last
  | none => []

@[simp]
theorem displaced_append_singleton (front : List α) (last : α) (j : Nat) :
    displaced (front ++ [last]) j = front.set j last := by
  simp [displaced]

theorem place_of_lt {placed : List α} {j : Nat} (h : j < placed.length) (item : α) :
    place placed item j = placed.set j item ++ [placed[j]] := by
  rw [place, List.getElem?_eq_getElem h]

theorem place_length (placed : List α) (item : α) :
    place placed item placed.length = placed ++ [item] := by
  rw [place, List.getElem?_eq_none (Nat.le_refl _)]

theorem displaced_place {placed : List α} {j : Nat} (hj : j ≤ placed.length) (item : α) :
    displaced (place placed item j) j = placed := by
  rcases Nat.lt_or_eq_of_le hj with hlt | rfl
  · rw [place_of_lt hlt, displaced_append_singleton, List.set_set, List.set_getElem_self]
  · rw [place_length, displaced_append_singleton, List.set_eq_of_length_le (Nat.le_refl _)]

theorem getElem?_place {placed : List α} {j : Nat} (hj : j ≤ placed.length) (item : α) :
    (place placed item j)[j]? = some item := by
  rcases Nat.lt_or_eq_of_le hj with hlt | rfl
  · simp [place_of_lt hlt, List.getElem?_append, hlt]
  · simp [place_length]

theorem place_displaced {ordered : List α} {item : α} {j : Nat} (h : ordered[j]? = some item) :
    place (displaced ordered j) item j = ordered := by
  rcases List.eq_nil_or_concat' ordered with rfl | ⟨front, last, rfl⟩
  · cases h
  obtain ⟨hj, hitem⟩ := List.getElem?_eq_some_iff.1 h
  rw [List.length_append, List.length_singleton] at hj
  rw [displaced_append_singleton]
  rcases Nat.lt_or_eq_of_le (Nat.le_of_lt_succ hj) with hlt | rfl
  · have hset : j < (front.set j last).length := by simpa using hlt
    rw [List.getElem_append_left hlt] at hitem
    rw [place_of_lt hset, List.set_set, List.getElem_set_self, ← hitem, List.set_getElem_self]
  · rw [List.set_eq_of_length_le (Nat.le_refl _), place_length]
    simpa using hitem.symm

/-- Where an item stands in a list without repetitions tells where it was placed. -/
theorem place_injective {placed other : List α} {item : α} {i j : Nat}
    (hnodup : (item :: placed).Nodup) (hi : i ≤ placed.length) (hj : j ≤ other.length)
    (h : place placed item i = place other item j) : placed = other ∧ i = j := by
  have hplaced : (place placed item i).Nodup := (place_perm placed item i).nodup_iff.2 hnodup
  have hat : (place placed item i)[i]? = some item := getElem?_place hi item
  have hother : (place placed item i)[j]? = some item := h ▸ getElem?_place hj item
  obtain ⟨hlt, _⟩ := List.getElem?_eq_some_iff.1 hat
  obtain rfl : i = j := (List.getElem?_inj hlt hplaced).1 (hat.trans hother.symm)
  refine ⟨?_, rfl⟩
  rw [← displaced_place hi item, h, displaced_place hj item]

/-! ## Orderings -/

/-- By induction on the items that are left: the last placements are undone first. -/
theorem placeAll_injective {items placed other : List α} {draws draws' : List Nat}
    (hnodup : (placed ++ items).Nodup) (hnodup' : (other ++ items).Nodup)
    (hlength : placed.length = other.length)
    (hdraws : Keeps placed.length items.length draws)
    (hdraws' : Keeps other.length items.length draws')
    (h : (placeAll IndexSource.scripted placed items draws).1 =
      (placeAll IndexSource.scripted other items draws').1) :
    placed = other ∧ draws = draws' := by
  induction items generalizing placed other draws draws' with
  | nil =>
    obtain rfl := List.length_eq_zero_iff.1 hdraws.length
    obtain rfl := List.length_eq_zero_iff.1 hdraws'.length
    exact ⟨h, rfl⟩
  | cons item rest ih =>
    obtain ⟨i, later, rfl, hi, hlater⟩ := hdraws.exists_cons
    obtain ⟨j, later', rfl, hj, hlater'⟩ := hdraws'.exists_cons
    rw [placeAll_scripted_cons hi, placeAll_scripted_cons hj] at h
    have hplaced : ∀ {list : List α} (place : Nat), (list ++ item :: rest).Nodup →
        (Shuffle.place list item place ++ rest).Nodup := fun place hlist =>
      (((place_perm _ item place).append_right rest).trans List.perm_middle.symm).nodup_iff.2 hlist
    obtain ⟨hsame, rfl⟩ := ih (hplaced i hnodup) (hplaced j hnodup')
      (by rw [length_place, length_place, hlength]) (by rwa [length_place])
      (by rwa [length_place]) h
    have hfirst : (item :: placed).Nodup :=
      (List.perm_middle.nodup_iff.1 hnodup).of_append_left
    obtain ⟨rfl, rfl⟩ := place_injective hfirst hi hj hsame
    exact ⟨rfl, rfl⟩

/-- Any ordering of what is placed and what is left can be reached, from some ordering of
what is placed. -/
theorem exists_placeAll {items placed ordered : List α} (h : ordered.Perm (placed ++ items)) :
    ∃ start draws, start.Perm placed ∧ Keeps placed.length items.length draws ∧
      (placeAll IndexSource.scripted start items draws).1 = ordered := by
  induction items generalizing placed with
  | nil => exact ⟨ordered, [], by simpa using h, keeps_nil _, rfl⟩
  | cons item rest ih =>
    obtain ⟨middle, draws, hmiddle, hdraws, hordered⟩ :=
      @ih (item :: placed) (h.trans List.perm_middle)
    obtain ⟨j, hj⟩ := List.mem_iff_getElem?.1 (hmiddle.mem_iff.2 List.mem_cons_self)
    have hback : place (displaced middle j) item j = middle := place_displaced hj
    have hstart : (displaced middle j).Perm placed := by
      have hperm := (place_perm (displaced middle j) item j).symm
      rw [hback] at hperm
      exact (hperm.trans hmiddle).cons_inv
    have hle : j ≤ placed.length := by
      obtain ⟨hlt, -⟩ := List.getElem?_eq_some_iff.1 hj
      rw [hmiddle.length_eq, List.length_cons] at hlt
      omega
    refine ⟨displaced middle j, j :: draws, hstart, keeps_cons_iff.2 ⟨hle, hdraws⟩, ?_⟩
    rw [placeAll_scripted_cons (hstart.length_eq ▸ hle), hback, hordered]

theorem ordering_bijOn {items : List α} (hnodup : items.Nodup) :
    Set.BijOn (ordering items) {draws | Keeps 0 items.length draws}
      {ordered | ordered.Perm items} := by
  refine ⟨fun draws _ => ordering_perm items draws, fun draws hdraws draws' hdraws' h => ?_,
    fun ordered hordered => ?_⟩
  · exact (@placeAll_injective _ items [] [] _ _ hnodup hnodup rfl hdraws hdraws' h).2
  · obtain ⟨start, draws, hstart, hdraws, h⟩ := @exists_placeAll _ items [] ordered hordered
    obtain rfl := hstart.eq_nil
    exact ⟨draws, hdraws, h⟩

theorem ncard_orderings {items : List α} (hnodup : items.Nodup) :
    {ordered : List α | ordered.Perm items}.ncard = items.length.factorial := by
  let orderings : Finset (List α) := ⟨items.permutations, List.nodup_permutations items hnodup⟩
  have hmem : {ordered : List α | ordered.Perm items} = orderings := by
    ext ordered
    exact List.mem_permutations.symm
  rw [hmem, Set.ncard_coe_finset]
  exact List.length_permutations items

/-- A shuffle leaves an ordering of its items, for which it asks the bounds from zero on,
one for each item, and which depends on nothing but the answers.  If no item is repeated,
each of the `n!` orderings comes from exactly one sequence of answers. -/
theorem shuffle_uniform (items : List α) :
    (items.Nodup →
      Set.BijOn (ordering items) {draws | Keeps 0 items.length draws}
          {ordered | ordered.Perm items} ∧
        {ordered : List α | ordered.Perm items}.ncard = items.length.factorial) ∧
      (∀ draws, Keeps 0 items.length draws →
        drawn IndexSource.scripted 0 items.length draws = (draws, [])) ∧
      ∀ {ρ : Type} (source : IndexSource ρ) (s : ρ) (asked : List Nat), ∃ draws after,
        drawn source 0 items.length s = (draws, after) ∧ Keeps 0 items.length draws ∧
        shuffle source items s = (ordering items draws, after) ∧
        shuffle source.recorded items (s, asked) =
          (ordering items draws, after, asked ++ List.range items.length) ∧
        (ordering items draws).Perm items := by
  refine ⟨fun hnodup => ⟨ordering_bijOn hnodup, ncard_orderings hnodup⟩,
    fun draws => drawn_scripted, fun source s asked => ?_⟩
  refine ⟨_, _, rfl, keeps_drawn source 0 items.length s, shuffle_eq source items s, ?_,
    ordering_perm items _⟩
  rw [shuffle_recorded, shuffle_eq]

/-- Each of the six orderings of three items comes from one of the draws `[0, a, b]`. -/
theorem three_shuffled_uniformly :
    ([1, 2, 3] : List Nat).Nodup ∧
      Set.BijOn (ordering [1, 2, 3]) {draws | Keeps 0 3 draws}
          {ordered | ordered.Perm [1, 2, 3]} ∧
      {ordered : List Nat | ordered.Perm [1, 2, 3]}.ncard = 6 ∧
      ordering [1, 2, 3] [0, 0, 0] = [3, 1, 2] := by
  have hnodup : ([1, 2, 3] : List Nat).Nodup := by decide
  obtain ⟨hbij, hcard⟩ := (shuffle_uniform [1, 2, 3]).1 hnodup
  exact ⟨hnodup, hbij, hcard, by decide⟩

end Shuffle
end SplitHorizon
