/-
Resolution as a walk and its unwinding.

`inTier` follows the aliases of a tier by recursion, and what it does with a name
happens on the way back.  Here the two halves are apart.  `Tier.walk` lists the
names that the aliases lead to, and `unwind` visits the listed names from the
last to the first until one of them is hit.  `twoPhase` is resolution in these
terms, without recursion over the aliases.

The theorem this file exists for is `nonEmpty_resolve`: resolution, an empty
answer counted as none, is `twoPhase`.  It is an equality of actions, so it
covers what the source draws and what the delegate is asked, in order;
`callsOf` makes the questions to the delegate visible.
-/
import SplitHorizon.Resolution.Engine

namespace SplitHorizon

namespace Tier

/-- The name that the alias of a name leads to, unless it leads back at once. -/
def step? (tier : Tier) (fqdn : String) : Option String :=
  match tier.aliasOf? fqdn with
  | none => none
  | some entry =>
    if Fqdn.normalize entry.target = fqdn then none else some (Fqdn.normalize entry.target)

/-- The name has an alias to itself. -/
def isDead (tier : Tier) (fqdn : String) : Bool :=
  match tier.aliasOf? fqdn with
  | none => false
  | some entry => Fqdn.normalize entry.target = fqdn

/-- The names that the aliases lead to, the first one included; there is room for
so many. -/
def walk (tier : Tier) : Nat → String → List String
  | 0, _ => []
  | room + 1, fqdn =>
    fqdn :: match tier.step? fqdn with
      | none => []
      | some target => walk tier room target

end Tier

namespace Resolution

variable {ρ δ : Type}

/-! ## Actions -/

@[simp]
theorem pure_apply {α : Type} (a : α) (outside : Outside ρ δ) :
    (pure a : Act ρ δ α) outside = (a, outside) := rfl

@[simp]
theorem bind_apply {α β : Type} (x : Act ρ δ α) (f : α → Act ρ δ β) (outside : Outside ρ δ) :
    (x >>= f) outside = f (x outside).1 (x outside).2 := rfl

@[simp]
theorem map_apply {α β : Type} (f : α → β) (x : Act ρ δ α) (outside : Outside ρ δ) :
    (f <$> x) outside = (f (x outside).1, (x outside).2) := rfl

/-- The records of an answer, if it has any. -/
def nonEmpty (answer : Option (List Record)) : Option (List Record) :=
  answer.filter fun records => !records.isEmpty

theorem nonEmpty_nonEmpty (answer : Option (List Record)) :
    nonEmpty (nonEmpty answer) = nonEmpty answer := by
  rcases answer with _ | _ | _ <;> rfl

/-- The same resolution, which also writes down what it asks. -/
def recorded (r : Resolution ρ δ) : Resolution ρ (δ × List DelegateCall) :=
  { answers := r.answers
    client := r.client
    defaultTtl := r.defaultTtl
    source := r.source
    delegate := r.delegate.recorded }

/-- What a recorded action asks, in order, when it starts with nothing asked. -/
def callsOf {α : Type} (act : Act ρ (δ × List DelegateCall) α) (outside : Outside ρ δ) :
    List DelegateCall :=
  (act { random := outside.random, delegate := (outside.delegate, []) }).2.delegate.2

/-! ## Unwinding -/

/-- What one action gives or, if it gives nothing, what another does. -/
def otherwise {α : Type} (x y : Act ρ δ (Option α)) : Act ρ δ (Option α) := do
  match ← x with
  | some found => pure (some found)
  | none => y

/-- The first answer that some visits give. -/
def firstOf {α β : Type} (visit : α → Act ρ δ (Option β)) : List α → Act ρ δ (Option β)
  | [] => pure none
  | place :: rest => otherwise (visit place) (firstOf visit rest)

/-- The aliases of some names in a tier, as records. -/
def hops (r : Resolution ρ δ) (tier : Tier) (names : List String) : List Record :=
  names.filterMap fun name => (tier.aliasOf? name).map (·.record name r.defaultTtl)

/-- Visits a listed name at its place.  A name with an alias to itself is passed
over; what is hit is told behind the aliases of the names in front. -/
def visit (r : Resolution ρ δ) (tier : Tier) (hit : Nat → String → Act ρ δ (Option (List Record)))
    (names : List String) (place : String × Nat) : Act ρ δ (Option (List Record)) :=
  if tier.isDead place.1 then pure none
  else
    (fun found => (nonEmpty found).map (r.hops tier (names.take place.2) ++ ·)) <$>
      hit place.2 place.1

/-- Visits the listed names from the last to the first, up to the first hit. -/
def unwind (r : Resolution ρ δ) (tier : Tier) (hit : Nat → String → Act ρ δ (Option (List Record)))
    (names : List String) : Act ρ δ (Option (List Record)) :=
  firstOf (r.visit tier hit names) names.zipIdx.reverse

/-- What is hit at a name: the addresses that the tier has for it, in the order they are
drawn in, or else what lies beyond. -/
def hitOr (r : Resolution ρ δ) (tier : Tier) (beyond : Act ρ δ (Option (List Record)))
    (name : String) : Act ρ δ (Option (List Record)) :=
  match (tier.addressesOf? name).map (·.records name r.defaultTtl) with
  | none => beyond
  | some [] => beyond
  | some records => fun outside =>
    let (order, random) := Shuffle.shuffle r.source records outside.random
    (some order, { outside with random := random })

/-- One call of the delegate, with the resolvers of the client.  Records are an answer,
a fault is none. -/
def delegated (r : Resolution ρ δ) (name : String) : Act ρ δ (Option (List Record)) :=
  fun outside =>
    match r.delegate.ask { fqdn := name, servers := r.answers.resolversFor r.client }
      outside.delegate with
    | (.ok records, delegate) => (some records, { outside with delegate := delegate })
    | (.error _, delegate) => (none, { outside with delegate := delegate })

/-- Walk and unwinding in the default tier, when `start` aliases were followed
before.  Beyond it the delegate is called, but not for a name that no alias led
to. -/
def twoPhaseDefault (r : Resolution ρ δ) (name : String) (start : Nat) :
    Act ρ δ (Option (List Record)) :=
  let tier := r.answers.tier .default
  r.unwind tier
    (fun i name => r.hitOr tier (if 0 < start + i then r.delegated name else pure none) name)
    (tier.walk (maxHops - start) name)

/-- Walk and unwinding in a client's own tier.  Beyond it lies the default
tier, in which no alias was followed yet. -/
def twoPhaseOwn (r : Resolution ρ δ) (name : String) (start : Nat) :
    Act ρ δ (Option (List Record)) :=
  let tier := r.answers.tier r.client
  r.unwind tier (fun _ name => r.hitOr tier (r.twoPhaseDefault name 0) name)
    (tier.walk (maxHops - start) name)

/-- Walk and unwinding from the client's tier on. -/
def twoPhase (r : Resolution ρ δ) (name : String) (start : Nat) :
    Act ρ δ (Option (List Record)) :=
  match r.client with
  | .default => r.twoPhaseDefault (Fqdn.normalize name) start
  | .client _ => r.twoPhaseOwn (Fqdn.normalize name) start

/-! ## Unwinding by recursion

The names of a walk are visited from the last to the first, so unwinding a longer
walk unwinds what follows the first name, and visits that name if this fails. -/

theorem otherwise_of_some {α : Type} {x y : Act ρ δ (Option α)} {outside : Outside ρ δ}
    {found : α} (h : (x outside).1 = some found) : otherwise x y outside = x outside := by
  simp only [otherwise, bind_apply, h]
  rw [← h]
  rfl

theorem otherwise_of_none {α : Type} {x y : Act ρ δ (Option α)} {outside : Outside ρ δ}
    (h : (x outside).1 = none) : otherwise x y outside = y (x outside).2 := by
  simp only [otherwise, bind_apply, h]

theorem otherwise_none {α : Type} (x : Act ρ δ (Option α)) : otherwise x (pure none) = x := by
  funext outside
  cases h : (x outside).1 with
  | some found => exact otherwise_of_some h
  | none =>
    rw [otherwise_of_none h, pure_apply, ← h]
    rfl

theorem otherwise_assoc {α : Type} (x y z : Act ρ δ (Option α)) :
    otherwise (otherwise x y) z = otherwise x (otherwise y z) := by
  funext outside
  cases h : (x outside).1 with
  | some found =>
    have hxy : otherwise x y outside = x outside := otherwise_of_some h
    rw [otherwise_of_some h, otherwise_of_some (hxy ▸ h), hxy]
  | none =>
    rw [otherwise_of_none h]
    simp only [otherwise, bind_apply, h]

theorem map_otherwise {α β : Type} (f : α → β) (x y : Act ρ δ (Option α)) :
    Option.map f <$> otherwise x y = otherwise (Option.map f <$> x) (Option.map f <$> y) := by
  funext outside
  simp only [otherwise, map_apply, bind_apply]
  cases (x outside).1 <;> rfl

theorem firstOf_append {α β : Type} (visit : α → Act ρ δ (Option β)) (xs ys : List α) :
    firstOf visit (xs ++ ys) = otherwise (firstOf visit xs) (firstOf visit ys) := by
  induction xs with
  | nil => rfl
  | cons place rest ih => rw [List.cons_append, firstOf, firstOf, ih, otherwise_assoc]

theorem firstOf_map {α β γ : Type} (visit : β → Act ρ δ (Option γ)) (g : α → β) (xs : List α) :
    firstOf visit (xs.map g) = firstOf (fun a => visit (g a)) xs := by
  induction xs with
  | nil => rfl
  | cons place rest ih => rw [List.map_cons, firstOf, firstOf, ih]

theorem firstOf_mapped {α β γ : Type} (f : β → γ) (visit : α → Act ρ δ (Option β))
    (xs : List α) :
    firstOf (fun a => Option.map f <$> visit a) xs = Option.map f <$> firstOf visit xs := by
  induction xs with
  | nil => rfl
  | cons place rest ih => rw [firstOf, firstOf, ih, map_otherwise]

variable (r : Resolution ρ δ) (tier : Tier)

theorem hops_cons (name : String) (names : List String) :
    r.hops tier (name :: names) = r.hops tier [name] ++ r.hops tier names := by
  unfold hops
  rw [← List.singleton_append, List.filterMap_append]

/-- A place behind the first name is visited as in the walk without that name. -/
theorem visit_succ (hit : Nat → String → Act ρ δ (Option (List Record))) (fqdn : String)
    (names : List String) (place : String × Nat) :
    r.visit tier hit (fqdn :: names) (place.1, place.2 + 1) =
      Option.map (r.hops tier [fqdn] ++ ·) <$>
        r.visit tier (fun i => hit (i + 1)) names place := by
  unfold visit
  cases tier.isDead place.1 with
  | true => rfl
  | false =>
    funext outside
    simp only [Bool.false_eq_true, if_false, map_apply, Option.map_map, List.take_succ_cons]
    rw [r.hops_cons tier fqdn]
    simp only [Function.comp_def, List.append_assoc]

theorem unwind_cons (hit : Nat → String → Act ρ δ (Option (List Record))) (fqdn : String)
    (names : List String) :
    r.unwind tier hit (fqdn :: names) =
      otherwise (Option.map (r.hops tier [fqdn] ++ ·) <$>
          r.unwind tier (fun i => hit (i + 1)) names)
        (r.visit tier hit [fqdn] (fqdn, 0)) := by
  have hplaces : (fqdn :: names).zipIdx.reverse =
      names.zipIdx.reverse.map (fun place => (place.1, place.2 + 1)) ++ [(fqdn, 0)] := by
    rw [List.zipIdx_cons, List.zipIdx_succ, List.reverse_cons, List.map_reverse]
  have hrest : firstOf (r.visit tier hit (fqdn :: names))
        (names.zipIdx.reverse.map fun place => (place.1, place.2 + 1)) =
      Option.map (r.hops tier [fqdn] ++ ·) <$>
        r.unwind tier (fun i => hit (i + 1)) names := by
    rw [firstOf_map, unwind, ← firstOf_mapped]
    simp only [visit_succ]
  have hfirst : firstOf (r.visit tier hit (fqdn :: names)) [(fqdn, 0)] =
      r.visit tier hit [fqdn] (fqdn, 0) := by
    rw [firstOf, firstOf, otherwise_none]
    simp only [visit, List.take_zero]
  rw [unwind, hplaces, firstOf_append, hrest, hfirst]

/-- The first name has no alias in front of it. -/
theorem visit_first (hit : Nat → String → Act ρ δ (Option (List Record))) (fqdn : String) :
    r.visit tier hit [fqdn] (fqdn, 0) =
      if tier.isDead fqdn then pure none else nonEmpty <$> hit 0 fqdn := by
  unfold visit
  split
  · rfl
  · funext outside
    simp [hops]

/-- Unwinding sees of a hit only whether it has records, and which. -/
theorem unwind_congr {hit hit' : Nat → String → Act ρ δ (Option (List Record))}
    (h : ∀ i name, nonEmpty <$> hit i name = nonEmpty <$> hit' i name) (names : List String) :
    r.unwind tier hit names = r.unwind tier hit' names := by
  have hvisit : r.visit tier hit names = r.visit tier hit' names := by
    funext place
    have hmapped := congrArg
      (fun act => Option.map (r.hops tier (names.take place.2) ++ ·) <$> act) (h place.2 place.1)
    unfold visit
    split
    · rfl
    · exact hmapped
  rw [unwind, unwind, hvisit]

/-! ## Resolution is its unwinding -/

section

variable (beyond : Nat → String → Act ρ δ (Option (List Record))) (room : Nat) {fqdn : String}

theorem inTier_of_not_alias (h : tier.aliasOf? fqdn = none) :
    r.inTier tier beyond (room + 1) fqdn = r.direct tier beyond (room + 1) fqdn := by
  rw [inTier, h]

theorem inTier_of_self_alias {entry : AliasEntry} (h : tier.aliasOf? fqdn = some entry)
    (hself : Fqdn.normalize entry.target = fqdn) :
    r.inTier tier beyond (room + 1) fqdn = pure none := by
  simp only [inTier, h, if_pos hself]

/-- An alias to another name comes first, and the name itself after it. -/
theorem nonEmpty_inTier_of_alias {entry : AliasEntry} (h : tier.aliasOf? fqdn = some entry)
    (hself : Fqdn.normalize entry.target ≠ fqdn) :
    nonEmpty <$> r.inTier tier beyond (room + 1) fqdn =
      otherwise
        (Option.map (entry.record fqdn r.defaultTtl :: ·) <$>
          (nonEmpty <$> r.inTier tier beyond room (Fqdn.normalize entry.target)))
        (nonEmpty <$> r.direct tier beyond (room + 1) fqdn) := by
  funext outside
  simp only [inTier, h, if_neg hself, otherwise, map_apply, bind_apply]
  rcases (r.inTier tier beyond room (Fqdn.normalize entry.target) outside).1 with _ | _ | _ <;> rfl

/-- The answer of a name itself is what is hit at it. -/
theorem direct_eq_hitOr :
    r.direct tier beyond room fqdn = r.hitOr tier (beyond room fqdn) fqdn := by
  unfold direct addressRecords hitOr
  cases tier.addressesOf? fqdn with
  | none => rfl
  | some entry =>
    simp only [Option.map_some]
    cases entry.records fqdn r.defaultTtl with
    | nil => rfl
    | cons first rest => rfl

theorem asked_eq_delegated (name : String) : r.asked name = r.delegated name := by
  funext outside
  cases hask : r.delegate.ask { fqdn := name, servers := r.answers.resolversFor r.client }
    outside.delegate with
  | mk answer delegate =>
    simp only [asked, delegated, hask]
    cases answer with
    | error fault => rfl
    | ok records => rfl

end

/-- The answer of a tier is found by unwinding the walk in it. -/
theorem nonEmpty_inTier (beyond : Nat → String → Act ρ δ (Option (List Record)))
    (room : Nat) (fqdn : String) :
    nonEmpty <$> r.inTier tier beyond room fqdn =
      r.unwind tier (fun i name => r.hitOr tier (beyond (room - i) name) name)
        (tier.walk room fqdn) := by
  induction room generalizing fqdn with
  | zero => rfl
  | succ room ih =>
    rw [Tier.walk, unwind_cons, visit_first]
    cases halias : tier.aliasOf? fqdn with
    | none =>
      have hstep : tier.step? fqdn = none := by simp only [Tier.step?, halias]
      have hdead : tier.isDead fqdn = false := by simp only [Tier.isDead, halias]
      rw [r.inTier_of_not_alias tier beyond room halias, direct_eq_hitOr, hstep, hdead]
      rfl
    | some entry =>
      by_cases hself : Fqdn.normalize entry.target = fqdn
      · have hstep : tier.step? fqdn = none := by simp only [Tier.step?, halias, if_pos hself]
        have hdead : tier.isDead fqdn = true := by simp [Tier.isDead, halias, hself]
        rw [r.inTier_of_self_alias tier beyond room halias hself, hstep, hdead]
        rfl
      · have hstep : tier.step? fqdn = some (Fqdn.normalize entry.target) := by
          simp only [Tier.step?, halias, if_neg hself]
        have hdead : tier.isDead fqdn = false := by simp [Tier.isDead, halias, hself]
        have hhop : r.hops tier [fqdn] = [entry.record fqdn r.defaultTtl] := by
          simp [hops, halias]
        rw [r.nonEmpty_inTier_of_alias tier beyond room halias hself, direct_eq_hitOr, ih, hstep,
          hdead, hhop]
        simp only [Nat.add_sub_add_right]
        rfl

theorem nonEmpty_inDefault (start : Nat) (fqdn : String) :
    nonEmpty <$> r.inDefault (maxHops - start) fqdn = r.twoPhaseDefault fqdn start := by
  rw [inDefault, nonEmpty_inTier, twoPhaseDefault]
  have hroom : ∀ i, maxHops - start - i < maxHops ↔ 0 < start + i := by
    intro i
    unfold maxHops
    omega
  simp only [beyondDefault, hroom, asked_eq_delegated]

theorem nonEmpty_inOwn (start : Nat) (fqdn : String) :
    nonEmpty <$> r.inOwn (maxHops - start) fqdn = r.twoPhaseOwn fqdn start := by
  rw [inOwn, nonEmpty_inTier, twoPhaseOwn]
  refine r.unwind_congr _ (fun i name => ?_) _
  have hbeyond : r.twoPhaseDefault name 0 =
      nonEmpty <$> r.beyondOwn (maxHops - start - i) name := by
    rw [beyondOwn, ← nonEmpty_inDefault]
    rfl
  have hnonEmpty : nonEmpty <$> r.beyondOwn (maxHops - start - i) name =
      nonEmpty <$> r.twoPhaseDefault name 0 := by
    rw [hbeyond]
    funext outside
    simp only [map_apply, nonEmpty_nonEmpty]
  unfold hitOr
  split
  · exact hnonEmpty
  · exact hnonEmpty
  · rfl

/-- Resolution is a walk and its unwinding: the same records, the same draws and
the same questions to the delegate in the same order. -/
theorem nonEmpty_resolve (name : String) (chain : AliasChain) :
    nonEmpty <$> r.resolve name chain = r.twoPhase name chain.length ∧
      ∀ outside, callsOf (r.recorded.resolve name chain) outside =
        callsOf (r.recorded.twoPhase name chain.length) outside := by
  have hequal : ∀ {δ : Type} (r : Resolution ρ δ),
      nonEmpty <$> r.resolve name chain = r.twoPhase name chain.length := by
    intro δ r
    unfold resolve twoPhase
    cases r.client with
    | default => exact r.nonEmpty_inDefault _ _
    | client _ => exact r.nonEmpty_inOwn _ _
  refine ⟨hequal r, fun outside => ?_⟩
  unfold callsOf
  rw [← hequal r.recorded, map_apply]

end Resolution
end SplitHorizon
