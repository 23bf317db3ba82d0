/-
How often the delegate is asked, and for which names.

The room of a walk does not bound the questions of a resolution by itself: wherever
the client's own tier has nothing for a name, the default tier is walked through with
all the room again.  `AsksAtMost` counts the questions of an action, whatever was
asked before it, and adds up along `>>=`; one step of the walk in a tier then asks
what its target asks and what lies beyond the tier asks.

In the default tier every name but the first costs one question, and behind each name
of a client's own tier lies such a walk.  `resolve_asks_within_limit` says that these
bounds hold for every store and delegate and that both are reached: by two names that
are aliases of each other in either tier, with nobody to answer for them.
-/
import SplitHorizon.Proofs.Resolution.Unwinding

namespace SplitHorizon

/-- An alias of the tier leads to the name. -/
def Tier.IsTarget (tier : Tier) (name : String) : Prop :=
  ∃ owner entry, tier.aliasOf? owner = some entry ∧ Fqdn.normalize entry.target = name

namespace Resolution

variable {ρ δ α β : Type}

/-! ## Counting questions -/

/-- From every state on, the action asks no more than so many questions, all of them
allowed. -/
def AsksAtMost (act : Act ρ (δ × List DelegateCall) α) (limit : Nat)
    (allowed : DelegateCall → Prop) : Prop :=
  ∀ outside, ∃ calls, (act outside).2.delegate.2 = outside.delegate.2 ++ calls ∧
    calls.length ≤ limit ∧ ∀ call ∈ calls, allowed call

namespace AsksAtMost

variable {act : Act ρ (δ × List DelegateCall) α} {n m : Nat} {allowed : DelegateCall → Prop}

/-- An action that leaves the record of questions alone asks nothing. -/
theorem of_unchanged (h : ∀ outside, (act outside).2.delegate = outside.delegate) :
    AsksAtMost act 0 allowed := by
  intro outside
  refine ⟨[], ?_, Nat.le_refl 0, fun call hcall => absurd hcall List.not_mem_nil⟩
  rw [h outside, List.append_nil]

protected theorem pure (a : α) :
    AsksAtMost (pure a : Act ρ (δ × List DelegateCall) α) 0 allowed :=
  of_unchanged fun _ => rfl

protected theorem bind {next : α → Act ρ (δ × List DelegateCall) β}
    (hact : AsksAtMost act n allowed) (hnext : ∀ a, AsksAtMost (next a) m allowed) :
    AsksAtMost (act >>= next) (n + m) allowed := by
  intro outside
  obtain ⟨first, hfirst, hfirstLength, hfirstAllowed⟩ := hact outside
  obtain ⟨second, hsecond, hsecondLength, hsecondAllowed⟩ :=
    hnext (act outside).1 (act outside).2
  refine ⟨first ++ second, ?_, ?_, fun call hcall => ?_⟩
  · rw [bind_apply, hsecond, hfirst, List.append_assoc]
  · rw [List.length_append]
    exact Nat.add_le_add hfirstLength hsecondLength
  · rcases List.mem_append.1 hcall with hcall | hcall
    · exact hfirstAllowed call hcall
    · exact hsecondAllowed call hcall

theorem mono {more : DelegateCall → Prop} (h : AsksAtMost act n allowed) (hle : n ≤ m)
    (hmore : ∀ call, allowed call → more call) : AsksAtMost act m more := by
  intro outside
  obtain ⟨calls, hcalls, hlength, hallowed⟩ := h outside
  exact ⟨calls, hcalls, Nat.le_trans hlength hle, fun call hcall =>
    hmore call (hallowed call hcall)⟩

theorem callsOf (h : AsksAtMost act n allowed) (outside : Outside ρ δ) :
    (callsOf act outside).length ≤ n ∧ ∀ call ∈ Resolution.callsOf act outside, allowed call := by
  obtain ⟨calls, hcalls, hlength, hallowed⟩ :=
    h { random := outside.random, delegate := (outside.delegate, []) }
  have hsame : Resolution.callsOf act outside = calls := hcalls
  rw [hsame]
  exact ⟨hlength, hallowed⟩

end AsksAtMost

/-! ## Questions of a walk -/

variable {r : Resolution ρ δ} {tier : Tier} {room n m : Nat} {name : String}
  {allowed : DelegateCall → Prop}

section

variable {beyond : Nat → String → Act ρ (δ × List DelegateCall) (Option (List Record))}

theorem asksAtMost_direct (h : AsksAtMost (beyond room name) n allowed) :
    AsksAtMost (r.recorded.direct tier beyond room name) n allowed := by
  unfold direct
  split
  · exact h
  · exact AsksAtMost.mono (AsksAtMost.of_unchanged fun _ => rfl) (Nat.zero_le n) fun _ h => h

/-- A step of the walk asks what the target asks, and then what lies beyond the tier
asks for the name itself. -/
theorem asksAtMost_inTier_succ
    (htarget : ∀ target, tier.IsTarget target →
      AsksAtMost (r.recorded.inTier tier beyond room target) n allowed)
    (hbeyond : AsksAtMost (beyond (room + 1) name) m allowed) :
    AsksAtMost (r.recorded.inTier tier beyond (room + 1) name) (n + m) allowed := by
  have hdirect : AsksAtMost (r.recorded.direct tier beyond (room + 1) name) m allowed :=
    asksAtMost_direct hbeyond
  cases halias : tier.aliasOf? name with
  | none =>
    rw [r.recorded.inTier_of_not_alias tier beyond room halias]
    exact hdirect.mono (Nat.le_add_left m n) fun _ h => h
  | some entry =>
    by_cases hself : Fqdn.normalize entry.target = name
    · rw [r.recorded.inTier_of_self_alias tier beyond room halias hself]
      exact (AsksAtMost.pure none).mono (Nat.zero_le _) fun _ h => h
    · have hchild := htarget (Fqdn.normalize entry.target) ⟨name, entry, halias, rfl⟩
      simp only [inTier, halias, if_neg hself]
      refine hchild.bind fun answer => ?_
      split
      · exact (AsksAtMost.pure _).mono (Nat.zero_le m) fun _ h => h
      · exact hdirect

end

/-- The question goes to the resolvers of the client, for a name that qualifies. -/
def Forwards (r : Resolution ρ δ) (qualifies : String → Prop) (call : DelegateCall) : Prop :=
  call.servers = r.answers.resolversFor r.client ∧ qualifies call.fqdn

theorem asksAtMost_asked {qualifies : String → Prop} (h : qualifies name) :
    AsksAtMost (r.recorded.asked name) 1 (r.Forwards qualifies) := by
  intro outside
  refine ⟨[{ fqdn := name, servers := r.answers.resolversFor r.client }], rfl, Nat.le_refl 1, ?_⟩
  intro call hcall
  obtain rfl := List.mem_singleton.1 hcall
  exact ⟨rfl, h⟩

theorem asksAtMost_beyondDefault {qualifies : String → Prop} (h : qualifies name) :
    AsksAtMost (r.recorded.beyondDefault room name) 1 (r.Forwards qualifies) := by
  unfold beyondDefault
  split
  · exact asksAtMost_asked h
  · exact (AsksAtMost.pure none).mono (Nat.zero_le 1) fun _ h => h

/-- In the default tier every name of the walk is asked for once at most. -/
theorem asksAtMost_inDefault {qualifies : String → Prop}
    (htarget : ∀ target, (r.answers.tier .default).IsTarget target → qualifies target)
    (hname : qualifies name) :
    AsksAtMost (r.recorded.inDefault room name) room (r.Forwards qualifies) := by
  induction room generalizing name with
  | zero => exact AsksAtMost.pure none
  | succ room ih =>
    exact asksAtMost_inTier_succ (fun target h => ih (htarget target h))
      (asksAtMost_beyondDefault hname)

/-- With the full room no alias led to the first name, and it is not asked for. -/
theorem asksAtMost_inDefault_maxHops :
    AsksAtMost (r.recorded.inDefault maxHops name) 9
      (r.Forwards (r.answers.tier .default).IsTarget) := by
  have hfirst : AsksAtMost (r.recorded.beyondDefault maxHops name) 0
      (r.Forwards (r.answers.tier .default).IsTarget) := by
    rw [beyondDefault, if_neg (Nat.lt_irrefl maxHops)]
    exact AsksAtMost.pure none
  exact asksAtMost_inTier_succ
    (fun target h => asksAtMost_inDefault (fun _ htarget => htarget) h) hfirst

/-- Behind every name of the walk in the client's own tier lies a walk in the default
tier. -/
theorem asksAtMost_inOwn :
    AsksAtMost (r.recorded.inOwn room name) (9 * room)
      (r.Forwards (r.answers.tier .default).IsTarget) := by
  induction room generalizing name with
  | zero => exact AsksAtMost.pure none
  | succ room ih =>
    exact asksAtMost_inTier_succ (fun target _ => ih) asksAtMost_inDefault_maxHops

/-! ## Questions of a resolution -/

/-- How many questions a resolution may ask, when so many aliases were followed
before it. -/
def callLimit : ClientKey → Nat → Nat
  | .client _, start => 9 * (maxHops - start)
  | .default, 0 => 9
  | .default, start + 1 => maxHops - (start + 1)

/-- What a resolution may ask for, when so many aliases were followed before it. -/
def Forwardable (r : Resolution ρ δ) (start : Nat) (name : String) : Prop :=
  r.client ≠ .default ∨ start = 0 → (r.answers.tier .default).IsTarget name

theorem asksAtMost_resolve (r : Resolution ρ δ) (name : String) (chain : AliasChain) :
    AsksAtMost (r.recorded.resolve name chain) (callLimit r.client chain.length)
      (r.Forwards (r.Forwardable chain.length)) := by
  have htarget : ∀ {target}, (r.answers.tier .default).IsTarget target →
      r.Forwardable chain.length target := fun h _ => h
  have hclient : r.recorded.client = r.client := rfl
  unfold resolve
  rw [hclient]
  cases hkey : r.client with
  | client ip =>
    exact asksAtMost_inOwn.mono (Nat.le_refl _) fun call h => ⟨h.1, htarget h.2⟩
  | default =>
    cases hstart : chain.length with
    | zero =>
      rw [hstart] at htarget
      exact asksAtMost_inDefault_maxHops.mono (Nat.le_refl 9) fun call h => ⟨h.1, htarget h.2⟩
    | succ start =>
      rw [hstart] at htarget
      refine asksAtMost_inDefault (fun target h => htarget h) ?_
      rintro (hspecific | hzero)
      · exact absurd hkey hspecific
      · cases hzero

/-! ## Two names that lead to each other -/

/-- Two names that are aliases of each other. -/
def roundaboutTier : Tier where
  resolvers := ["8.8.8.8"]
  addresses := []
  aliases := [("a.", { ttl := none, target := "b." }), ("b.", { ttl := none, target := "a." })]

/-- The two names in the default tier and in the tier of a client, and a delegate that
reaches nobody. -/
def roundabout (key : ClientKey) : Resolution Unit Unit where
  answers := { clients := [(.v4 ⟨10, 0, 0, 1⟩, roundaboutTier)], default := some roundaboutTier }
  client := key
  defaultTtl := 600
  source := IndexSource.still
  delegate := Delegate.canned []

/-- No resolution asks more often than its limit, or asks anybody but the client's
resolvers, or asks for a name that no alias of the default tier leads to, unless the
default client starts behind an alias.  The limits of a whole query are reached. -/
theorem resolve_asks_within_limit :
    (∀ {ρ δ : Type} (r : Resolution ρ δ) (name : String) (chain : AliasChain)
      (outside : Outside ρ δ),
      (callsOf (r.recorded.resolve name chain) outside).length ≤
          callLimit r.client chain.length ∧
        ∀ call ∈ callsOf (r.recorded.resolve name chain) outside,
          call.servers = r.answers.resolversFor r.client ∧
            (r.client ≠ .default ∨ chain.length = 0 →
              (r.answers.tier .default).IsTarget call.fqdn)) ∧
      (callsOf ((roundabout (.client (.v4 ⟨10, 0, 0, 1⟩))).recorded.resolve "a" AliasChain.empty)
        { random := (), delegate := () }).length = 90 ∧
      (callsOf ((roundabout .default).recorded.resolve "a" AliasChain.empty)
        { random := (), delegate := () }).length = 9 := by
  refine ⟨fun r name chain outside => ?_, by decide +kernel, by decide +kernel⟩
  exact (asksAtMost_resolve r name chain).callsOf outside

end Resolution
end SplitHorizon
