/-
Answers to names without an alias.

A name that its tier has addresses for and no alias is answered with these
addresses and nothing else.  A name that neither the client's own tier nor the
default tier says anything about has no answer, and nobody is asked for it.
-/
import SplitHorizon.Proofs.Resolution.Unwinding

namespace SplitHorizon

/-- The tier has neither an alias nor addresses for the name. -/
def Tier.Silent (tier : Tier) (name : String) : Prop :=
  tier.aliasOf? name = none ∧ tier.addressesOf? name = none

theorem Tier.silent_empty (name : String) : Tier.empty.Silent name :=
  ⟨rfl, rfl⟩

/-- The questions of a client are looked up under a key first: its own, or the
default key if it has no tier of its own. -/
def Answers.LooksFirst (answers : Answers) (client key : ClientKey) : Prop :=
  client = key ∨ key = .default ∧ answers.lookup client = none

theorem Answers.tier_eq_empty {answers : Answers} {key : ClientKey}
    (h : answers.lookup key = none) : answers.tier key = Tier.empty := by
  rw [tier, h]
  rfl

namespace Resolution

variable {ρ δ : Type} {r : Resolution ρ δ} {tier : Tier}
  {beyond : Nat → String → Act ρ δ (Option (List Record))} {room : Nat} {name : String}

theorem inTier_of_addresses {entry : AddressEntry} (halias : tier.aliasOf? name = none)
    (hentry : tier.addressesOf? name = some entry) (hne : entry.addresses ≠ [])
    (outside : Outside ρ δ) :
    ∃ found after, r.inTier tier beyond (room + 1) name outside = (some found, after) ∧
      found.Perm (entry.records name r.defaultTtl) := by
  have hrecords : r.addressRecords tier name = entry.records name r.defaultTtl := by
    rw [addressRecords, hentry]
  rw [r.inTier_of_not_alias tier beyond room halias, direct, hrecords]
  cases hfound : entry.records name r.defaultTtl with
  | nil => exact absurd (List.map_eq_nil_iff.1 hfound) hne
  | cons first rest => exact ⟨_, _, rfl, Shuffle.shuffle_perm r.source (first :: rest) _⟩

theorem inTier_of_silent (h : tier.Silent name) :
    r.inTier tier beyond (room + 1) name = beyond (room + 1) name := by
  have hrecords : r.addressRecords tier name = [] := by rw [addressRecords, h.2]
  rw [r.inTier_of_not_alias tier beyond room h.1, direct, hrecords]

theorem resolve_of_client {ip : Ip} (h : r.client = .client ip) :
    r.resolve name AliasChain.empty = r.inOwn maxHops (Fqdn.normalize name) := by
  rw [resolve, h]
  rfl

theorem resolve_of_default (h : r.client = .default) :
    r.resolve name AliasChain.empty = r.inDefault maxHops (Fqdn.normalize name) := by
  rw [resolve, h]
  rfl

/-- A name with addresses and no alias is answered with the addresses. -/
theorem resolve_of_addresses {key : ClientKey} {entry : AddressEntry}
    (hfirst : r.answers.LooksFirst r.client key)
    (halias : (r.answers.tier key).aliasOf? (Fqdn.normalize name) = none)
    (hentry : (r.answers.tier key).addressesOf? (Fqdn.normalize name) = some entry)
    (hne : entry.addresses ≠ []) (outside : Outside ρ δ) :
    ∃ found after, r.resolve name AliasChain.empty outside = (some found, after) ∧
      found.Perm (entry.records (Fqdn.normalize name) r.defaultTtl) := by
  rcases hfirst with hown | ⟨rfl, hnone⟩
  · subst hown
    cases hclient : r.client with
    | default =>
      rw [hclient] at halias hentry
      rw [resolve_of_default hclient]
      exact inTier_of_addresses halias hentry hne outside
    | client ip =>
      rw [resolve_of_client hclient]
      exact inTier_of_addresses halias hentry hne outside
  · cases hclient : r.client with
    | default =>
      rw [resolve_of_default hclient]
      exact inTier_of_addresses halias hentry hne outside
    | client ip =>
      have hsilent : (r.answers.tier r.client).Silent (Fqdn.normalize name) := by
        rw [Answers.tier_eq_empty hnone]
        exact Tier.silent_empty _
      have hbeyond : r.inOwn maxHops (Fqdn.normalize name) =
          r.inDefault maxHops (Fqdn.normalize name) := inTier_of_silent hsilent
      rw [resolve_of_client hclient, hbeyond]
      exact inTier_of_addresses halias hentry hne outside

/-- A name that both tiers are silent about has no answer. -/
theorem resolve_of_silent (hown : (r.answers.tier r.client).Silent (Fqdn.normalize name))
    (hdefault : (r.answers.tier .default).Silent (Fqdn.normalize name)) :
    r.resolve name AliasChain.empty = pure none := by
  have hshared : r.inDefault maxHops (Fqdn.normalize name) = pure none :=
    inTier_of_silent hdefault
  cases hclient : r.client with
  | default => rw [resolve_of_default hclient, hshared]
  | client ip =>
    have hbeyond : r.inOwn maxHops (Fqdn.normalize name) =
        r.inDefault maxHops (Fqdn.normalize name) := inTier_of_silent hown
    rw [resolve_of_client hclient, hbeyond, hshared]

end Resolution
end SplitHorizon
