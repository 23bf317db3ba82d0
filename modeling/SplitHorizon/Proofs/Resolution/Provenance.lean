/-
Where the records of an answer come from.

An answer is a run of aliases of the client's own tier, a run of aliases of the
default tier, and the records found where the aliases end.  `Tier.Leads` is a
run of aliases as the configuration has it, and `inTier_eq_some` is what one
tier contributes to any answer.  `composed_of_resolve` puts the tiers together
for a store that was loaded, in which every alias names its target in normal
form, so that the hops of the answer are linked name by name.
-/
import SplitHorizon.Proofs.Answers.Loading
import SplitHorizon.Proofs.Resolution.Unwinding

namespace SplitHorizon

namespace Tier

/-- Aliases of the tier that lead from one name to another, as records. -/
inductive Leads (tier : Tier) (defaultTtl : UInt32) : String → List Record → String → Prop where
  | here (name : String) : Leads tier defaultTtl name [] name
  | hop {name last : String} {entry : AliasEntry} {hops : List Record} :
    tier.aliasOf? name = some entry → Fqdn.normalize entry.target ≠ name →
    Leads tier defaultTtl (Fqdn.normalize entry.target) hops last →
    Leads tier defaultTtl name (entry.record name defaultTtl :: hops) last

/-- The hop is an alias that the tier has for its owner. -/
def Serves (tier : Tier) (defaultTtl : UInt32) (hop : Record) : Prop :=
  ∃ entry, tier.aliasOf? hop.name = some entry ∧ hop = entry.record hop.name defaultTtl

/-- The records are the addresses that the tier has for a name, in some order. -/
def ServesAddresses (tier : Tier) (defaultTtl : UInt32) (name : String) (found : List Record) :
    Prop :=
  ∃ entry, tier.addressesOf? name = some entry ∧ found.Perm (entry.records name defaultTtl)

theorem Leads.serves {tier : Tier} {defaultTtl : UInt32} {name last : String}
    {hops : List Record} (h : tier.Leads defaultTtl name hops last) :
    ∀ hop ∈ hops, tier.Serves defaultTtl hop := by
  induction h with
  | here => simp
  | hop halias _ _ ih =>
    intro hop hhop
    rcases List.mem_cons.1 hhop with rfl | hhop
    · exact ⟨_, halias, rfl⟩
    · exact ih hop hhop

/-- A tier that configures nothing leads nowhere. -/
theorem Leads.eq_nil_of_empty {defaultTtl : UInt32} {name last : String} {hops : List Record}
    (h : Tier.empty.Leads defaultTtl name hops last) : hops = [] := by
  cases h with
  | here => rfl
  | hop halias _ _ => cases halias

end Tier

/-- Every hop starts where the one before it ends. -/
inductive Linked : String → List Record → String → Prop where
  | here (name : String) : Linked name [] name
  | hop {name target last : String} {ttl : UInt32} {hops : List Record} :
    Linked target hops last → Linked name (Record.canonical name ttl target :: hops) last

theorem Linked.append {first middle last : String} {hops hops' : List Record}
    (h : Linked first hops middle) (h' : Linked middle hops' last) :
    Linked first (hops ++ hops') last := by
  induction h with
  | here => exact h'
  | hop _ ih => exact Linked.hop (ih h')

/-- Aliases whose targets are in normal form are linked by their texts. -/
theorem Tier.Leads.linked {tier : Tier} {defaultTtl : UInt32} {name last : String}
    {hops : List Record} (h : tier.Leads defaultTtl name hops last)
    (hnormal : ∀ {name entry}, tier.aliasOf? name = some entry →
      Fqdn.normalize entry.target = entry.target) :
    Linked name hops last := by
  induction h with
  | here name => exact Linked.here name
  | hop halias _ _ ih =>
    rw [hnormal halias] at ih
    exact Linked.hop ih

namespace Resolution

variable {ρ δ : Type} {r : Resolution ρ δ}

/-! ## What one tier contributes -/

/-- Records that a name answers by itself are addresses of the tier, or come from
beyond it. -/
theorem direct_eq_some {tier : Tier} {beyond : Nat → String → Act ρ δ (Option (List Record))}
    {room : Nat} {name : String} {outside after : Outside ρ δ} {found : List Record}
    (h : r.direct tier beyond room name outside = (some found, after)) :
    (found ≠ [] ∧ tier.ServesAddresses r.defaultTtl name found) ∨
      beyond room name outside = (some found, after) := by
  cases haddresses : tier.addressesOf? name with
  | none =>
    have hnone : r.addressRecords tier name = [] := by simp [addressRecords, haddresses]
    simp only [direct, hnone] at h
    exact Or.inr h
  | some entry =>
    have hrecords : r.addressRecords tier name = entry.records name r.defaultTtl := by
      simp [addressRecords, haddresses]
    cases hlist : entry.records name r.defaultTtl with
    | nil =>
      simp only [direct, hrecords, hlist] at h
      exact Or.inr h
    | cons first rest =>
      simp only [direct, hrecords, hlist, map_apply, shuffled] at h
      have hfound := Option.some.inj (congrArg Prod.fst h)
      have hperm : found.Perm (first :: rest) := hfound ▸ Shuffle.shuffle_perm _ _ _
      refine Or.inl ⟨fun hnil => ?_, entry, haddresses, hlist ▸ hperm⟩
      rw [hnil] at hperm
      exact List.cons_ne_nil _ _ hperm.symm.eq_nil

/-- An answer of a tier is a run of its aliases and what the last name answers by
itself, which are records if an alias was followed at all. -/
theorem inTier_eq_some {tier : Tier} {beyond : Nat → String → Act ρ δ (Option (List Record))}
    {room : Nat} {fqdn : String} {outside after : Outside ρ δ} {records : List Record}
    (h : r.inTier tier beyond room fqdn outside = (some records, after)) :
    ∃ hops found last before, records = hops ++ found ∧
      tier.Leads r.defaultTtl fqdn hops last ∧ hops.length < room ∧ (hops ≠ [] → found ≠ []) ∧
      r.direct tier beyond (room - hops.length) last before = (some found, after) := by
  induction room generalizing fqdn outside records with
  | zero => cases h
  | succ room ih =>
    have hdirect : ∀ {before}, r.direct tier beyond (room + 1) fqdn before = (some records, after) →
        ∃ hops found last before, records = hops ++ found ∧
          tier.Leads r.defaultTtl fqdn hops last ∧ hops.length < room + 1 ∧
          (hops ≠ [] → found ≠ []) ∧
          r.direct tier beyond (room + 1 - hops.length) last before = (some found, after) :=
      fun h => ⟨[], records, fqdn, _, rfl, Tier.Leads.here fqdn, Nat.succ_pos room,
        fun hne => absurd rfl hne, h⟩
    cases halias : tier.aliasOf? fqdn with
    | none =>
      rw [r.inTier_of_not_alias tier beyond room halias] at h
      exact hdirect h
    | some entry =>
      by_cases hself : Fqdn.normalize entry.target = fqdn
      · rw [r.inTier_of_self_alias tier beyond room halias hself] at h
        cases h
      · simp only [inTier, halias, if_neg hself, bind_apply] at h
        cases hanswer : (r.inTier tier beyond room (Fqdn.normalize entry.target) outside).1 with
        | none =>
          rw [hanswer] at h
          exact hdirect h
        | some children =>
          cases children with
          | nil =>
            rw [hanswer] at h
            exact hdirect h
          | cons first rest =>
            rw [hanswer] at h
            obtain ⟨hrecords, hafter⟩ := Prod.mk.inj h
            obtain ⟨hops, found, last, before, hsplit, hleads, hroom, hfound, hlast⟩ :=
              ih (Prod.ext hanswer hafter)
            refine ⟨entry.record fqdn r.defaultTtl :: hops, found, last, before, ?_,
              Tier.Leads.hop halias hself hleads, by simpa using hroom, fun _ => ?_,
              by simpa using hlast⟩
            · rw [List.cons_append, ← hsplit]
              exact (Option.some.inj hrecords).symm
            · rintro rfl
              -- Without hops of its own the child is what was found, and it has records.
              by_cases hhops : hops = []
              · simp [hhops] at hsplit
              · exact hfound hhops rfl

/-- The delegate's answer to the question for a name, as the last thing that it was
asked. -/
def AnsweredBeyond (r : Resolution ρ δ) (name : String) (found : List Record) (after : δ) : Prop :=
  ∃ before, r.delegate.ask { fqdn := name, servers := r.answers.resolversFor r.client } before =
    (.ok found, after)

theorem asked_eq_some {name : String} {outside after : Outside ρ δ} {found : List Record}
    (h : r.asked name outside = (some found, after)) :
    r.AnsweredBeyond name found after.delegate := by
  obtain ⟨hanswer, rfl⟩ := Prod.mk.inj h
  refine ⟨outside.delegate, Prod.ext ?_ rfl⟩
  revert hanswer
  cases (r.delegate.ask { fqdn := name, servers := r.answers.resolversFor r.client }
    outside.delegate).1 with
  | error fault =>
    intro h
    cases h
  | ok answer => exact fun h => congrArg Except.ok (Option.some.inj h)

/-- An answer of the default tier ends with its addresses, or with what the
delegate answered for a name that an alias led to. -/
theorem inDefault_eq_some {fqdn : String} {outside after : Outside ρ δ} {records : List Record}
    (h : r.inDefault maxHops fqdn outside = (some records, after)) :
    ∃ hops found last, records = hops ++ found ∧
      (r.answers.tier .default).Leads r.defaultTtl fqdn hops last ∧ hops.length < maxHops ∧
      found ≠ [] ∧
      ((r.answers.tier .default).ServesAddresses r.defaultTtl last found ∨
        hops ≠ [] ∧ r.AnsweredBeyond last found after.delegate) := by
  obtain ⟨hops, found, last, before, hrecords, hleads, hroom, hfound, hlast⟩ := inTier_eq_some h
  refine ⟨hops, found, last, hrecords, hleads, hroom, ?_⟩
  rcases direct_eq_some hlast with ⟨hne, hserves⟩ | hbeyond
  · exact ⟨hne, Or.inl hserves⟩
  · unfold beyondDefault at hbeyond
    split at hbeyond
    · next hfollowed =>
      have hhops : hops ≠ [] := by
        rintro rfl
        exact absurd hfollowed (Nat.lt_irrefl maxHops)
      exact ⟨hfound hhops, Or.inr ⟨hhops, asked_eq_some hbeyond⟩⟩
    · cases hbeyond

/-! ## The whole answer -/

/-- Addresses of the default tier, addresses of the client's own tier if no hop of
the default tier was taken, or an answer of the delegate if one was. -/
def Origin (r : Resolution ρ δ) (shared found : List Record) (last : String) (after : δ) : Prop :=
  (r.answers.tier .default).ServesAddresses r.defaultTtl last found ∨
    (shared = [] ∧ (r.answers.tier r.client).ServesAddresses r.defaultTtl last found) ∨
    (shared ≠ [] ∧ r.AnsweredBeyond last found after)

/-- Every answer is a run of aliases in the client's own tier, a run of aliases in
the default tier, and what was found at its end.  The default client has no tier of
its own to run through. -/
theorem resolve_eq_some {name : String} {outside after : Outside ρ δ} {records : List Record}
    (h : r.resolve name AliasChain.empty outside = (some records, after)) :
    ∃ own shared found middle last, records = own ++ shared ++ found ∧
      (r.answers.tier r.client).Leads r.defaultTtl (Fqdn.normalize name) own middle ∧
      (r.answers.tier .default).Leads r.defaultTtl middle shared last ∧
      own.length < maxHops ∧ shared.length < maxHops ∧ (r.client = .default → own = []) ∧
      found ≠ [] ∧ r.Origin shared found last after.delegate := by
  unfold resolve at h
  simp only [AliasChain.length_empty, Nat.sub_zero] at h
  cases hclient : r.client with
  | default =>
    rw [hclient] at h
    obtain ⟨hops, found, last, rfl, hleads, hlength, hfound, horigin⟩ := inDefault_eq_some h
    exact ⟨[], hops, found, Fqdn.normalize name, last, rfl, Tier.Leads.here _, hleads,
      Nat.succ_pos 9, hlength, fun _ => rfl, hfound, horigin.imp_right Or.inr⟩
  | client ip =>
    rw [hclient] at h
    simp only [inOwn] at h
    obtain ⟨own, rest, middle, before, rfl, hleads, hlength, -, hlast⟩ := inTier_eq_some h
    rw [hclient] at hleads
    have hnil : ClientKey.client ip = .default → own = [] := by
      intro hdefault
      cases hdefault
    rcases direct_eq_some hlast with ⟨hfound, hserves⟩ | hbeyond
    · exact ⟨own, [], rest, middle, middle, by rw [List.append_nil], hleads, Tier.Leads.here _,
        hlength, Nat.succ_pos 9, hnil, hfound, Or.inr (Or.inl ⟨rfl, hserves⟩)⟩
    · obtain ⟨shared, found, last, rfl, hshared, hsharedLength, hfound, horigin⟩ :=
        inDefault_eq_some hbeyond
      exact ⟨own, shared, found, middle, last, (List.append_assoc own shared found).symm, hleads,
        hshared, hlength, hsharedLength, hnil, hfound, horigin.imp_right Or.inr⟩

/-- A client that is the default one, or has no tier, takes no hop of its own. -/
theorem eq_nil_of_nothing_own {first middle : String} {own : List Record}
    (hdefault : r.client = .default → own = [])
    (hown : (r.answers.tier r.client).Leads r.defaultTtl first own middle)
    (h : r.client = .default ∨ r.answers.lookup r.client = none) : own = [] := by
  rcases h with hclient | hlookup
  · exact hdefault hclient
  · have hempty : r.answers.tier r.client = Tier.empty := by
      rw [Answers.tier, hlookup]
      rfl
    rw [hempty] at hown
    exact hown.eq_nil_of_empty

/-- How an answer is put together: hops of the client's own tier, hops of the
default tier, and what was found at the name they lead to.  `after` is the state in
which the delegate was left. -/
structure Composed (r : Resolution ρ δ) (first : String) (own shared found : List Record)
    (last : String) (after : δ) : Prop where
  linked : Linked first (own ++ shared) last
  own_serves : ∀ hop ∈ own, (r.answers.tier r.client).Serves r.defaultTtl hop
  shared_serves : ∀ hop ∈ shared, (r.answers.tier .default).Serves r.defaultTtl hop
  own_eq_nil : r.client = .default ∨ r.answers.lookup r.client = none → own = []
  length_own : own.length ≤ 9
  length_shared : shared.length ≤ 9
  found_ne_nil : found ≠ []
  origin : r.Origin shared found last after

/-- Every answer of a loaded store is composed so. -/
theorem composed_of_resolve {document : Option String} {name : String}
    {outside after : Outside ρ δ} {records : List Record}
    (hload : Answers.load document = .ok r.answers)
    (h : r.resolve name AliasChain.empty outside = (some records, after)) :
    ∃ own shared found last, records = own ++ shared ++ found ∧
      r.Composed (Fqdn.normalize name) own shared found last after.delegate := by
  obtain ⟨own, shared, found, middle, last, hrecords, hown, hshared, hownLength, hsharedLength,
    hdefault, hfound, horigin⟩ := resolve_eq_some h
  have hnormal : ∀ {key name entry}, (r.answers.tier key).aliasOf? name = some entry →
      Fqdn.normalize entry.target = entry.target := Answers.normalize_target_of_load hload
  refine ⟨own, shared, found, last, hrecords, ?_⟩
  exact {
    linked := (hown.linked hnormal).append (hshared.linked hnormal)
    own_serves := hown.serves
    shared_serves := hshared.serves
    own_eq_nil := eq_nil_of_nothing_own hdefault hown
    length_own := Nat.le_of_lt_succ hownLength
    length_shared := Nat.le_of_lt_succ hsharedLength
    found_ne_nil := hfound
    origin := horigin }

/-- A client whose alias goes on in the default tier and ends beyond it. -/
def crossingText : String :=
  "\x7b\"10.0.0.1\":\x7b\"cname\":\x7b\"db\":\x7b\"answer\":\"DB1\"\x7d\x7d\x7d," ++
    "\"default\":\x7b\"recurse\":[\"8.8.8.8\"]," ++
    "\"cname\":\x7b\"db1\":\x7b\"ttl\":30,\"answer\":\"cloud\"\x7d\x7d\x7d\x7d"

def crossing : Resolution Unit (Unit × List DelegateCall) where
  answers :=
    { clients := [(.v4 ⟨10, 0, 0, 1⟩,
        { resolvers := [], addresses := []
          aliases := [("db.", { ttl := none, target := "db1." })] })]
      default := some
        { resolvers := ["8.8.8.8"], addresses := []
          aliases := [("db1.", { ttl := some 30, target := "cloud." })] } }
  client := .client (.v4 ⟨10, 0, 0, 1⟩)
  defaultTtl := 600
  source := IndexSource.still
  delegate := (Delegate.canned [("cloud.", .ok [Record.address "cloud." 5 ⟨1, 2, 3, 4⟩])]).recorded

/-- The answer for `db`, with one hop in either tier. -/
def crossingRecords : List Record :=
  [Record.canonical "db." 600 "db1.", Record.canonical "db1." 30 "cloud.",
    Record.address "cloud." 5 ⟨1, 2, 3, 4⟩]

theorem crossing_composed :
    Answers.load (some crossingText) = .ok crossing.answers ∧
      crossing.resolve "DB" AliasChain.empty { random := (), delegate := ((), []) } =
        (some crossingRecords,
          { random := (), delegate := ((), [{ fqdn := "cloud.", servers := ["8.8.8.8"] }]) }) ∧
      ∃ own shared found last, crossingRecords = own ++ shared ++ found ∧
        crossing.Composed (Fqdn.normalize "DB") own shared found last
          ((), [{ fqdn := "cloud.", servers := ["8.8.8.8"] }]) := by
  have hload : Answers.load (some crossingText) = .ok crossing.answers := by decide +kernel
  have hrun : crossing.resolve "DB" AliasChain.empty { random := (), delegate := ((), []) } =
      (some crossingRecords,
        { random := (), delegate := ((), [{ fqdn := "cloud.", servers := ["8.8.8.8"] }]) }) := by
    rfl
  exact ⟨hload, hrun, composed_of_resolve hload hrun⟩

end Resolution
end SplitHorizon
