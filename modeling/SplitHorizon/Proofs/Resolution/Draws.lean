/-
What is left to chance.

A resolution shuffles the addresses that it answers with, and whether it answers with them
is settled before: no list that was shuffled is ever dropped, since a list of addresses is
not empty and whoever waits for it passes it on.  So all that a resolution comes to, but for
the order of these addresses, is there before anything is drawn.  `Finding` is what it
comes to, and `Settles` says that it is the same for all sources of indices.

`random_reorders_addresses` compares two runs in these terms.  They ask the same questions
and answer alike up to the order of configured addresses, and each of them draws once for
each of these addresses and for nothing else.
-/
import SplitHorizon.Proofs.Resolution.Imitation
import SplitHorizon.Proofs.Resolution.Provenance
import SplitHorizon.Proofs.Shuffle.Uniform

namespace SplitHorizon

/-- What a resolution comes to, before configured addresses are shuffled. -/
inductive Finding where
  | nothing
  /-- Behind some aliases, what the delegate answered. -/
  | answered (hops records : List Record)
  /-- Behind some aliases, addresses in the configured order. -/
  | configured (hops addresses : List Record)

namespace Finding

variable {ρ : Type}

/-- The finding behind one more alias. -/
def behind (hop : Record) : Finding → Finding
  | nothing => nothing
  | answered hops records => answered (hop :: hops) records
  | configured hops addresses => configured (hop :: hops) addresses

/-- The finding has no records, so that an alias to it is of no use. -/
def IsEmpty : Finding → Prop
  | nothing => True
  | answered hops records => hops = [] ∧ records = []
  | configured hops addresses => hops = [] ∧ addresses = []

/-- The answer that a finding gives, once its addresses are shuffled. -/
def serve (source : IndexSource ρ) (random : ρ) : Finding → Option (List Record) × ρ
  | nothing => (none, random)
  | answered hops records => (some (hops ++ records), random)
  | configured hops addresses =>
    let (found, random) := Shuffle.shuffle source addresses random
    (some (hops ++ found), random)

/-- The bounds that are drawn below. -/
def bounds : Finding → List Nat
  | configured _ addresses => List.range addresses.length
  | _ => []

theorem serve_recorded (source : IndexSource ρ) (random : ρ) (finding : Finding) :
    finding.serve source.recorded (random, []) =
      ((finding.serve source random).1, (finding.serve source random).2, finding.bounds) := by
  cases finding with
  | nothing => rfl
  | answered hops records => rfl
  | configured hops addresses =>
    simp only [serve, bounds, Shuffle.shuffle_recorded, List.nil_append]

theorem serve_of_isEmpty {finding : Finding} (h : finding.IsEmpty) (source : IndexSource ρ)
    (random : ρ) :
    finding.serve source random = (none, random) ∨
      finding.serve source random = (some [], random) := by
  cases finding with
  | nothing => exact Or.inl rfl
  | answered hops records =>
    obtain ⟨rfl, rfl⟩ := h
    exact Or.inr rfl
  | configured hops addresses =>
    obtain ⟨rfl, rfl⟩ := h
    exact Or.inr rfl

/-- A finding that is not empty gives records, which an alias is put in front of. -/
theorem serve_behind {finding : Finding} (h : ¬ finding.IsEmpty) (hop : Record)
    (source : IndexSource ρ) (random : ρ) :
    ∃ first rest, (finding.serve source random).1 = some (first :: rest) ∧
      (finding.behind hop).serve source random =
        (some (hop :: first :: rest), (finding.serve source random).2) := by
  have hcons : ∀ records : List Record, records ≠ [] →
      ∃ first rest, records = first :: rest := fun _ => List.exists_cons_of_ne_nil
  cases finding with
  | nothing => exact absurd trivial h
  | answered hops records =>
    have hne : hops ++ records ≠ [] := fun hnil => h (List.append_eq_nil_iff.1 hnil)
    obtain ⟨first, rest, hrecords⟩ := hcons _ hne
    refine ⟨first, rest, congrArg some hrecords, ?_⟩
    simp only [behind, serve, List.cons_append, hrecords]
  | configured hops addresses =>
    have hne : hops ++ (Shuffle.shuffle source addresses random).1 ≠ [] := by
      intro hnil
      obtain ⟨hhops, hfound⟩ := List.append_eq_nil_iff.1 hnil
      have hperm := Shuffle.shuffle_perm source addresses random
      rw [hfound] at hperm
      exact h ⟨hhops, hperm.nil_eq.symm⟩
    obtain ⟨first, rest, hrecords⟩ := hcons _ hne
    refine ⟨first, rest, congrArg some hrecords, ?_⟩
    simp only [behind, serve, List.cons_append, hrecords]

end Finding

namespace Resolution

variable {ρ ρ' δ : Type} {r : Resolution ρ δ} {tier : Tier} {finding : Finding}
  {calls : List DelegateCall} {after : δ}

/-! ## Where a finding comes from -/

/-- The record is an alias of the client's own tier or of the default tier. -/
def IsHop (r : Resolution ρ δ) (hop : Record) : Prop :=
  (r.answers.tier r.client).Serves r.defaultTtl hop ∨
    (r.answers.tier .default).Serves r.defaultTtl hop

/-- The records are the addresses that one of the two tiers has for a name, in some
order. -/
def Configures (r : Resolution ρ δ) (found : List Record) : Prop :=
  ∃ name, (r.answers.tier r.client).ServesAddresses r.defaultTtl name found ∨
    (r.answers.tier .default).ServesAddresses r.defaultTtl name found

/-- The question for a name, on behalf of the client. -/
def question (r : Resolution ρ δ) (name : String) : DelegateCall where
  fqdn := name
  servers := r.answers.resolversFor r.client

/-- The last of the questions is the one that the delegate answered with the records. -/
def AnsweredLast (r : Resolution ρ δ) (calls : List DelegateCall) (found : List Record)
    (after : δ) : Prop :=
  ∃ earlier name, calls = earlier ++ [r.question name] ∧ r.AnsweredBeyond name found after

inductive Backs (r : Resolution ρ δ) (calls : List DelegateCall) (after : δ) : Finding → Prop
  | nothing : Backs r calls after .nothing
  | answered {hops records : List Record} (hhops : ∀ hop ∈ hops, r.IsHop hop)
    (hrecords : r.AnsweredLast calls records after) : Backs r calls after (.answered hops records)
  | configured {hops addresses : List Record} (hhops : ∀ hop ∈ hops, r.IsHop hop)
    (hne : addresses ≠ []) (haddresses : r.Configures addresses) :
    Backs r calls after (.configured hops addresses)

theorem Backs.behind {hop : Record} (h : r.Backs calls after finding) (hhop : r.IsHop hop) :
    r.Backs calls after (finding.behind hop) := by
  cases h with
  | nothing => exact .nothing
  | answered hhops hrecords => exact .answered (List.forall_mem_cons.2 ⟨hhop, hhops⟩) hrecords
  | configured hhops hne haddresses =>
    exact .configured (List.forall_mem_cons.2 ⟨hhop, hhops⟩) hne haddresses

theorem Backs.append (h : r.Backs calls after finding) (earlier : List DelegateCall) :
    r.Backs (earlier ++ calls) after finding := by
  cases h with
  | nothing => exact .nothing
  | answered hhops hrecords =>
    obtain ⟨before, name, rfl, hanswer⟩ := hrecords
    exact .answered hhops ⟨earlier ++ before, name, (List.append_assoc _ _ _).symm, hanswer⟩
  | configured hhops hne haddresses => exact .configured hhops hne haddresses

/-! ## Actions for any source -/

/-- An action for every source of indices, which writes down what it asks. -/
abbrev ForSources (δ : Type) :=
  ∀ ρ : Type, IndexSource ρ → Act ρ (δ × List DelegateCall) (Option (List Record))

/-- With any source, and from the state `before` of the delegate on, the action asks these
questions and serves this finding. -/
def ForSources.Finds (act : ForSources δ) (before : δ) (finding : Finding)
    (calls : List DelegateCall) (after : δ) : Prop :=
  ∀ (ρ : Type) (source : IndexSource ρ) (random : ρ) (log : List DelegateCall),
    act ρ source { random := random, delegate := (before, log) } =
      ((finding.serve source random).1,
        { random := (finding.serve source random).2, delegate := (after, log ++ calls) })

/-- What the action comes to is settled before anything is drawn. -/
def Settles (r : Resolution ρ δ) (act : ForSources δ) : Prop :=
  ∀ before, ∃ finding calls after, r.Backs calls after finding ∧
    act.Finds before finding calls after

/-- The same resolution with another source, which also writes down what it asks. -/
def drawing (r : Resolution ρ δ) (source : IndexSource ρ') :
    Resolution ρ' (δ × List DelegateCall) where
  answers := r.answers
  client := r.client
  defaultTtl := r.defaultTtl
  source := source
  delegate := r.delegate.recorded

theorem settles_none (r : Resolution ρ δ) : r.Settles fun _ _ => pure none := by
  refine fun before => ⟨.nothing, [], before, .nothing, fun ρ source random log => ?_⟩
  rw [List.append_nil]
  rfl

theorem asked_drawing (r : Resolution ρ δ) (source : IndexSource ρ') (name : String)
    (random : ρ') (before : δ) (log : List DelegateCall) :
    (r.drawing source).asked name { random := random, delegate := (before, log) } =
      ((r.delegate.ask (r.question name) before).1.toOption,
        { random := random
          delegate := ((r.delegate.ask (r.question name) before).2, log ++ [r.question name]) }) :=
  rfl

theorem settles_asked (r : Resolution ρ δ) (name : String) :
    r.Settles fun _ source => (r.drawing source).asked name := by
  intro before
  rcases hask : r.delegate.ask (r.question name) before with ⟨fault | records, after⟩
  · refine ⟨.nothing, [r.question name], after, .nothing, fun ρ source random log => ?_⟩
    refine (r.asked_drawing source name random before log).trans ?_
    rw [hask]
    rfl
  · refine ⟨.answered [] records, [r.question name], after, ?_, fun ρ source random log => ?_⟩
    · exact .answered (fun _ hmem => absurd hmem List.not_mem_nil) ⟨[], name, rfl, before, hask⟩
    · refine (r.asked_drawing source name random before log).trans ?_
      rw [hask]
      rfl

/-! ## The walk in a tier -/

section

variable {beyond : ∀ ρ : Type, IndexSource ρ → Nat → String →
  Act ρ (δ × List DelegateCall) (Option (List Record))}

theorem settles_direct
    (htier : tier = r.answers.tier r.client ∨ tier = r.answers.tier .default)
    {room : Nat} {fqdn : String} (hbeyond : r.Settles fun ρ source => beyond ρ source room fqdn) :
    r.Settles fun ρ source => (r.drawing source).direct tier (beyond ρ source) room fqdn := by
  have hsame : ∀ {ρ : Type} (source : IndexSource ρ),
      (r.drawing source).addressRecords tier fqdn = r.addressRecords tier fqdn := fun _ => rfl
  cases hrecords : r.addressRecords tier fqdn with
  | nil =>
    simp only [direct, hsame, hrecords]
    exact hbeyond
  | cons first rest =>
    have hserves : tier.ServesAddresses r.defaultTtl fqdn (first :: rest) := by
      unfold addressRecords at hrecords
      split at hrecords
      · next entry hentry => exact ⟨entry, hentry, List.Perm.of_eq hrecords.symm⟩
      · cases hrecords
    have hconfigures : r.Configures (first :: rest) := by
      rcases htier with rfl | rfl
      · exact ⟨fqdn, Or.inl hserves⟩
      · exact ⟨fqdn, Or.inr hserves⟩
    intro before
    refine ⟨.configured [] (first :: rest), [], before, ?_, fun ρ source random log => ?_⟩
    · exact .configured (fun _ hmem => absurd hmem List.not_mem_nil) (List.cons_ne_nil _ _)
        hconfigures
    · simp only [direct, hsame, hrecords, List.append_nil]
      rfl

/-- By induction on the room: what is found behind an alias is dropped only if it is empty,
and then nothing was drawn for it. -/
theorem settles_inTier
    (htier : tier = r.answers.tier r.client ∨ tier = r.answers.tier .default)
    (hbeyond : ∀ room fqdn, r.Settles fun ρ source => beyond ρ source room fqdn)
    (room : Nat) (fqdn : String) :
    r.Settles fun ρ source => (r.drawing source).inTier tier (beyond ρ source) room fqdn := by
  induction room generalizing fqdn with
  | zero => exact r.settles_none
  | succ room ih =>
    have hdirect := settles_direct htier (hbeyond (room + 1) fqdn)
    cases halias : tier.aliasOf? fqdn with
    | none =>
      simp only [inTier_of_not_alias _ _ _ room halias]
      exact hdirect
    | some entry =>
      by_cases hself : Fqdn.normalize entry.target = fqdn
      · simp only [inTier_of_self_alias _ _ _ room halias hself]
        exact r.settles_none
      intro before
      obtain ⟨finding, calls, middle, hbacks, hfinds⟩ := ih (Fqdn.normalize entry.target) before
      by_cases hempty : finding.IsEmpty
      · obtain ⟨finding', later, after, hbacks', hfinds'⟩ := hdirect middle
        refine ⟨finding', calls ++ later, after, hbacks'.append calls,
          fun ρ source random log => ?_⟩
        have htarget := hfinds ρ source random log
        have hname := hfinds' ρ source random (log ++ calls)
        simp only [inTier, halias, if_neg hself, bind_apply] at htarget ⊢
        rw [htarget, ← List.append_assoc, ← hname]
        rcases Finding.serve_of_isEmpty hempty source random with hserve | hserve
        · rw [hserve]
        · rw [hserve]
      · have hhop : r.IsHop (entry.record fqdn r.defaultTtl) := by
          rcases htier with rfl | rfl
          · exact Or.inl ⟨entry, halias, rfl⟩
          · exact Or.inr ⟨entry, halias, rfl⟩
        refine ⟨finding.behind (entry.record fqdn r.defaultTtl), calls, middle,
          hbacks.behind hhop, fun ρ source random log => ?_⟩
        obtain ⟨first, rest, hfound, hserve⟩ :=
          Finding.serve_behind hempty (entry.record fqdn r.defaultTtl) source random
        have htarget := hfinds ρ source random log
        simp only [inTier, halias, if_neg hself, bind_apply] at htarget ⊢
        rw [htarget, hfound, hserve]
        rfl

end

theorem settles_inDefault (r : Resolution ρ δ) (room : Nat) (fqdn : String) :
    r.Settles fun _ source => (r.drawing source).inDefault room fqdn := by
  refine settles_inTier (Or.inr rfl) (fun room fqdn => ?_) room fqdn
  simp only [beyondDefault]
  split
  · exact r.settles_asked fqdn
  · exact r.settles_none

theorem settles_resolve (r : Resolution ρ δ) (name : String) (chain : AliasChain) :
    r.Settles fun _ source => (r.drawing source).resolve name chain := by
  have hclient : ∀ {ρ' : Type} (source : IndexSource ρ'), (r.drawing source).client = r.client :=
    fun _ => rfl
  simp only [resolve, hclient]
  cases r.client with
  | default => exact r.settles_inDefault _ _
  | client ip =>
    exact settles_inTier (Or.inl rfl) (fun _ fqdn => r.settles_inDefault maxHops fqdn) _ _

/-! ## Two runs -/

/-- What a run of a resolution shows: its answer, the bounds it drew below, and the
questions it asked. -/
structure Seen where
  answer : Option (List Record)
  drawn : List Nat
  asked : List DelegateCall

def seen (r : Resolution ρ δ) (name : String) (chain : AliasChain) (outside : Outside ρ δ) :
    Seen :=
  let (answer, last) := r.observed.resolve name chain
    { random := (outside.random, []), delegate := (outside.delegate, []) }
  { answer := answer, drawn := last.random.2, asked := last.delegate.2 }

/-- Looking at a run does not change its answer. -/
theorem answer_seen (r : Resolution ρ δ) (name : String) (chain : AliasChain)
    (outside : Outside ρ δ) :
    (r.seen name chain outside).answer = (r.resolve name chain outside).1 := by
  have hsame := r.imitates_observed name chain
    { random := (outside.random, []), delegate := (outside.delegate, []) }
  exact (congrArg Prod.fst hsame).symm

/-- The same resolution with another source. -/
def withSource (r : Resolution ρ δ) (source : IndexSource ρ') : Resolution ρ' δ where
  answers := r.answers
  client := r.client
  defaultTtl := r.defaultTtl
  source := source
  delegate := r.delegate

/-- One finding is behind the runs with all sources. -/
theorem exists_finding (r : Resolution ρ δ) (name : String) (chain : AliasChain) (before : δ) :
    ∃ finding calls after, r.Backs calls after finding ∧
      ∀ (ρ' : Type) (source : IndexSource ρ') (random : ρ'),
        (r.withSource source).seen name chain { random := random, delegate := before } =
          { answer := (finding.serve source random).1
            drawn := finding.bounds
            asked := calls } := by
  obtain ⟨finding, calls, after, hbacks, hfinds⟩ := r.settles_resolve name chain before
  refine ⟨finding, calls, after, hbacks, fun ρ' source random => ?_⟩
  have hrun := hfinds (ρ' × List Nat) source.recorded (random, []) []
  rw [Finding.serve_recorded] at hrun
  exact congrArg (fun run => Seen.mk run.1 run.2.random.2 run.2.delegate.2) hrun

theorem Configures.of_perm {found arranged : List Record} (h : r.Configures found)
    (hperm : arranged.Perm found) : r.Configures arranged := by
  obtain ⟨name, ⟨entry, hentry, hfound⟩ | ⟨entry, hentry, hfound⟩⟩ := h
  · exact ⟨name, Or.inl ⟨entry, hentry, hperm.trans hfound⟩⟩
  · exact ⟨name, Or.inr ⟨entry, hentry, hperm.trans hfound⟩⟩

/-- Two runs with different sources ask the same questions.  Either neither of them has an
answer, or both answer with the same aliases in front of the same records of the delegate, or
in front of the same configured addresses, which may stand in another order.  For these
addresses the bounds from zero on are drawn below, and otherwise none. -/
theorem random_reorders_addresses (r : Resolution ρ δ) (source : IndexSource ρ') (name : String)
    (chain : AliasChain) (outside : Outside ρ δ) (random : ρ') :
    let one := r.seen name chain outside
    let other := (r.withSource source).seen name chain
      { random := random, delegate := outside.delegate }
    one.answer = (r.resolve name chain outside).1 ∧
    other.answer = ((r.withSource source).resolve name chain
      { random := random, delegate := outside.delegate }).1 ∧
    one.asked = other.asked ∧
    ((one.answer = none ∧ other.answer = none ∧ one.drawn = [] ∧ other.drawn = []) ∨
      ∃ hops found arranged, one.answer = some (hops ++ found) ∧
        other.answer = some (hops ++ arranged) ∧ (∀ hop ∈ hops, r.IsHop hop) ∧
        ((arranged = found ∧ (∃ after, r.AnsweredLast one.asked found after) ∧
            one.drawn = [] ∧ other.drawn = []) ∨
          (arranged.Perm found ∧ r.Configures found ∧ found ≠ [] ∧
            one.drawn = List.range found.length ∧ other.drawn = List.range found.length))) := by
  intro one other
  obtain ⟨finding, calls, after, hbacks, hall⟩ := r.exists_finding name chain outside.delegate
  have hone : one = _ := hall ρ r.source outside.random
  have hother : other = _ := hall ρ' source random
  refine ⟨r.answer_seen name chain outside, answer_seen _ name chain _, ?_, ?_⟩
  · rw [hone, hother]
  rw [hone, hother]
  cases hbacks with
  | nothing => exact Or.inl ⟨rfl, rfl, rfl, rfl⟩
  | @answered hops records hhops hrecords =>
    exact Or.inr ⟨hops, records, records, rfl, rfl, hhops,
      Or.inl ⟨rfl, ⟨after, hrecords⟩, rfl, rfl⟩⟩
  | @configured hops addresses hhops hne haddresses =>
    have hfound := Shuffle.shuffle_perm r.source addresses outside.random
    have harranged := Shuffle.shuffle_perm source addresses random
    have hsome : (Shuffle.shuffle r.source addresses outside.random).1 ≠ [] := by
      intro hnil
      rw [hnil] at hfound
      exact hne hfound.nil_eq.symm
    have hdrawn : (Finding.configured hops addresses).bounds =
        List.range (Shuffle.shuffle r.source addresses outside.random).1.length := by
      rw [hfound.length_eq]
      rfl
    exact Or.inr ⟨hops, _, _, rfl, rfl, hhops, Or.inr ⟨harranged.trans hfound.symm,
      haddresses.of_perm hfound, hsome, hdrawn, hdrawn⟩⟩

end Resolution
end SplitHorizon
