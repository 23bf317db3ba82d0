/-
Answers that go round a cycle of aliases.

Only an alias of a name to itself is found out as such.  A longer cycle is walked
round until the room is used up, and on the way back a name on the cycle may
still be hit, so its aliases can stand in an answer more than once
(`pingPong_goes_round`).

What holds instead is `hops_repeat_only_on_cycle`.  Within a tier an answer
repeats a hop exactly when the walk through its hops comes back to a name, and
then the walk of that tier has no end, so that only the room of ten names ended
it.  A tier whose aliases come to an end never has a hop twice.  The two tiers are
not compared: a hop that both of them have may stand once in the run of each.
-/
import Mathlib.Data.List.Nodup
import SplitHorizon.Proofs.Resolution.Provenance

namespace SplitHorizon

namespace Record

/-- What makes two hops the same: their owner and their target. -/
def route (hop : Record) : String × Option String :=
  (hop.name, hop.target?)

end Record

namespace Tier

variable {tier : Tier}

/-! ## Walks with an end -/

/-- So many aliases lead from a name to one without an alias to another name. -/
inductive Stops (tier : Tier) : Nat → String → Prop where
  | here {name : String} : tier.step? name = none → Stops tier 0 name
  | onward {n : Nat} {name target : String} :
    tier.step? name = some target → Stops tier n target → Stops tier (n + 1) name

theorem Stops.unique {n m : Nat} {name : String} (h : tier.Stops n name) (h' : tier.Stops m name) :
    n = m := by
  induction h generalizing m with
  | here hstep =>
    cases h' with
    | here => rfl
    | onward hstep' _ => rw [hstep] at hstep'; cases hstep'
  | onward hstep _ ih =>
    cases h' with
    | here hstep' => rw [hstep] at hstep'; cases hstep'
    | onward hstep' hstops =>
      obtain rfl := Option.some.inj (hstep.symm.trans hstep')
      rw [ih hstops]

theorem length_walk_le (room : Nat) (name : String) : (tier.walk room name).length ≤ room := by
  induction room generalizing name with
  | zero => simp [walk]
  | succ room ih =>
    unfold walk
    cases tier.step? name with
    | none => simp
    | some target => simpa using ih target

/-- A walk that leaves some of its room unused has come to an end. -/
theorem stops_of_length_walk_lt {room : Nat} {name : String}
    (h : (tier.walk room name).length < room) : ∃ n, tier.Stops n name := by
  induction room generalizing name with
  | zero => cases h
  | succ room ih =>
    unfold walk at h
    cases hstep : tier.step? name with
    | none => exact ⟨0, Stops.here hstep⟩
    | some target =>
      rw [hstep, List.length_cons, Nat.add_lt_add_iff_right] at h
      obtain ⟨n, hn⟩ := ih h
      exact ⟨n + 1, Stops.onward hstep hn⟩

theorem stops_of_mem_walk {n room : Nat} {name other : String} (h : tier.Stops n name)
    (hother : other ∈ tier.walk room name) : ∃ m, m ≤ n ∧ tier.Stops m other := by
  induction h generalizing room with
  | @here name hstep =>
    cases room with
    | zero => cases hother
    | succ room =>
      rw [walk, hstep] at hother
      obtain rfl := List.mem_singleton.1 hother
      exact ⟨0, Nat.le_refl 0, Stops.here hstep⟩
  | @onward n name target hstep hstops ih =>
    cases room with
    | zero => cases hother
    | succ room =>
      rw [walk, hstep] at hother
      rcases List.mem_cons.1 hother with rfl | hother
      · exact ⟨n + 1, Nat.le_refl _, Stops.onward hstep hstops⟩
      · obtain ⟨m, hm, hstops⟩ := ih hother
        exact ⟨m, Nat.le_succ_of_le hm, hstops⟩

/-- A walk with an end never comes back to a name: every name on it is nearer to
the end than the one before. -/
theorem Stops.nodup_walk {n : Nat} {name : String} (h : tier.Stops n name) (room : Nat) :
    (tier.walk room name).Nodup := by
  induction h generalizing room with
  | here hstep =>
    cases room with
    | zero => exact List.nodup_nil
    | succ room => rw [walk, hstep]; exact List.nodup_singleton _
  | onward hstep hstops ih =>
    cases room with
    | zero => exact List.nodup_nil
    | succ room =>
      rw [walk, hstep]
      refine List.nodup_cons.2 ⟨fun hback => ?_, ih room⟩
      obtain ⟨m, hm, hagain⟩ := stops_of_mem_walk hstops hback
      have := hagain.unique (Stops.onward hstep hstops)
      omega

/-- A walk that comes back to a name uses up whatever room it is given. -/
theorem length_walk_of_not_nodup {steps : Nat} {name : String}
    (h : ¬ (tier.walk steps name).Nodup) (room : Nat) : (tier.walk room name).length = room := by
  rcases Nat.lt_or_ge (tier.walk room name).length room with hlt | hge
  · obtain ⟨n, hstops⟩ := stops_of_length_walk_lt hlt
    exact absurd (hstops.nodup_walk steps) h
  · exact Nat.le_antisymm (length_walk_le room name) hge

/-! ## Runs of hops -/

/-- The owners of a run of aliases are the names that the walk lists first. -/
theorem Leads.owners {defaultTtl : UInt32} {name last : String} {hops : List Record}
    (h : tier.Leads defaultTtl name hops last) :
    hops.map Record.name = tier.walk hops.length name := by
  induction h with
  | here => rfl
  | hop halias hself _ ih =>
    have hstep : ∀ {name entry}, tier.aliasOf? name = some entry →
        Fqdn.normalize entry.target ≠ name →
        tier.step? name = some (Fqdn.normalize entry.target) := by
      intro name entry halias hself
      simp only [step?, halias, if_neg hself]
    rw [List.map_cons, List.length_cons, walk, hstep halias hself, ih]
    rfl

/-- Two hops of a tier with one owner are the same hop. -/
theorem Serves.eq_of_name_eq {defaultTtl : UInt32} {hop hop' : Record}
    (h : tier.Serves defaultTtl hop) (h' : tier.Serves defaultTtl hop')
    (hname : hop.name = hop'.name) : hop = hop' := by
  obtain ⟨entry, hentry, he⟩ := h
  obtain ⟨entry', hentry', he'⟩ := h'
  rw [hname, hentry', Option.some_inj] at hentry
  rw [he, he', hname, hentry]

/-- How the hops of an answer run through a tier: along the walk from a name, with
no hop to its own owner, and twice over a hop only on a walk without an end. -/
structure Runs (tier : Tier) (defaultTtl : UInt32) (first : String) (hops : List Record) :
    Prop where
  serves : ∀ hop ∈ hops, tier.Serves defaultTtl hop
  owners : hops.map Record.name = tier.walk hops.length first
  target_ne : ∀ hop ∈ hops, hop.target? ≠ some hop.name
  nodup_iff : (hops.map Record.route).Nodup ↔ (tier.walk hops.length first).Nodup
  endless : ¬ (hops.map Record.route).Nodup → ∀ room, (tier.walk room first).length = room

theorem Leads.target_ne {defaultTtl : UInt32} {name last : String} {hops : List Record}
    (h : tier.Leads defaultTtl name hops last)
    (hnormal : ∀ {name entry}, tier.aliasOf? name = some entry →
      Fqdn.normalize entry.target = entry.target) :
    ∀ hop ∈ hops, hop.target? ≠ some hop.name := by
  induction h with
  | here => simp
  | @hop name last entry hops halias hself _ ih =>
    intro hop hhop
    rcases List.mem_cons.1 hhop with rfl | hhop
    · intro htarget
      have hsame : entry.target = name := Option.some.inj htarget
      exact hself ((hnormal halias).trans hsame)
    · exact ih hop hhop

theorem Leads.runs {defaultTtl : UInt32} {name last : String} {hops : List Record}
    (h : tier.Leads defaultTtl name hops last)
    (hnormal : ∀ {name entry}, tier.aliasOf? name = some entry →
      Fqdn.normalize entry.target = entry.target) :
    tier.Runs defaultTtl name hops := by
  have hnodup : (hops.map Record.route).Nodup ↔ (tier.walk hops.length name).Nodup := by
    rw [← h.owners]
    constructor
    · intro hroutes
      refine (List.nodup_map_iff_inj_on hroutes.of_map).2 fun hop hhop hop' hhop' e => ?_
      exact (h.serves hop hhop).eq_of_name_eq (h.serves hop' hhop') e
    · intro howners
      refine List.Nodup.of_map (f := Prod.fst) ?_
      rw [List.map_map]
      exact howners
  exact {
    serves := h.serves
    owners := h.owners
    target_ne := h.target_ne hnormal
    nodup_iff := hnodup
    endless := fun hrepeat => length_walk_of_not_nodup (mt hnodup.2 hrepeat) }

end Tier

namespace Resolution

variable {ρ δ : Type} {r : Resolution ρ δ}

/-- In an answer of a loaded store a hop is repeated within a tier only where the
aliases of the tier lead round a cycle.  Only a client with a tier of its own takes
hops of its own. -/
theorem hops_repeat_only_on_cycle {document : Option String} {name : String}
    {outside after : Outside ρ δ} {records : List Record}
    (hload : Answers.load document = .ok r.answers)
    (h : r.resolve name AliasChain.empty outside = (some records, after)) :
    ∃ own shared found middle last, records = own ++ shared ++ found ∧
      Linked (Fqdn.normalize name) own middle ∧ Linked middle shared last ∧
      (r.client = .default ∨ r.answers.lookup r.client = none → own = []) ∧
      own.length ≤ 9 ∧ shared.length ≤ 9 ∧ r.Origin shared found last after.delegate ∧
      (r.answers.tier r.client).Runs r.defaultTtl (Fqdn.normalize name) own ∧
      (r.answers.tier .default).Runs r.defaultTtl middle shared := by
  obtain ⟨own, shared, found, middle, last, hrecords, hown, hshared, hownLength, hsharedLength,
    hdefault, -, horigin⟩ := resolve_eq_some h
  have hnormal : ∀ {key name entry}, (r.answers.tier key).aliasOf? name = some entry →
      Fqdn.normalize entry.target = entry.target := Answers.normalize_target_of_load hload
  exact ⟨own, shared, found, middle, last, hrecords, hown.linked hnormal, hshared.linked hnormal,
    eq_nil_of_nothing_own hdefault hown, Nat.le_of_lt_succ hownLength,
    Nat.le_of_lt_succ hsharedLength, horigin, hown.runs hnormal, hshared.runs hnormal⟩

/-- Two names that are aliases of each other, one of them with an address. -/
def pingPongText : String :=
  "\x7b\"default\":\x7b\"cname\":\x7b\"ping\":\x7b\"answer\":\"pong\"\x7d," ++
    "\"pong\":\x7b\"answer\":\"ping\"\x7d\x7d," ++
    "\"a\":\x7b\"pong\":\x7b\"answer\":[\"1.2.3.4\"]\x7d\x7d\x7d\x7d"

def pingPong : Resolution Unit Unit where
  answers :=
    { clients := []
      default := some
        { resolvers := []
          addresses := [("pong.", { ttl := none, addresses := [⟨1, 2, 3, 4⟩] })]
          aliases := [("ping.", { ttl := none, target := "pong." }),
            ("pong.", { ttl := none, target := "ping." })] } }
  client := .default
  defaultTtl := 600
  source := IndexSource.still
  delegate := Delegate.canned []

/-- The nine hops that are left in the room, round the cycle. -/
def pingPongRecords : List Record :=
  let ping := Record.canonical "ping." 600 "pong."
  let pong := Record.canonical "pong." 600 "ping."
  [ping, pong, ping, pong, ping, pong, ping, pong, ping, Record.address "pong." 600 ⟨1, 2, 3, 4⟩]

theorem pingPong_cut :
    Answers.load (some pingPongText) = .ok pingPong.answers ∧
      pingPong.resolve "ping" AliasChain.empty { random := (), delegate := () } =
        (some pingPongRecords, { random := (), delegate := () }) ∧
      ∃ own shared found middle last, pingPongRecords = own ++ shared ++ found ∧
        Linked (Fqdn.normalize "ping") own middle ∧ Linked middle shared last ∧
        (pingPong.client = .default ∨ pingPong.answers.lookup pingPong.client = none →
          own = []) ∧
        own.length ≤ 9 ∧ shared.length ≤ 9 ∧ pingPong.Origin shared found last () ∧
        (pingPong.answers.tier pingPong.client).Runs 600 (Fqdn.normalize "ping") own ∧
        (pingPong.answers.tier .default).Runs 600 middle shared := by
  have hload : Answers.load (some pingPongText) = .ok pingPong.answers := by decide +kernel
  have hrun : pingPong.resolve "ping" AliasChain.empty { random := (), delegate := () } =
      (some pingPongRecords, { random := (), delegate := () }) := by
    rfl
  exact ⟨hload, hrun, hops_repeat_only_on_cycle hload hrun⟩

/-- A cycle of two names is answered, its aliases standing in the answer again and
again. -/
theorem pingPong_goes_round :
    Answers.load (some pingPongText) = .ok pingPong.answers ∧
      pingPong.resolve "ping" AliasChain.empty { random := (), delegate := () } =
        (some pingPongRecords, { random := (), delegate := () }) ∧
      ¬ ((pingPongRecords.filter fun hop => hop.kind = .cname).map Record.route).Nodup := by
  exact ⟨by decide +kernel, by rfl, by decide⟩

end Resolution
end SplitHorizon
