/-
When two texts are one name.

Names are compared in three places.  The loader refuses a name that stands twice in a section, a
tier is asked for a name, and a walk along aliases ends at a name that leads to itself.  All
three compare normal forms.

`Fqdn.Same` is the equality they decide, said without normal forms: blanks around a text, the
case of its ASCII letters and one closing dot are left out of account, and nothing else is.
Normal forms are equal exactly for such texts, and a text is the same name as its normal form.
So it makes no difference how often either side was normalized before it is compared, and
`normal_forms_decide` reads the loader, the tiers and the walk in terms of `Same` alone.
-/
import Mathlib.Logic.Function.Iterate
import SplitHorizon.Proofs.Answers.Exactness
import SplitHorizon.Proofs.Resolution.Unwinding

namespace SplitHorizon
namespace Fqdn

open Text

/-! ## Names without their spelling -/

/-- The text without its closing dot, if it has one.  Of several dots one is taken away. -/
def openDot (cs : List Char) : List Char :=
  if cs.getLast? = some '.' then cs.dropLast else cs

/-- What a text says as a name: no blanks around it, no capitals and no closing dot. -/
def bareChars (cs : List Char) : List Char :=
  openDot (lowerChars (trimChars cs))

/-- Two texts write one name. -/
def Same (name other : String) : Prop :=
  bareChars name.toList = bareChars other.toList

instance (name other : String) : Decidable (Same name other) :=
  inferInstanceAs (Decidable (bareChars name.toList = bareChars other.toList))

theorem closeDot_eq_append (cs : List Char) : closeDot cs = openDot cs ++ ['.'] := by
  unfold closeDot openDot
  split
  · next hdot => exact (List.dropLast_append_getLast? '.' hdot).symm
  · rfl

theorem normalizeChars_eq_append (cs : List Char) : normalizeChars cs = bareChars cs ++ ['.'] :=
  closeDot_eq_append _

/-- Normal forms tell names apart and spellings of one name not. -/
theorem normalize_eq_normalize_iff {name other : String} :
    normalize name = normalize other ↔ Same name other := by
  rw [← String.toList_inj, toList_normalize, toList_normalize, normalizeChars_eq_append,
    normalizeChars_eq_append, List.append_left_inj, Same]

/-- Of two closing dots one is part of the name. -/
example : Same " Lamp" "lamp." ∧ ¬ Same "lamp." "lamp.." := by
  decide +kernel

/-! ## Names that were normalized before -/

theorem iterate_normalize (n : Nat) (name : String) :
    normalize^[n + 1] name = normalize name := by
  induction n with
  | zero => rfl
  | succ n ih => rw [Function.iterate_succ_apply', ih, normalize_normalize]

theorem normalize_iterate (n : Nat) (name : String) :
    normalize (normalize^[n] name) = normalize name := by
  rw [← Function.iterate_succ_apply' normalize, iterate_normalize]

/-- A name stays the same name however often it is normalized. -/
theorem same_iterate_iff (m n : Nat) {name other : String} :
    Same (normalize^[m] name) (normalize^[n] other) ↔ Same name other := by
  rw [← normalize_eq_normalize_iff, normalize_iterate, normalize_iterate,
    normalize_eq_normalize_iff]

end Fqdn

open Fqdn (normalize Same)

namespace Answers

/-! ## Names that stand twice -/

section

variable {α β : Type} {client : String} {kind : RecordKind}
  {load : String → α → Except DocumentFault β} {front rest : List (String × α)}
  {loaded kept : NameMap β} {name : String} {record : α} {entry : β}

/-- What is loaded first is loaded on its own. -/
theorem loadNames_append (h : loadNames client kind load loaded front = .ok kept) :
    loadNames client kind load loaded (front ++ rest) =
      loadNames client kind load kept rest := by
  induction front generalizing loaded with
  | nil =>
    obtain rfl := Except.ok.inj h
    rfl
  | cons pair front ih =>
    obtain ⟨name, record⟩ := pair
    simp only [loadNames, bind_eq_ok_iff] at h
    obtain ⟨entry, hentry, hrest⟩ := h
    rw [List.cons_append, loadNames, hentry]
    split at hrest
    · cases hrest
    · next hnew => exact (if_neg hnew).trans (ih hrest)

theorem contains_of_loadNames (h : loadNames client kind load [] front = .ok kept) :
    kept.contains (normalize name) = true ↔ ∃ pair ∈ front, Same pair.1 name := by
  have hempty : (([] : NameMap β).map Prod.fst).Nodup := List.nodup_nil
  obtain ⟨-, entries, rfl, hentries⟩ := (loadNames_eq_ok_iff hempty).1 h
  rw [NameMap.contains_iff, names_of_loadsAs hentries, normalNames, List.mem_map]
  simp only [Fqdn.normalize_eq_normalize_iff]

/-- The loader goes on at a name that is new, and refuses one that stands in front. -/
theorem loadNames_at (h : loadNames client kind load [] front = .ok kept)
    (hentry : load (normalize name) record = .ok entry) :
    loadNames client kind load [] (front ++ (name, record) :: rest) =
      if ∃ pair ∈ front, Same pair.1 name then
        .error (.duplicateName client kind (normalize name))
      else loadNames client kind load (kept.add (normalize name) entry) rest := by
  rw [loadNames_append h, loadNames, hentry]
  by_cases hrepeated : ∃ pair ∈ front, Same pair.1 name
  · rw [if_pos hrepeated]
    exact if_pos ((contains_of_loadNames h).2 hrepeated)
  · rw [if_neg hrepeated]
    exact if_neg (mt (contains_of_loadNames h).1 hrepeated)

/-! ## Names that are looked up -/

theorem get?_of_loadsAs_iterate {pairs : List (String × α)} {map : NameMap β}
    (hnodup : (map.map Prod.fst).Nodup) (h : List.Forall₂ (LoadsAs load) pairs map) (n : Nat) :
    map.get? (normalize^[n + 1] name) = some entry ↔
      ∃ pair ∈ pairs, Same pair.1 name ∧ load (normalize name) pair.2 = .ok entry := by
  rw [Fqdn.iterate_normalize, get?_of_loadsAs hnodup h]
  simp only [@eq_comm _ (normalize name), Fqdn.normalize_eq_normalize_iff]

end

end Answers

/-- The tier finds what the section of the client writes for a name, in whatever spelling either
of them has it, and however often the name was normalized before the tier is asked for it. -/
structure Tier.FindsSame (tier : Tier) (client : String) (part : ClientSection) : Prop where
  addresses : ∀ n name entry, tier.addressesOf? (normalize^[n + 1] name) = some entry ↔
    ∃ pair ∈ part.addresses.getD [], Same pair.1 name ∧
      Answers.loadAddressRecord client (normalize name) pair.2 = .ok entry
  aliases : ∀ n name entry, tier.aliasOf? (normalize^[n + 1] name) = some entry ↔
    ∃ pair ∈ part.aliases.getD [], Same pair.1 name ∧
      Answers.loadAliasRecord client (normalize name) pair.2 = .ok entry

namespace Answers

theorem findsSame_of_loadSection {client : String} {part : ClientSection} {tier : Tier}
    (h : loadSection client part = .ok tier) : tier.FindsSame client part := by
  obtain ⟨-, ⟨hanodup, haddresses⟩, hcnodup, haliases⟩ := loadSection_eq_ok_iff.1 h
  constructor
  · intro n name entry
    exact get?_of_loadsAs_iterate hanodup haddresses n
  · intro n name entry
    exact get?_of_loadsAs_iterate hcnodup haliases n

/-- Every tier of a loaded store is the one of a section. -/
theorem findsSame_of_ofText {text : String} {answers : Answers} (h : ofText text = .ok answers)
    {key : ClientKey} {tier : Tier} (hlookup : answers.lookup key = some tier) :
    ∃ document, documentOf? text = some document ∧
      ∃ written ∈ document, ClientKey.parse? written.1 = some key ∧
        tier.FindsSame written.1 written.2 := by
  obtain ⟨document, hdocument, htiers⟩ := lookup_of_ofText h
  obtain ⟨written, hwritten, hkey, hsection⟩ := (htiers key tier).1 hlookup
  exact ⟨document, hdocument, written, hwritten, hkey, findsSame_of_loadSection hsection⟩

end Answers

/-! ## Names that lead to themselves -/

namespace Resolution

variable {ρ δ : Type} {r : Resolution ρ δ} {tier : Tier}
  {beyond : Nat → String → Act ρ δ (Option (List Record))}

/-- What an alias to another name comes to: the alias in front of the answer for its target or,
if there is none, the answer of the name itself. -/
def viaAlias (r : Resolution ρ δ) (tier : Tier)
    (beyond : Nat → String → Act ρ δ (Option (List Record))) (room : Nat) (fqdn : String)
    (entry : AliasEntry) : Act ρ δ (Option (List Record)) := do
  match ← r.inTier tier beyond room (normalize entry.target) with
  | some (first :: rest) => pure (some (entry.record fqdn r.defaultTtl :: first :: rest))
  | _ => r.direct tier beyond (room + 1) fqdn

/-- An alias ends the walk if its target, as it was spelled, is the name it stands under. -/
theorem inTier_of_alias {m n : Nat} {name target : String} {entry : AliasEntry}
    (halias : tier.aliasOf? (normalize^[n + 1] name) = some entry)
    (htarget : entry.target = normalize^[m] target) (room : Nat) :
    r.inTier tier beyond (room + 1) (normalize^[n + 1] name) =
      if Same target name then pure none
      else r.viaAlias tier beyond room (normalize^[n + 1] name) entry := by
  have hself : normalize entry.target = normalize^[n + 1] name ↔ Same target name := by
    rw [htarget, Fqdn.normalize_iterate, Fqdn.iterate_normalize, Fqdn.normalize_eq_normalize_iff]
  by_cases hsame : Same target name
  · rw [if_pos hsame, r.inTier_of_self_alias tier beyond room halias (hself.2 hsame)]
  · simp only [inTier, halias, if_neg (mt hself.1 hsame), if_neg hsame]
    rfl

theorem resolve_of_same {name other : String} (h : Same name other) (chain : AliasChain) :
    r.resolve name chain = r.resolve other chain := by
  rw [resolve, resolve, Fqdn.normalize_eq_normalize_iff.2 h]

end Resolution

/-! ## One equality of names -/

namespace Fqdn

open Answers (ofText documentOf? loadNames loadAddressRecord)
open Resolution (Act)

/-- Normal forms are equal exactly for texts that write one name, and normalizing a name any number
of times leaves it the same name.  This equality is what the loader decides when it looks for a
name that stands in front, a loaded tier when it is asked for a name, and the walk along aliases
when it looks for a name that leads to itself, however often names and targets were normalized on
the way; so a resolution does not see in which spelling it is asked. -/
theorem normal_forms_decide :
    (∀ name other, normalize name = normalize other ↔ Same name other) ∧
    (∀ name, normalize (normalize name) = normalize name) ∧
    (∀ m n name other, Same (normalize^[m] name) (normalize^[n] other) ↔ Same name other) ∧
    (∀ {α β : Type} (client : String) (kind : RecordKind)
      (load : String → α → Except DocumentFault β) (front rest : List (String × α))
      (kept : NameMap β) (name : String) (record : α) (entry : β),
      loadNames client kind load [] front = .ok kept →
      load (normalize name) record = .ok entry →
        loadNames client kind load [] (front ++ (name, record) :: rest) =
          if ∃ pair ∈ front, Same pair.1 name then
            .error (.duplicateName client kind (normalize name))
          else loadNames client kind load (kept.add (normalize name) entry) rest) ∧
    (∀ (text : String) (answers : Answers) (key : ClientKey) (tier : Tier),
      ofText text = .ok answers → answers.lookup key = some tier →
        ∃ document, documentOf? text = some document ∧
          ∃ written ∈ document, ClientKey.parse? written.1 = some key ∧
            tier.FindsSame written.1 written.2) ∧
    ∀ {ρ δ : Type} (r : Resolution ρ δ),
      (∀ (tier : Tier) (beyond : Nat → String → Act ρ δ (Option (List Record))) (room m n : Nat)
        (name target : String) (entry : AliasEntry),
        tier.aliasOf? (normalize^[n + 1] name) = some entry →
        entry.target = normalize^[m] target →
          r.inTier tier beyond (room + 1) (normalize^[n + 1] name) =
            if Same target name then pure none
            else r.viaAlias tier beyond room (normalize^[n + 1] name) entry) ∧
      ∀ name other chain, Same name other → r.resolve name chain = r.resolve other chain := by
  refine ⟨fun _ _ => normalize_eq_normalize_iff, normalize_normalize,
    fun m n _ _ => same_iterate_iff m n, ?_, ?_, ?_⟩
  · intro α β client kind load front rest kept name record entry hfront hentry
    exact Answers.loadNames_at hfront hentry
  · intro text answers key tier hload hlookup
    exact Answers.findsSame_of_ofText hload hlookup
  · intro ρ δ r
    refine ⟨?_, fun name other chain h => Resolution.resolve_of_same h chain⟩
    intro tier beyond room m n name target entry halias htarget
    exact Resolution.inTier_of_alias halias htarget room

/-! ## A lamp and a ring -/

/-- An address and an alias, the alias to its own name in another spelling. -/
def ringText : String :=
  "\x7b\"default\":\x7b\"a\":\x7b\"Lamp\":\x7b\"answer\":[\"10.0.0.5\"]\x7d\x7d," ++
    "\"cname\":\x7b\"Ring\":\x7b\"target\":\" RING. \"\x7d\x7d\x7d\x7d"

def lampRecord (name : String) : String × AddressRecord :=
  (name, { ttl := none, answer := some ["10.0.0.5"] })

def lampEntry : AddressEntry :=
  { ttl := none, addresses := [⟨10, 0, 0, 5⟩] }

def ringSection : ClientSection where
  resolvers := none
  addresses := some [lampRecord "Lamp"]
  aliases := some [("Ring", { ttl := none, answer := some " RING. " })]

def ringTier : Tier where
  resolvers := []
  addresses := [("lamp.", lampEntry)]
  aliases := [("ring.", { ttl := none, target := "ring." })]

theorem lamp_and_ring_decided :
    loadNames "default" .a (loadAddressRecord "default") []
        ([lampRecord "Lamp"] ++ [lampRecord " LAMP. "]) =
      .error (.duplicateName "default" .a "lamp.") ∧
    ofText ringText = .ok { clients := [], default := some ringTier } ∧
    ringTier.addressesOf? (normalize^[1 + 1] "LAMP") = some lampEntry ∧
    ∀ (r : Resolution Unit Unit) (beyond : Nat → String → Act Unit Unit (Option (List Record))),
      r.inTier ringTier beyond (9 + 1) (normalize^[0 + 1] "rinG") = pure none ∧
        r.resolve "rinG" AliasChain.empty = r.resolve " Ring." AliasChain.empty := by
  obtain ⟨-, -, -, hrepeated, hlookups, hresolution⟩ := normal_forms_decide
  have hload : ofText ringText = .ok { clients := [], default := some ringTier } := by
    decide +kernel
  refine ⟨?_, hload, ?_, fun r beyond => ⟨?_, ?_⟩⟩
  · have hfront : loadNames "default" .a (loadAddressRecord "default") [] [lampRecord "Lamp"] =
        .ok ringTier.addresses := by
      decide +kernel
    have hentry : loadAddressRecord "default" (normalize " LAMP. ") (lampRecord " LAMP. ").2 =
        .ok lampEntry := by
      decide +kernel
    have hname : normalize " LAMP. " = "lamp." := by decide +kernel
    have hsame : ∃ pair ∈ [lampRecord "Lamp"], Same pair.1 " LAMP. " := by decide +kernel
    have h := hrepeated _ _ _ _ [] _ _ _ _ hfront hentry
    rwa [if_pos hsame, hname] at h
  · obtain ⟨document, hdocument, written, hwritten, -, hfinds⟩ :=
      hlookups _ _ .default _ hload rfl
    have hwrites : documentOf? ringText = some [("default", ringSection)] := by decide +kernel
    obtain rfl := Option.some.inj (hwrites.symm.trans hdocument)
    obtain rfl := List.mem_singleton.1 hwritten
    refine (hfinds.addresses 1 "LAMP" lampEntry).2 ⟨lampRecord "Lamp", List.mem_cons_self, ?_⟩
    decide +kernel
  · have halias : ringTier.aliasOf? (normalize^[0 + 1] "rinG") =
        some { ttl := none, target := "ring." } := by
      decide +kernel
    have htarget : "ring." = normalize^[1] " RING. " := by decide +kernel
    have hsame : Same " RING. " "rinG" := by decide +kernel
    have h := (hresolution r).1 ringTier beyond 9 1 0 "rinG" " RING. " _ halias htarget
    rwa [if_pos hsame] at h
  · have hsame : Same "rinG" " Ring." := by decide +kernel
    exact (hresolution r).2 _ _ _ hsame

end Fqdn
end SplitHorizon
