/-
What loads, and what a store holds afterwards.

`Document.Valid` collects what the loader checks on its way through the sections, and
`Answers.Holds` says that a store is its document with the names in normal form.  A
document loads if and only if it is valid, and a store that was loaded holds it.

Neither depends on the order in which clients and names come up.  So it makes no
difference how the members of the text are ordered, or in which order the maps made
from it are walked through: the sections that are not met in time to be at fault are
at fault in every other order too.
-/
import SplitHorizon.Proofs.Answers.Loading
import SplitHorizon.Proofs.Answers.Reordering
import SplitHorizon.Proofs.Numerals

namespace SplitHorizon

/-! ## Valid documents -/

/-- At least one address, and nothing but IPv4 texts. -/
structure AddressRecord.Valid (record : AddressRecord) : Prop where
  some_address : record.answer.getD [] ≠ []
  addresses : ∀ text ∈ record.answer.getD [], ∃ ip, Ipv4.parse? (Text.trim text) = some ip

/-- A target that is not blank. -/
def AliasRecord.Valid (record : AliasRecord) : Prop :=
  Text.isAllBlank (record.answer.getD "") = false

/-- The names of a section, as they are looked up. -/
def normalNames {α : Type} (pairs : List (String × α)) : List String :=
  pairs.map fun pair => Fqdn.normalize pair.1

structure ClientSection.Valid (part : ClientSection) : Prop where
  resolvers : ∀ host ∈ part.resolvers.getD [], Text.isAllBlank host = false
  addresses : ∀ pair ∈ part.addresses.getD [], pair.2.Valid
  aliases : ∀ pair ∈ part.aliases.getD [], pair.2.Valid
  addressNames : (normalNames (part.addresses.getD [])).Nodup
  aliasNames : (normalNames (part.aliases.getD [])).Nodup

/-- Every key is `default` or an address, no two of them denote one client, and every
section is valid. -/
structure Document.Valid (document : Document) : Prop where
  keys : ∀ written ∈ document,
    written.1 = ClientKey.defaultText ∨ ∃ ip, Ip.parse? written.1 = some ip
  clients : (document.map fun written => ClientKey.parse? written.1).Nodup
  sections : ∀ written ∈ document, written.2.Valid

/-! ## What a store holds -/

/-- The tier is the section with its names in normal form: nothing is lost, nothing is
added, and every list keeps its order. -/
structure Tier.Holds (tier : Tier) (part : ClientSection) : Prop where
  resolvers : tier.resolvers = (part.resolvers.getD []).map Text.trim
  addresses : ∀ name entry, tier.addressesOf? name = some entry ↔
    ∃ pair ∈ part.addresses.getD [], name = Fqdn.normalize pair.1 ∧ entry.ttl = pair.2.ttl ∧
      List.Forall₂ (fun text ip => Ipv4.parse? (Text.trim text) = some ip)
        (pair.2.answer.getD []) entry.addresses
  aliases : ∀ name entry, tier.aliasOf? name = some entry ↔
    ∃ pair ∈ part.aliases.getD [], name = Fqdn.normalize pair.1 ∧ entry.ttl = pair.2.ttl ∧
      entry.target = Fqdn.normalize (pair.2.answer.getD "")

/-- Every name of the tier, and every target, is in normal form. -/
structure Tier.Normal (tier : Tier) : Prop where
  addresses : ∀ pair ∈ tier.addresses, Fqdn.normalize pair.1 = pair.1
  aliases : ∀ pair ∈ tier.aliases,
    Fqdn.normalize pair.1 = pair.1 ∧ Fqdn.normalize pair.2.target = pair.2.target

def ClientSection.recordCount (part : ClientSection) : Nat :=
  (part.addresses.getD []).length + (part.aliases.getD []).length

def Document.recordCount (document : Document) : Nat :=
  document.foldr (fun written count => written.2.recordCount + count) 0

structure Answers.Holds (answers : Answers) (document : Document) : Prop where
  clients : ∀ written ∈ document, ∃ key tier, ClientKey.parse? written.1 = some key ∧
    answers.lookup key = some tier ∧ tier.Holds written.2
  only : ∀ key tier, answers.lookup key = some tier →
    ∃ written ∈ document, ClientKey.parse? written.1 = some key ∧ tier.Holds written.2
  normal : ∀ tier ∈ answers.tiers, tier.Normal
  clientCount : answers.clientCount = document.length
  recordCount : answers.recordCount = document.recordCount

/-! ## Sections -/

namespace Answers

theorem loadResolver_eq_ok_iff {client host kept : String} :
    loadResolver client host = .ok kept ↔ Text.isAllBlank host = false ∧ kept = Text.trim host := by
  unfold loadResolver
  cases Text.isAllBlank host with
  | true => simp
  | false => simp [eq_comm]

theorem loadAliasRecord_eq_ok_iff {client name : String} {record : AliasRecord}
    {entry : AliasEntry} :
    loadAliasRecord client name record = .ok entry ↔
      record.Valid ∧ entry.ttl = record.ttl ∧
        entry.target = Fqdn.normalize (record.answer.getD "") := by
  simp only [loadAliasRecord, AliasRecord.Valid]
  cases Text.isAllBlank (record.answer.getD "") with
  | true => simp
  | false =>
    obtain ⟨ttl, target⟩ := entry
    simp [eq_comm]

theorem exists_loadAddressRecord_iff {client name : String} {record : AddressRecord} :
    (∃ entry, loadAddressRecord client name record = .ok entry) ↔ record.Valid := by
  simp only [loadAddressRecord_eq_ok_iff]
  constructor
  · rintro ⟨entry, hsome, -, haddresses⟩
    exact ⟨hsome, exists_forall₂_iff.1 ⟨_, haddresses⟩⟩
  · intro hvalid
    obtain ⟨addresses, haddresses⟩ := exists_forall₂_iff.2 hvalid.addresses
    exact ⟨⟨record.ttl, addresses⟩, hvalid.some_address, rfl, haddresses⟩

theorem exists_loadAliasRecord_iff {client name : String} {record : AliasRecord} :
    (∃ entry, loadAliasRecord client name record = .ok entry) ↔ record.Valid := by
  simp only [loadAliasRecord_eq_ok_iff]
  exact ⟨fun ⟨_, hvalid, _⟩ => hvalid, fun hvalid => ⟨⟨_, _⟩, hvalid, rfl, rfl⟩⟩

section

variable {α β : Type} {load : String → α → Except DocumentFault β} {pairs : List (String × α)}
  {map : NameMap β}

theorem names_of_loadsAs (h : List.Forall₂ (LoadsAs load) pairs map) :
    map.map Prod.fst = normalNames pairs := by
  rw [normalNames, ← List.forall₂_eq_eq_eq, List.forall₂_map_left_iff,
    List.forall₂_map_right_iff]
  exact h.flip.imp fun _ _ h => h.1

theorem exists_loadsAs_iff :
    (∃ map, (map.map Prod.fst).Nodup ∧ List.Forall₂ (LoadsAs load) pairs map) ↔
      (normalNames pairs).Nodup ∧
        ∀ pair ∈ pairs, ∃ entry, load (Fqdn.normalize pair.1) pair.2 = .ok entry := by
  constructor
  · rintro ⟨map, hnodup, hmap⟩
    refine ⟨names_of_loadsAs hmap ▸ hnodup, fun pair hpair => ?_⟩
    obtain ⟨kept, -, hname, hload⟩ := exists_right_of_mem hmap hpair
    exact ⟨kept.2, hname ▸ hload⟩
  · rintro ⟨hnodup, hall⟩
    have heach : ∀ pair ∈ pairs, ∃ kept, LoadsAs load pair kept := fun pair hpair =>
      (hall pair hpair).elim fun entry hentry => ⟨(_, entry), rfl, hentry⟩
    obtain ⟨map, hmap⟩ := exists_forall₂_iff.2 heach
    exact ⟨map, names_of_loadsAs hmap ▸ hnodup, hmap⟩

/-- What is found under a name is what the section writes for it. -/
theorem get?_of_loadsAs (hnodup : (map.map Prod.fst).Nodup)
    (h : List.Forall₂ (LoadsAs load) pairs map) {name : String} {entry : β} :
    map.get? name = some entry ↔
      ∃ pair ∈ pairs, name = Fqdn.normalize pair.1 ∧ load name pair.2 = .ok entry := by
  constructor
  · intro hget
    exact exists_left_of_mem h (NameMap.mem_of_get? hget)
  · rintro ⟨pair, hpair, rfl, hentry⟩
    obtain ⟨⟨fqdn, kept⟩, hmem, hname, hkept⟩ := exists_right_of_mem h hpair
    obtain rfl : fqdn = Fqdn.normalize pair.1 := hname
    obtain rfl := Except.ok.inj (hentry.symm.trans hkept)
    exact NameMap.get?_of_mem hnodup hmem

end

theorem exists_loadSection_iff {client : String} {part : ClientSection} :
    (∃ tier, loadSection client part = .ok tier) ↔ part.Valid := by
  have haddresses := @exists_loadsAs_iff _ _ (loadAddressRecord client) (part.addresses.getD [])
  have haliases := @exists_loadsAs_iff _ _ (loadAliasRecord client) (part.aliases.getD [])
  simp only [exists_loadAddressRecord_iff] at haddresses
  simp only [exists_loadAliasRecord_iff] at haliases
  simp only [loadSection_eq_ok_iff, loadResolver_eq_ok_iff]
  constructor
  · rintro ⟨tier, hresolvers, ha, hc⟩
    obtain ⟨hnames, hvalid⟩ := haddresses.1 ⟨_, ha⟩
    obtain ⟨hnames', hvalid'⟩ := haliases.1 ⟨_, hc⟩
    refine ⟨fun host hhost => ?_, hvalid, hvalid', hnames, hnames'⟩
    obtain ⟨_, -, hhost, -⟩ := exists_right_of_mem hresolvers hhost
    exact hhost
  · intro hvalid
    obtain ⟨addresses, ha⟩ := haddresses.2 ⟨hvalid.addressNames, hvalid.addresses⟩
    obtain ⟨aliases, hc⟩ := haliases.2 ⟨hvalid.aliasNames, hvalid.aliases⟩
    have heach : ∀ host ∈ part.resolvers.getD [],
        ∃ kept, Text.isAllBlank host = false ∧ kept = Text.trim host :=
      fun host hhost => ⟨_, hvalid.resolvers host hhost, rfl⟩
    obtain ⟨resolvers, hr⟩ := exists_forall₂_iff.2 heach
    exact ⟨⟨resolvers, addresses, aliases⟩, hr, ha, hc⟩

/-! ## Tiers -/

section

variable {client : String} {part : ClientSection} {tier : Tier}

theorem holds_of_loadSection (h : loadSection client part = .ok tier) : tier.Holds part := by
  obtain ⟨hresolvers, ⟨hanodup, ha⟩, hcnodup, hc⟩ := loadSection_eq_ok_iff.1 h
  have hvalid : part.Valid := exists_loadSection_iff.1 ⟨tier, h⟩
  constructor
  · rw [← List.forall₂_eq_eq_eq, List.forall₂_map_right_iff]
    exact hresolvers.flip.imp fun _ _ h => (loadResolver_eq_ok_iff.1 h).2
  · intro name entry
    rw [Tier.addressesOf?, get?_of_loadsAs hanodup ha]
    refine exists_congr fun pair => and_congr_right fun hpair => and_congr_right fun _ => ?_
    rw [loadAddressRecord_eq_ok_iff]
    exact ⟨fun h => h.2, fun h => ⟨(hvalid.addresses pair hpair).some_address, h⟩⟩
  · intro name entry
    rw [Tier.aliasOf?, get?_of_loadsAs hcnodup hc]
    refine exists_congr fun pair => and_congr_right fun hpair => and_congr_right fun _ => ?_
    rw [loadAliasRecord_eq_ok_iff]
    exact ⟨fun h => h.2, fun h => ⟨hvalid.aliases pair hpair, h⟩⟩

theorem normal_of_loadSection (h : loadSection client part = .ok tier) : tier.Normal := by
  obtain ⟨-, ⟨-, ha⟩, -, hc⟩ := loadSection_eq_ok_iff.1 h
  constructor
  · intro pair hpair
    obtain ⟨written, -, hname, -⟩ := exists_left_of_mem ha hpair
    rw [hname, Fqdn.normalize_normalize]
  · intro pair hpair
    obtain ⟨written, -, hname, hentry⟩ := exists_left_of_mem hc hpair
    exact ⟨by rw [hname, Fqdn.normalize_normalize], normalize_target_of_loadAliasRecord hentry⟩

theorem recordCount_of_loadSection (h : loadSection client part = .ok tier) :
    tier.recordCount = part.recordCount := by
  obtain ⟨-, ⟨-, ha⟩, -, hc⟩ := loadSection_eq_ok_iff.1 h
  rw [Tier.recordCount, ClientSection.recordCount, ha.length_eq, hc.length_eq]

end

/-! ## Clients -/

section

variable {answers result : Answers} {key other : ClientKey} {tier : Tier} {document : Document}

theorem lookup_put_eq_none_iff :
    (answers.put key tier).lookup other = none ↔ other ≠ key ∧ answers.lookup other = none := by
  by_cases h : other = key
  · subst h
    simp
  · rw [lookup_put_of_ne h]
    exact ⟨fun hnone => ⟨h, hnone⟩, And.right⟩

/-- A tier under a new key joins the others. -/
theorem tiers_put_perm (h : answers.lookup key = none) :
    (answers.put key tier).tiers.Perm (tier :: answers.tiers) := by
  cases key with
  | default =>
    have hnone : answers.default = none := h
    simp only [put, tiers, hnone, Option.toList_some, Option.toList_none, List.append_nil]
    exact List.perm_append_comm
  | client ip =>
    have hfresh : answers.clients.filter (·.1 ≠ ip) = answers.clients := by
      rw [List.filter_eq_self]
      intro pair hpair
      have hne : ip ≠ pair.1 := bne_iff_ne.1 (List.lookup_eq_none_iff.1 h pair hpair)
      simpa using hne.symm
    simp only [put, tiers, hfresh, List.map_append, List.map_cons, List.map_nil,
      List.append_assoc, List.singleton_append]
    exact List.perm_middle

/-- The tiers of a loaded store are those that were there and one for each section. -/
theorem tiers_of_loadClients (h : loadClients answers document = .ok result) :
    ∃ loaded, List.Forall₂ (fun written tier => loadSection written.1 written.2 = .ok tier)
        document loaded ∧ result.tiers.Perm (loaded ++ answers.tiers) := by
  induction document generalizing answers with
  | nil =>
    obtain rfl := Except.ok.inj h
    exact ⟨[], List.Forall₂.nil, List.Perm.refl _⟩
  | cons written rest ih =>
    obtain ⟨key, tier, ⟨-, htier⟩, hnew, hrest⟩ := loadClients_cons_eq_ok_iff.1 h
    obtain ⟨loaded, hloaded, hperm⟩ := ih hrest
    refine ⟨tier :: loaded, List.Forall₂.cons htier hloaded, hperm.trans ?_⟩
    exact ((tiers_put_perm hnew).append_left loaded).trans List.perm_middle

theorem exists_parse?_iff {text : String} :
    (∃ key, ClientKey.parse? text = some key) ↔
      text = ClientKey.defaultText ∨ ∃ ip, Ip.parse? text = some ip := by
  by_cases htext : text = ClientKey.defaultText
  · simp [ClientKey.parse?, htext]
  · simp [ClientKey.parse?, htext]

/-- A document is valid if its first client is and the others are, none of which is the
first one once more. -/
theorem valid_cons_iff {written : String × ClientSection} {rest : Document} :
    Document.Valid (written :: rest) ↔
      ∃ key, ClientKey.parse? written.1 = some key ∧ written.2.Valid ∧ rest.Valid ∧
        ∀ later ∈ rest, ClientKey.parse? later.1 ≠ some key := by
  constructor
  · intro hvalid
    obtain ⟨key, hkey⟩ := exists_parse?_iff.2 (hvalid.keys written List.mem_cons_self)
    have hclients := hvalid.clients
    rw [List.map_cons, List.nodup_cons, hkey] at hclients
    refine ⟨key, hkey, hvalid.sections written List.mem_cons_self, ⟨?_, hclients.2, ?_⟩, ?_⟩
    · exact fun later hlater => hvalid.keys later (List.mem_cons_of_mem _ hlater)
    · exact fun later hlater => hvalid.sections later (List.mem_cons_of_mem _ hlater)
    · exact fun later hlater h => hclients.1 (List.mem_map.2 ⟨later, hlater, h⟩)
  · rintro ⟨key, hkey, hsection, hrest, hapart⟩
    refine ⟨?_, ?_, List.forall_mem_cons.2 ⟨hsection, hrest.sections⟩⟩
    · exact List.forall_mem_cons.2 ⟨exists_parse?_iff.1 ⟨key, hkey⟩, hrest.keys⟩
    · rw [List.map_cons, List.nodup_cons, hkey]
      refine ⟨fun hmem => ?_, hrest.clients⟩
      obtain ⟨later, hlater, h⟩ := List.mem_map.1 hmem
      exact hapart later hlater h

/-- A document loads on top of a store if it is valid and the store has none of its
clients. -/
theorem exists_loadClients_iff :
    (∃ result, loadClients answers document = .ok result) ↔
      document.Valid ∧ ∀ written ∈ document, ∀ key, ClientKey.parse? written.1 = some key →
        answers.lookup key = none := by
  induction document generalizing answers with
  | nil =>
    refine ⟨fun _ => ⟨⟨?_, List.nodup_nil, ?_⟩, ?_⟩, fun _ => ⟨answers, rfl⟩⟩ <;>
      exact fun _ h => absurd h List.not_mem_nil
  | cons written rest ih =>
    simp only [loadClients_cons_eq_ok_iff, valid_cons_iff]
    constructor
    · rintro ⟨result, key, tier, ⟨hkey, htier⟩, hnew, hrest⟩
      obtain ⟨hvalid, hfree⟩ := ih.1 ⟨result, hrest⟩
      have hsplit : ∀ later ∈ rest, ∀ other, ClientKey.parse? later.1 = some other →
          other ≠ key ∧ answers.lookup other = none := fun later hlater other hother =>
        lookup_put_eq_none_iff.1 (hfree later hlater other hother)
      refine ⟨⟨key, hkey, exists_loadSection_iff.1 ⟨tier, htier⟩, hvalid, ?_⟩, ?_⟩
      · exact fun later hlater h => (hsplit later hlater key h).1 rfl
      · refine List.forall_mem_cons.2 ⟨fun other hother => ?_, fun later hlater other hother => ?_⟩
        · exact Option.some.inj (hkey.symm.trans hother) ▸ hnew
        · exact (hsplit later hlater other hother).2
    · rintro ⟨⟨key, hkey, hsection, hvalid, hapart⟩, hfree⟩
      obtain ⟨tier, htier⟩ := exists_loadSection_iff.2 hsection
      have hfree' : ∀ later ∈ rest, ∀ other, ClientKey.parse? later.1 = some other →
          (answers.put key tier).lookup other = none := by
        intro later hlater other hother
        refine lookup_put_eq_none_iff.2 ⟨?_, hfree later (List.mem_cons_of_mem _ hlater) _ hother⟩
        rintro rfl
        exact hapart later hlater hother
      obtain ⟨result, hresult⟩ := ih.2 ⟨hvalid, hfree'⟩
      exact ⟨result, key, tier, ⟨hkey, htier⟩, hfree written List.mem_cons_self key hkey, hresult⟩

theorem loadClients_empty_iff :
    (∃ result, loadClients empty document = .ok result) ↔ document.Valid := by
  rw [exists_loadClients_iff]
  exact ⟨And.left, fun hvalid => ⟨hvalid, fun _ _ key _ => lookup_empty key⟩⟩

theorem recordCount_of_forall₂ {loaded : List Tier}
    (h : List.Forall₂ (fun written tier => loadSection written.1 written.2 = .ok tier)
      document loaded) :
    loaded.foldr (fun tier count => tier.recordCount + count) 0 = document.recordCount := by
  induction h with
  | nil => rfl
  | cons hsection _ ih =>
    rw [List.foldr_cons, ih, recordCount_of_loadSection hsection]
    rfl

/-- A loaded store holds its document and nothing else. -/
theorem holds_of_loadClients (h : loadClients empty document = .ok result) :
    result.Holds document := by
  obtain ⟨hclients, honly⟩ := lookup_of_loadClients h
  obtain ⟨loaded, hloaded, hperm⟩ := tiers_of_loadClients h
  rw [show empty.tiers = [] from rfl, List.append_nil] at hperm
  constructor
  · intro written hwritten
    obtain ⟨key, tier, ⟨hkey, htier⟩, hlookup⟩ := hclients written hwritten
    exact ⟨key, tier, hkey, hlookup, holds_of_loadSection htier⟩
  · intro key tier hlookup
    rcases (honly key tier).1 hlookup with hempty | ⟨written, hwritten, hkey, htier⟩
    · rw [lookup_empty] at hempty
      cases hempty
    · exact ⟨written, hwritten, hkey, holds_of_loadSection htier⟩
  · intro tier htier
    obtain ⟨written, -, hsection⟩ := exists_left_of_mem hloaded (hperm.mem_iff.1 htier)
    exact normal_of_loadSection hsection
  · rw [clientCount, hperm.length_eq, hloaded.length_eq]
  · have hcount : ∀ (first second : Tier) (count : Nat),
        second.recordCount + (first.recordCount + count) =
          first.recordCount + (second.recordCount + count) :=
      fun first second count => Nat.add_left_comm _ _ _
    rw [recordCount, hperm.foldr_eq' (fun first _ second _ count => hcount first second count),
      recordCount_of_forall₂ hloaded]

end

end Answers

/-! ## Other orders -/

section

variable {α : Type} {R : α → α → Prop}

theorem Document.NamesRearranged.symm (hsymm : ∀ {a b}, R a b → R b a)
    {pairs arranged : List (String × α)} (h : NamesRearranged R pairs arranged) :
    NamesRearranged R arranged pairs := by
  obtain ⟨middle, hmiddle, hrelated⟩ := h
  obtain ⟨other, hother, hsame⟩ := List.perm_comp_forall₂ hmiddle hrelated
  exact ⟨other, hsame.symm, hother.flip.imp fun _ _ h => ⟨h.1.symm, hsymm h.2⟩⟩

end

namespace ClientSection

variable {part other : ClientSection}

theorem Rearranged.symm (h : part.Rearranged other) : other.Rearranged part := by
  have hrel : ∀ {α : Type} {a b : Option (List α)}, Option.Rel List.Perm a b →
      Option.Rel List.Perm b a := by
    intro α a b hab
    cases hab with
    | none => exact Option.Rel.none
    | some hab => exact Option.Rel.some hab.symm
  exact ⟨h.resolvers.symm, hrel h.addresses, hrel h.aliases⟩

theorem perm_of_rel {α : Type} {a b : Option (List α)} (h : Option.Rel List.Perm a b) :
    (a.getD []).Perm (b.getD []) := by
  cases h with
  | none => exact List.Perm.refl []
  | some h => exact h

theorem Rearranged.perm_addresses (h : part.Rearranged other) :
    (part.addresses.getD []).Perm (other.addresses.getD []) :=
  perm_of_rel h.addresses

theorem Rearranged.perm_aliases (h : part.Rearranged other) :
    (part.aliases.getD []).Perm (other.aliases.getD []) :=
  perm_of_rel h.aliases

theorem Valid.of_rearranged (h : part.Rearranged other) (hvalid : part.Valid) : other.Valid where
  resolvers := h.resolvers ▸ hvalid.resolvers
  addresses := fun pair hpair => hvalid.addresses pair (h.perm_addresses.mem_iff.2 hpair)
  aliases := fun pair hpair => hvalid.aliases pair (h.perm_aliases.mem_iff.2 hpair)
  addressNames := (h.perm_addresses.map _).nodup_iff.1 hvalid.addressNames
  aliasNames := (h.perm_aliases.map _).nodup_iff.1 hvalid.aliasNames

theorem Rearranged.recordCount_eq (h : part.Rearranged other) :
    part.recordCount = other.recordCount := by
  rw [recordCount, recordCount, h.perm_addresses.length_eq, h.perm_aliases.length_eq]

end ClientSection

theorem Tier.Holds.of_rearranged {tier : Tier} {part other : ClientSection}
    (h : part.Rearranged other) (hholds : tier.Holds part) : tier.Holds other where
  resolvers := h.resolvers ▸ hholds.resolvers
  addresses := fun name entry => by simp only [hholds.addresses, h.perm_addresses.mem_iff]
  aliases := fun name entry => by simp only [hholds.aliases, h.perm_aliases.mem_iff]

namespace Document

variable {document arranged : Document}

theorem Rearranged.symm (h : document.Rearranged arranged) : arranged.Rearranged document :=
  NamesRearranged.symm ClientSection.Rearranged.symm h

theorem Rearranged.exists_left (h : document.Rearranged arranged)
    {written : String × ClientSection} (hwritten : written ∈ arranged) :
    ∃ other ∈ document, other.1 = written.1 ∧ other.2.Rearranged written.2 := by
  obtain ⟨middle, hmiddle, hrelated⟩ := h
  obtain ⟨other, hother, hkey, hpart⟩ := exists_left_of_mem hrelated hwritten
  exact ⟨other, hmiddle.mem_iff.2 hother, hkey, hpart⟩

theorem Rearranged.perm_keys (h : document.Rearranged arranged) :
    (document.map Prod.fst).Perm (arranged.map Prod.fst) := by
  obtain ⟨middle, hmiddle, hrelated⟩ := h
  have hkeys : middle.map Prod.fst = arranged.map Prod.fst := by
    rw [← List.forall₂_eq_eq_eq, List.forall₂_map_left_iff, List.forall₂_map_right_iff]
    exact hrelated.imp fun _ _ h => h.1
  exact hkeys ▸ hmiddle.map Prod.fst

theorem Rearranged.recordCount_eq (h : document.Rearranged arranged) :
    document.recordCount = arranged.recordCount := by
  obtain ⟨middle, hmiddle, hrelated⟩ := h
  have hmoved : document.recordCount = Document.recordCount middle := by
    refine hmiddle.foldr_eq' (fun first _ second _ count => ?_) 0
    exact Nat.add_left_comm _ _ _
  have hparts : Document.recordCount middle = arranged.recordCount := by
    clear hmoved hmiddle
    induction hrelated with
    | nil => rfl
    | cons hpair _ ih =>
      simp only [Document.recordCount, List.foldr_cons] at ih ⊢
      rw [hpair.2.recordCount_eq, ih]
  exact hmoved.trans hparts

theorem Valid.of_rearranged (h : document.Rearranged arranged) (hvalid : document.Valid) :
    arranged.Valid := by
  have hclients : ∀ list : Document, list.map (fun written => ClientKey.parse? written.1) =
      (list.map Prod.fst).map ClientKey.parse? := by
    intro list
    rw [List.map_map]
    rfl
  refine ⟨fun written hwritten => ?_, ?_, fun written hwritten => ?_⟩
  · obtain ⟨other, hother, hkey, -⟩ := h.exists_left hwritten
    exact hkey ▸ hvalid.keys other hother
  · have hnodup := hvalid.clients
    rw [hclients] at hnodup ⊢
    exact (h.perm_keys.map ClientKey.parse?).nodup_iff.1 hnodup
  · obtain ⟨other, hother, -, hpart⟩ := h.exists_left hwritten
    exact (hvalid.sections other hother).of_rearranged hpart

theorem valid_iff_of_rearranged (h : document.Rearranged arranged) :
    document.Valid ↔ arranged.Valid :=
  ⟨Valid.of_rearranged h, Valid.of_rearranged h.symm⟩

end Document

namespace Answers

theorem Holds.of_rearranged {answers : Answers} {document arranged : Document}
    (h : document.Rearranged arranged) (hholds : answers.Holds document) :
    answers.Holds arranged := by
  refine ⟨?_, ?_, hholds.normal, ?_, ?_⟩
  · intro written hwritten
    obtain ⟨other, hother, hkey, hpart⟩ := h.exists_left hwritten
    obtain ⟨key, tier, hparse, hlookup, htier⟩ := hholds.clients other hother
    exact ⟨key, tier, hkey ▸ hparse, hlookup, htier.of_rearranged hpart⟩
  · intro key tier hlookup
    obtain ⟨other, hother, hparse, htier⟩ := hholds.only key tier hlookup
    obtain ⟨written, hwritten, hkey, hpart⟩ := h.symm.exists_left hother
    exact ⟨written, hwritten, hkey ▸ hparse, htier.of_rearranged hpart.symm⟩
  · rw [hholds.clientCount, ← List.length_map (Prod.fst (α := String)), h.perm_keys.length_eq,
      List.length_map]
  · rw [hholds.recordCount, h.recordCount_eq]

end Answers

/-! ## Texts -/

namespace Json

/-- No value starts with a blank, so a text of blanks has none. -/
theorem readValue_of_blank {room : Nat} {cs : List Char}
    (hblank : ∀ c ∈ cs, Text.isBlank c = true) : readValue room cs = none := by
  have hskip : ∀ c ∈ skipGap cs, Text.isBlank c = true := fun c hc =>
    hblank c ((List.dropWhile_suffix _).subset hc)
  cases room with
  | zero => rfl
  | succ room =>
    rw [readValue]
    cases hrest : skipGap cs with
    | nil => rfl
    | cons c rest =>
      have hc : Text.isBlank c = true := hskip c (hrest ▸ List.mem_cons_self)
      have hinteger : readInteger (c :: rest) = none := by
        simp [readInteger, Text.spanDigits, Text.isDigitOf_ten_of_isBlank hc]
      split
      case h_7 =>
        have hnumber : readNumber (c :: rest) = none := by
          unfold readNumber
          split
          next h =>
            split at h
            · next hminus =>
              obtain ⟨rfl, rfl⟩ := List.cons.inj hminus
              cases hc
            · obtain ⟨-, rfl⟩ := Prod.mk.inj h
              rw [hinteger]
              rfl
        rw [hnumber]
        rfl
      -- The other cases start with a character that is not blank.
      all_goals
        next h =>
          obtain ⟨rfl, rfl⟩ := List.cons.inj h
          cases hc

theorem isAllBlank_of_parse? {text : String} {json : Json} (h : parse? text = some json) :
    Text.isAllBlank text = false := by
  rw [← Bool.not_eq_true, Text.isAllBlank, List.all_eq_true]
  intro hblank
  simp only [parse?, readValue_of_blank hblank] at h
  cases h

end Json

namespace Answers

theorem documentOf?_of_parse? {text : String} {json : Json} (h : Json.parse? text = some json) :
    documentOf? text = Document.ofJson? json := by
  rw [documentOf?, Json.isAllBlank_of_parse? h, h]
  rfl

theorem ofText_of_documentOf? {text : String} {document : Document}
    (h : documentOf? text = some document) : ofText text = loadClients empty document := by
  unfold documentOf? at h
  unfold ofText
  split at h
  · next hblank =>
    obtain rfl := Option.some.inj h
    rw [if_pos hblank]
    rfl
  · next hblank =>
    rw [if_neg hblank, h]

/-- A document, in any order of its members and walked through in any order, loads if
and only if it is valid; the store then holds it, and otherwise the load reports an
invalid document. -/
theorem load_exact {text : String} {json reordered : Json} {document : Document}
    (hdocument : Document.ofJson? json = some document) (hreordered : json.Reordered reordered)
    (htext : Json.parse? text = some reordered) :
    ∃ written, documentOf? text = some written ∧ ofText text = loadClients empty written ∧
      ∀ arranged, written.Rearranged arranged →
        ((∃ answers, loadClients empty arranged = .ok answers) ↔ document.Valid) ∧
        (¬ document.Valid → ∃ cause,
          (loadClients empty arranged).mapError Fault.invalidDocument =
            .error (.invalidDocument cause)) ∧
        ∀ answers, loadClients empty arranged = .ok answers → answers.Holds document := by
  obtain ⟨written, hwritten, hsame⟩ := Document.keeps_ofJson? hreordered hdocument
  have hdocument' : documentOf? text = some written := documentOf?_of_parse? htext ▸ hwritten
  refine ⟨written, hdocument', ofText_of_documentOf? hdocument', fun arranged harranged => ?_⟩
  have hall : document.Rearranged arranged := hsame.trans harranged
  have hloads : (∃ answers, loadClients empty arranged = .ok answers) ↔ document.Valid := by
    rw [loadClients_empty_iff, Document.valid_iff_of_rearranged hall]
  refine ⟨hloads, fun hinvalid => ?_, fun answers hanswers => ?_⟩
  · cases hresult : loadClients empty arranged with
    | error cause => exact ⟨cause, rfl⟩
    | ok answers => exact absurd (hloads.1 ⟨answers, hresult⟩) hinvalid
  · exact (holds_of_loadClients hanswers).of_rearranged hall.symm

/-! ## A house -/

/-- A number without sign, fraction and exponent. -/
def plainNumber (digits : List Char) : Json :=
  .number { negative := false, digits := digits, fraction := [], hasExponent := false }

def houseAlias : Option String × Json :=
  (some "cname", .object [(some "www.example", .object [(some "target", .string "Door.example")])])

def houseAddresses : Option String × Json :=
  (some "a", .object [(some "Door.example",
    .object [(some "ttl", plainNumber ['6', '0']), (some "answer", .array [.string " 10.0.0.7 "])])])

def houseJson (first second : Option String × Json) : Json :=
  .object [(some "::ffff:10.0.0.1", .object [first, second])]

def houseText : String :=
  "\x7b\"::ffff:10.0.0.1\":\x7b\"a\":\x7b\"Door.example\":" ++
    "\x7b\"ttl\":60,\"answer\":[\" 10.0.0.7 \"]\x7d\x7d," ++
    "\"cname\":\x7b\"www.example\":\x7b\"target\":\"Door.example\"\x7d\x7d\x7d\x7d"

def houseDocument : Document :=
  [("::ffff:10.0.0.1",
    { resolvers := none
      addresses := some [("Door.example", { ttl := some 60, answer := some [" 10.0.0.7 "] })]
      aliases := some [("www.example", { ttl := none, answer := some "Door.example" })] })]

def houseAnswers : Answers where
  clients :=
    [(.v4 ⟨10, 0, 0, 1⟩,
      { resolvers := []
        addresses := [("door.example.", { ttl := some 60, addresses := [⟨10, 0, 0, 7⟩] })]
        aliases := [("www.example.", { ttl := none, target := "door.example." })] })]
  default := none

theorem parse?_houseText :
    Json.parse? houseText = some (houseJson houseAddresses houseAlias) := by
  cbv

/-- The text writes the addresses in front of the aliases, the value has them the other
way round. -/
theorem house_loads :
    Document.ofJson? (houseJson houseAlias houseAddresses) = some houseDocument ∧
      (houseJson houseAlias houseAddresses).Reordered (houseJson houseAddresses houseAlias) ∧
      Json.parse? houseText = some (houseJson houseAddresses houseAlias) ∧
      ofText houseText = .ok houseAnswers ∧ houseDocument.Valid ∧
      houseAnswers.Holds houseDocument := by
  have hdocument : Document.ofJson? (houseJson houseAlias houseAddresses) = some houseDocument := by
    decide +kernel
  have hreordered :
      (houseJson houseAlias houseAddresses).Reordered (houseJson houseAddresses houseAlias) := by
    refine @Json.Reordered.member [] [] _ _ _ (Json.Reordered.members ?_ ?_)
    · decide
    · exact List.Perm.swap _ _ _
  have hloaded : ofText houseText = .ok houseAnswers := by
    decide +kernel
  obtain ⟨written, -, hload, hexact⟩ := load_exact hdocument hreordered parse?_houseText
  obtain ⟨hvalid, -, hholds⟩ := hexact written (Document.Rearranged.refl written)
  rw [← hload] at hvalid hholds
  exact ⟨hdocument, hreordered, parse?_houseText, hloaded, hvalid.1 ⟨_, hloaded⟩,
    hholds _ hloaded⟩

end Answers
end SplitHorizon
