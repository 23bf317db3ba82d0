/-
What a store holds after loading.

A load either fails or keeps the document: every name of a section stands once in
the maps of its tier, under its normal form and with its own record, and every
client of the document has the tier of its section.  The statements run in both
directions, so a loaded store holds nothing that its document does not write.
-/
import Mathlib.Data.List.Forall2
import SplitHorizon.Answers.Load
import SplitHorizon.Proofs.NormalNames

namespace SplitHorizon

/-! ## Computations that may fail -/

theorem bind_eq_ok_iff {ε α β : Type} {x : Except ε α} {f : α → Except ε β} {b : β} :
    (x >>= f) = .ok b ↔ ∃ a, x = .ok a ∧ f a = .ok b := by
  cases x with
  | error fault => simp [bind, Except.bind]
  | ok a => simp [bind, Except.bind]

theorem mapM_eq_ok_iff {ε α β : Type} {f : α → Except ε β} {xs : List α} {ys : List β} :
    xs.mapM f = .ok ys ↔ List.Forall₂ (fun x y => f x = .ok y) xs ys := by
  induction xs generalizing ys with
  | nil =>
    rw [List.mapM_nil, List.forall₂_nil_left_iff]
    exact ⟨fun h => (Except.ok.inj h).symm, fun h => congrArg Except.ok h.symm⟩
  | cons x xs ih =>
    rw [List.mapM_cons, bind_eq_ok_iff, List.forall₂_cons_left_iff]
    constructor
    · rintro ⟨y, hy, hrest⟩
      obtain ⟨ys, hys, hlist⟩ := bind_eq_ok_iff.1 hrest
      exact ⟨y, ys, hy, ih.1 hys, (Except.ok.inj hlist).symm⟩
    · rintro ⟨y, ys, hy, hys, rfl⟩
      exact ⟨y, hy, bind_eq_ok_iff.2 ⟨ys, ih.2 hys, rfl⟩⟩

theorem exists_left_of_mem {α β : Type} {R : α → β → Prop} {xs : List α} {ys : List β}
    (h : List.Forall₂ R xs ys) {y : β} (hy : y ∈ ys) : ∃ x ∈ xs, R x y := by
  induction h with
  | nil => cases hy
  | @cons a b xs ys hab _ ih =>
    rcases List.mem_cons.1 hy with rfl | hy
    · exact ⟨a, List.mem_cons_self, hab⟩
    · obtain ⟨x, hx, hxy⟩ := ih hy
      exact ⟨x, List.mem_cons_of_mem a hx, hxy⟩

theorem exists_right_of_mem {α β : Type} {R : α → β → Prop} {xs : List α} {ys : List β}
    (h : List.Forall₂ R xs ys) {x : α} (hx : x ∈ xs) : ∃ y ∈ ys, R x y :=
  exists_left_of_mem h.flip hx

theorem exists_forall₂_iff {α β : Type} {R : α → β → Prop} {xs : List α} :
    (∃ ys, List.Forall₂ R xs ys) ↔ ∀ x ∈ xs, ∃ y, R x y := by
  constructor
  · rintro ⟨ys, hys⟩ x hx
    obtain ⟨y, -, hxy⟩ := exists_right_of_mem hys hx
    exact ⟨y, hxy⟩
  · intro hall
    induction xs with
    | nil => exact ⟨[], List.Forall₂.nil⟩
    | cons x xs ih =>
      obtain ⟨y, hxy⟩ := hall x List.mem_cons_self
      obtain ⟨ys, hys⟩ := ih fun z hz => hall z (List.mem_cons_of_mem x hz)
      exact ⟨y :: ys, List.Forall₂.cons hxy hys⟩

/-! ## Names -/

namespace NameMap

variable {α : Type} {map : NameMap α} {name : String} {value : α}

theorem mem_of_get? (h : map.get? name = some value) : (name, value) ∈ map := by
  obtain ⟨front, back, rfl, -⟩ := List.lookup_eq_some_iff.1 h
  simp

/-- Where every name stands once, each pair is the one that is found. -/
theorem get?_of_mem (hnodup : (map.map Prod.fst).Nodup) (h : (name, value) ∈ map) :
    map.get? name = some value := by
  obtain ⟨front, back, rfl⟩ := List.append_of_mem h
  refine List.lookup_eq_some_iff.2 ⟨front, back, rfl, fun pair hpair => ?_⟩
  simp only [List.map_append, List.map_cons, List.nodup_append] at hnodup
  have hne : pair.1 ≠ name :=
    hnodup.2.2 pair.1 (List.mem_map_of_mem hpair) name (by simp)
  simpa using fun e => hne e.symm

theorem contains_iff : map.contains name = true ↔ name ∈ map.map Prod.fst := by
  simp only [contains, get?, List.lookup_isSome_iff, List.mem_map]
  constructor
  · rintro ⟨pair, hpair, he⟩
    exact ⟨pair, hpair, (beq_iff_eq.1 he).symm⟩
  · rintro ⟨pair, hpair, he⟩
    exact ⟨pair, hpair, beq_iff_eq.2 he.symm⟩

theorem nodup_add (hnodup : (map.map Prod.fst).Nodup) (hnew : ¬ map.contains name = true) :
    ((map.add name value).map Prod.fst).Nodup := by
  rw [contains_iff] at hnew
  simp only [add, List.map_append, List.nodup_append, List.map_cons, List.map_nil]
  refine ⟨hnodup, by simp, fun a ha b hb => ?_⟩
  obtain rfl := List.mem_singleton.1 hb
  exact fun e => hnew (e ▸ ha)

end NameMap

namespace Answers

/-! ## Sections -/

theorem normalize_target_of_loadAliasRecord {client name : String} {record : AliasRecord}
    {entry : AliasEntry} (h : loadAliasRecord client name record = .ok entry) :
    Fqdn.normalize entry.target = entry.target := by
  simp only [loadAliasRecord] at h
  split at h
  · cases h
  · obtain rfl := Except.ok.inj h
    exact Fqdn.normalize_normalize _

theorem loadAddress_eq_ok_iff {client name text : String} {ip : Ipv4} :
    loadAddress client name text = .ok ip ↔ Ipv4.parse? (Text.trim text) = some ip := by
  unfold loadAddress
  cases hip : Ipv4.parse? (Text.trim text) with
  | none => simp
  | some found => simp

/-- An address record keeps its TTL and all of its addresses, in order. -/
theorem loadAddressRecord_eq_ok_iff {client name : String} {record : AddressRecord}
    {entry : AddressEntry} :
    loadAddressRecord client name record = .ok entry ↔
      record.answer.getD [] ≠ [] ∧ entry.ttl = record.ttl ∧
        List.Forall₂ (fun text ip => Ipv4.parse? (Text.trim text) = some ip)
          (record.answer.getD []) entry.addresses := by
  rw [loadAddressRecord]
  cases htexts : record.answer.getD [] with
  | nil => simp
  | cons text rest =>
    simp only [bind_eq_ok_iff, mapM_eq_ok_iff, loadAddress_eq_ok_iff]
    constructor
    · rintro ⟨addresses, haddresses, hentry⟩
      obtain rfl := Except.ok.inj hentry
      exact ⟨List.cons_ne_nil text rest, rfl, haddresses⟩
    · rintro ⟨-, httl, haddresses⟩
      exact ⟨entry.addresses, haddresses, by rw [← httl]; rfl⟩

/-- The pair that a named record becomes. -/
def LoadsAs {α β : Type} (load : String → α → Except DocumentFault β)
    (written : String × α) (kept : String × β) : Prop :=
  kept.1 = Fqdn.normalize written.1 ∧ load kept.1 written.2 = .ok kept.2

theorem loadNames_eq_ok_iff {α β : Type} {client : String} {kind : RecordKind}
    {load : String → α → Except DocumentFault β} {pairs : List (String × α)}
    {loaded result : NameMap β} (hloaded : (loaded.map Prod.fst).Nodup) :
    loadNames client kind load loaded pairs = .ok result ↔
      (result.map Prod.fst).Nodup ∧
        ∃ entries, result = loaded ++ entries ∧ List.Forall₂ (LoadsAs load) pairs entries := by
  induction pairs generalizing loaded with
  | nil =>
    simp only [loadNames, List.forall₂_nil_left_iff, Except.ok.injEq, exists_eq_right,
      List.append_nil]
    exact ⟨fun h => ⟨h ▸ hloaded, h.symm⟩, fun h => h.2.symm⟩
  | cons pair rest ih =>
    obtain ⟨name, record⟩ := pair
    simp only [loadNames, bind_eq_ok_iff, List.forall₂_cons_left_iff]
    constructor
    · rintro ⟨entry, hentry, hrest⟩
      split at hrest
      · cases hrest
      · next hnew =>
        obtain ⟨hnodup, entries, hresult, hentries⟩ :=
          (ih (NameMap.nodup_add hloaded hnew)).1 hrest
        refine ⟨hnodup, (Fqdn.normalize name, entry) :: entries, ?_, _, entries,
          ⟨rfl, hentry⟩, hentries, rfl⟩
        rw [hresult, NameMap.add, List.append_assoc, List.singleton_append]
    · rintro ⟨hnodup, _, hresult, kept, entries, ⟨hname, hentry⟩, hentries, rfl⟩
      obtain ⟨fqdn, entry⟩ := kept
      obtain rfl : fqdn = Fqdn.normalize name := hname
      have hkeys : result.map Prod.fst =
          loaded.map Prod.fst ++ Fqdn.normalize name :: entries.map Prod.fst := by
        rw [hresult, List.map_append, List.map_cons]
      have hnew : ¬ loaded.contains (Fqdn.normalize name) = true := by
        rw [NameMap.contains_iff]
        intro hmem
        rw [hkeys, List.nodup_append] at hnodup
        exact hnodup.2.2 _ hmem _ List.mem_cons_self rfl
      refine ⟨entry, hentry, ?_⟩
      rw [if_neg hnew, ih (NameMap.nodup_add hloaded hnew)]
      exact ⟨hnodup, entries, by rw [hresult, NameMap.add]; simp, hentries⟩

theorem loadSection_eq_ok_iff {client : String} {part : ClientSection} {tier : Tier} :
    loadSection client part = .ok tier ↔
      List.Forall₂ (fun written kept => loadResolver client written = .ok kept)
          (part.resolvers.getD []) tier.resolvers ∧
        ((tier.addresses.map Prod.fst).Nodup ∧
          List.Forall₂ (LoadsAs (loadAddressRecord client)) (part.addresses.getD [])
            tier.addresses) ∧
        (tier.aliases.map Prod.fst).Nodup ∧
          List.Forall₂ (LoadsAs (loadAliasRecord client)) (part.aliases.getD []) tier.aliases := by
  have hnames : ∀ {α β : Type} {kind : RecordKind} {load : String → α → Except DocumentFault β}
      {pairs : List (String × α)} {result : NameMap β},
      loadNames client kind load [] pairs = .ok result ↔
        (result.map Prod.fst).Nodup ∧ List.Forall₂ (LoadsAs load) pairs result := by
    intro α β kind load pairs result
    have hempty : (([] : NameMap β).map Prod.fst).Nodup := List.nodup_nil
    rw [loadNames_eq_ok_iff hempty]
    simp
  simp only [loadSection, bind_eq_ok_iff, mapM_eq_ok_iff, hnames]
  constructor
  · rintro ⟨resolvers, hresolvers, addresses, haddresses, aliases, haliases, htier⟩
    obtain rfl := Except.ok.inj htier
    exact ⟨hresolvers, haddresses, haliases⟩
  · rintro ⟨hresolvers, haddresses, haliases⟩
    exact ⟨_, hresolvers, _, haddresses, _, haliases, rfl⟩

/-! ## Clients -/

section

variable {answers : Answers} {key other : ClientKey} {tier : Tier}

@[simp]
theorem lookup_put_self : (answers.put key tier).lookup key = some tier := by
  cases key with
  | default => rfl
  | client ip =>
    simp only [put, lookup, List.lookup_append]
    have hnone : List.lookup ip (answers.clients.filter (·.1 ≠ ip)) = none := by
      rw [List.lookup_eq_none_iff]
      intro pair hpair
      have hne : pair.1 ≠ ip := by simpa using (List.mem_filter.1 hpair).2
      simpa using fun e => hne e.symm
    rw [hnone, Option.none_or, List.lookup_cons_self]

theorem lookup_filter_ne {ip other : Ip} (h : other ≠ ip) (clients : List (Ip × Tier)) :
    List.lookup other (clients.filter (·.1 ≠ ip)) = List.lookup other clients := by
  induction clients with
  | nil => rfl
  | cons pair rest ih =>
    by_cases hpair : pair.1 = ip
    · have hother : (other == pair.1) = false := by simpa [hpair] using h
      rw [List.filter_cons_of_neg (by simpa using hpair), ih, List.lookup_cons, hother]
    · rw [List.filter_cons_of_pos (by simpa using hpair), List.lookup_cons, List.lookup_cons, ih]

theorem lookup_put_of_ne (h : other ≠ key) :
    (answers.put key tier).lookup other = answers.lookup other := by
  cases key with
  | default =>
    cases other with
    | default => exact absurd rfl h
    | client _ => rfl
  | client ip =>
    cases other with
    | default => rfl
    | client other =>
      have hip : other ≠ ip := fun e => h (congrArg ClientKey.client e)
      simp only [put, lookup, List.lookup_append, lookup_filter_ne hip]
      have hlast : List.lookup other [(ip, tier)] = none := by
        simpa using hip
      rw [hlast, Option.or_none]

end

/-- The tier of a section stands under the key that its text denotes. -/
def KeptAs (written : String × ClientSection) (key : ClientKey) (tier : Tier) : Prop :=
  ClientKey.parse? written.1 = some key ∧ loadSection written.1 written.2 = .ok tier

theorem loadClients_cons_eq_ok_iff {answers result : Answers} {written : String × ClientSection}
    {rest : Document} :
    loadClients answers (written :: rest) = .ok result ↔
      ∃ key tier, KeptAs written key tier ∧ answers.lookup key = none ∧
        loadClients (answers.put key tier) rest = .ok result := by
  obtain ⟨text, part⟩ := written
  rw [loadClients]
  cases hkey : ClientKey.parse? text with
  | none => simp [KeptAs, hkey]
  | some key =>
    simp only [bind_eq_ok_iff, insert, contains]
    constructor
    · rintro ⟨tier, htier, hrest⟩
      cases hlookup : answers.lookup key with
      | none => exact ⟨key, tier, ⟨hkey, htier⟩, hlookup, by simpa [hlookup] using hrest⟩
      | some _ => simp [hlookup] at hrest
    · rintro ⟨other, tier, ⟨hother, htier⟩, hlookup, hrest⟩
      obtain rfl := Option.some.inj (hkey.symm.trans hother)
      exact ⟨tier, htier, by simpa [hlookup] using hrest⟩

/-- Every client of the document has its tier, and a tier that was not there before
is one of those. -/
theorem lookup_of_loadClients {document : Document} {answers result : Answers}
    (h : loadClients answers document = .ok result) :
    (∀ written ∈ document, ∃ key tier, KeptAs written key tier ∧ result.lookup key = some tier) ∧
      ∀ key tier, result.lookup key = some tier ↔
        answers.lookup key = some tier ∨ ∃ written ∈ document, KeptAs written key tier := by
  induction document generalizing answers with
  | nil =>
    obtain rfl := Except.ok.inj h
    simp
  | cons first rest ih =>
    obtain ⟨key, tier, hkept, hnew, hrest⟩ := loadClients_cons_eq_ok_iff.1 h
    obtain ⟨hall, honly⟩ := ih hrest
    constructor
    · intro written hwritten
      rcases List.mem_cons.1 hwritten with rfl | hwritten
      · exact ⟨key, tier, hkept, (honly key tier).2 (Or.inl lookup_put_self)⟩
      · exact hall written hwritten
    · intro other kept
      rw [honly other kept]
      by_cases hother : other = key
      · subst hother
        rw [lookup_put_self, hnew]
        constructor
        · rintro (htier | ⟨written, hwritten, hkept⟩)
          · exact Or.inr ⟨first, List.mem_cons_self, Option.some.inj htier ▸ hkept⟩
          · exact Or.inr ⟨written, List.mem_cons_of_mem first hwritten, hkept⟩
        · rintro (htier | ⟨written, hwritten, hkept'⟩)
          · cases htier
          · rcases List.mem_cons.1 hwritten with rfl | hwritten
            · exact Or.inl (congrArg some (Except.ok.inj (hkept.2.symm.trans hkept'.2)))
            · exact Or.inr ⟨written, hwritten, hkept'⟩
      · rw [lookup_put_of_ne hother]
        refine or_congr_right ⟨?_, ?_⟩
        · rintro ⟨written, hwritten, hkept'⟩
          exact ⟨written, List.mem_cons_of_mem first hwritten, hkept'⟩
        · rintro ⟨written, hwritten, hkept'⟩
          rcases List.mem_cons.1 hwritten with rfl | hwritten
          · exact absurd (Option.some.inj (hkept'.1.symm.trans hkept.1)) hother
          · exact ⟨written, hwritten, hkept'⟩

/-! ## Documents -/

/-- The document that a text writes; a blank text writes one without clients. -/
def documentOf? (text : String) : Option Document :=
  if Text.isAllBlank text then some [] else (Json.parse? text).bind Document.ofJson?

theorem ofText_eq_ok_iff {text : String} {answers : Answers} :
    ofText text = .ok answers ↔
      ∃ document, documentOf? text = some document ∧ loadClients empty document = .ok answers := by
  unfold ofText documentOf?
  split
  · simp [loadClients]
  · cases hdocument : (Json.parse? text).bind Document.ofJson? with
    | none => simp
    | some document => simp

/-- A loaded store has exactly the tiers of its document. -/
theorem lookup_of_ofText {text : String} {answers : Answers} (h : ofText text = .ok answers) :
    ∃ document, documentOf? text = some document ∧
      ∀ key tier, answers.lookup key = some tier ↔
        ∃ written ∈ document, KeptAs written key tier := by
  obtain ⟨document, hdocument, hclients⟩ := ofText_eq_ok_iff.1 h
  refine ⟨document, hdocument, fun key tier => ?_⟩
  rw [(lookup_of_loadClients hclients).2 key tier]
  simp

/-- A section of the text has the key, and in it the record under the name as it is
spelled. -/
def WritesAddresses (text : String) (key : ClientKey) (name : String) (record : AddressRecord) :
    Prop :=
  ∃ document, documentOf? text = some document ∧
    ∃ written ∈ document, ClientKey.parse? written.1 = some key ∧
      (name, record) ∈ written.2.addresses.getD []

/-- An address record is found under the normal form of its name. -/
theorem addressesOf?_of_ofText {text : String} {answers : Answers} {key : ClientKey}
    {name : String} {record : AddressRecord} (h : ofText text = .ok answers)
    (hwrites : WritesAddresses text key name record) :
    ∃ client entry, (answers.tier key).addressesOf? (Fqdn.normalize name) = some entry ∧
      loadAddressRecord client (Fqdn.normalize name) record = .ok entry := by
  obtain ⟨document, hdocument, hclients⟩ := ofText_eq_ok_iff.1 h
  obtain ⟨other, hother, written, hwritten, hkey, hrecord⟩ := hwrites
  obtain rfl := Option.some.inj (hdocument.symm.trans hother)
  obtain ⟨kept, tier, ⟨hparse, hsection⟩, hlookup⟩ :=
    (lookup_of_loadClients hclients).1 written hwritten
  obtain rfl := Option.some.inj (hkey.symm.trans hparse)
  obtain ⟨-, ⟨hnodup, haddresses⟩, -⟩ := loadSection_eq_ok_iff.1 hsection
  obtain ⟨⟨fqdn, entry⟩, hmem, rfl, hentry⟩ := exists_right_of_mem haddresses hrecord
  refine ⟨written.1, entry, ?_, hentry⟩
  rw [Answers.tier, hlookup]
  exact NameMap.get?_of_mem hnodup hmem

/-- The aliases of a loaded store lead to normal names. -/
theorem normalize_target_of_load {document : Option String} {answers : Answers}
    (hload : load document = .ok answers) {key : ClientKey} {name : String} {entry : AliasEntry}
    (halias : (answers.tier key).aliasOf? name = some entry) :
    Fqdn.normalize entry.target = entry.target := by
  cases hlookup : answers.lookup key with
  | none =>
    rw [tier, hlookup] at halias
    cases halias
  | some found =>
    rw [tier, hlookup] at halias
    cases document with
    | none =>
      obtain rfl := Except.ok.inj hload
      rw [lookup_empty] at hlookup
      cases hlookup
    | some text =>
      obtain ⟨document, -, hkept⟩ := lookup_of_ofText hload
      obtain ⟨written, -, -, hsection⟩ := (hkept key found).1 hlookup
      obtain ⟨-, -, -, haliases⟩ := loadSection_eq_ok_iff.1 hsection
      obtain ⟨named, -, -, hrecord⟩ := exists_left_of_mem haliases (NameMap.mem_of_get? halias)
      exact normalize_target_of_loadAliasRecord hrecord

end Answers
end SplitHorizon
