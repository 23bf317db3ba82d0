/-
Clients and their keys.

A key of the document is any text of an address, a query comes from an address, and both are
folded before they meet.  `Ip.SameHost` says when two addresses are one host, without folding, and
`client_finds_own_tier` that a client gets the section whose key denotes its host.  That there is
one text for every key, and that it is read back, rests on the texts of addresses.
-/
import SplitHorizon.Proofs.Address.Written
import SplitHorizon.Proofs.Answers.Duplicates
import SplitHorizon.Proofs.Resolution.Direct
import SplitHorizon.Server.Service

namespace SplitHorizon

/-! ## Folding -/

namespace Ip

variable {a b ip : Ip} {v4 : Ipv4} {v6 : Ipv6}

/-- The address is an IPv4 address, or the IPv6 address that stands for it. -/
inductive Stands : Ip → Ipv4 → Prop
  | plain (v4 : Ipv4) : Stands (.v4 v4) v4
  | mapped (v4 : Ipv4) : Stands (.v6 (Ipv6.ofIpv4 v4)) v4

/-- Two addresses are one host if they are equal or stand for one IPv4 address. -/
def SameHost (a b : Ip) : Prop :=
  a = b ∨ ∃ v4, Stands a v4 ∧ Stands b v4

theorem fold_of_toIpv4? (h : v6.toIpv4? = some v4) : (Ip.v6 v6).fold = .v4 v4 := by
  simp only [fold, h]

theorem fold_of_not_mapped (h : v6.toIpv4? = none) : (Ip.v6 v6).fold = .v6 v6 := by
  simp only [fold, h]

theorem fold_eq_v4_iff : ip.fold = .v4 v4 ↔ Stands ip v4 := by
  constructor
  · intro h
    cases ip with
    | v4 ip =>
      obtain rfl := Ip.v4.inj h
      exact .plain ip
    | v6 ip =>
      cases hmapped : ip.toIpv4? with
      | some folded =>
        rw [fold_of_toIpv4? hmapped] at h
        obtain rfl := Ip.v4.inj h
        rw [Ipv6.toIpv4?_eq_some_iff.1 hmapped]
        exact .mapped folded
      | none =>
        rw [fold_of_not_mapped hmapped] at h
        cases h
  · intro h
    cases h with
    | plain => rfl
    | mapped => exact fold_of_toIpv4? (Ipv6.toIpv4?_eq_some_iff.2 rfl)

/-- What is not folded is left as it is. -/
theorem eq_of_fold_eq_v6 (h : ip.fold = .v6 v6) : ip = .v6 v6 := by
  cases ip with
  | v4 ip => cases h
  | v6 ip =>
    cases hmapped : ip.toIpv4? with
    | some folded =>
      rw [fold_of_toIpv4? hmapped] at h
      cases h
    | none => exact (fold_of_not_mapped hmapped).symm.trans h

theorem fold_eq_fold_iff : a.fold = b.fold ↔ SameHost a b := by
  constructor
  · intro h
    cases hb : b.fold with
    | v4 v4 => exact Or.inr ⟨v4, fold_eq_v4_iff.1 (h.trans hb), fold_eq_v4_iff.1 hb⟩
    | v6 v6 => exact Or.inl ((eq_of_fold_eq_v6 (h.trans hb)).trans (eq_of_fold_eq_v6 hb).symm)
  · rintro (rfl | ⟨v4, ha, hb⟩)
    · rfl
    · rw [fold_eq_v4_iff.2 ha, fold_eq_v4_iff.2 hb]

theorem fold_fold (ip : Ip) : ip.fold.fold = ip.fold := by
  cases h : ip.fold with
  | v4 v4 => rfl
  | v6 v6 => exact (congrArg fold (eq_of_fold_eq_v6 h)).symm.trans h

end Ip

/-! ## Texts of keys -/

namespace ClientKey

variable {text : String} {key : ClientKey} {client : Ip}

/-- The text is an address of the client's host. -/
def Denotes (text : String) (client : Ip) : Prop :=
  ∃ ip, Ip.parse? text = some ip ∧ ip.SameHost client

theorem ofIp_eq_ofIp_iff {a b : Ip} : ofIp a = ofIp b ↔ a.SameHost b := by
  rw [ofIp, ofIp, ClientKey.client.injEq, Ip.fold_eq_fold_iff]

theorem parse?_defaultText : Ip.parse? defaultText = none := by
  decide +kernel

/-- No address is written like the default key. -/
theorem text_ne_defaultText (ip : Ip) : ip.text ≠ defaultText := by
  intro h
  have hread := Ip.parse?_text ip
  rw [h, parse?_defaultText] at hread
  cases hread

theorem parse?_text_ofIp (ip : Ip) : parse? (ofIp ip).text = some (ofIp ip) := by
  have htext : (ofIp ip).text = ip.fold.text := rfl
  rw [parse?, htext, if_neg (text_ne_defaultText ip.fold), Ip.parse?_text, Option.map_some, ofIp,
    Ip.fold_fold, ofIp]

theorem parse?_text_of_parse? (h : parse? text = some key) : parse? key.text = some key := by
  unfold parse? at h
  split at h
  · obtain rfl := Option.some.inj h
    rfl
  · obtain ⟨ip, -, rfl⟩ := Option.map_eq_some_iff.1 h
    exact parse?_text_ofIp ip

/-- A text is read as the key of a client exactly if it denotes the client. -/
theorem parse?_eq_ofIp_iff : parse? text = some (ofIp client) ↔ Denotes text client := by
  unfold parse?
  split
  · next hdefault =>
    subst hdefault
    constructor
    · intro h
      cases h
    · rintro ⟨ip, hip, -⟩
      rw [parse?_defaultText] at hip
      cases hip
  · simp only [Option.map_eq_some_iff, ofIp_eq_ofIp_iff]
    exact Iff.rfl

end ClientKey

/-! ## Members of a document -/

namespace Json

variable {name : String} {members : List (Option String × Json)}

/-- A name that stands in an object stands there last somewhere. -/
theorem exists_isLast (h : name ∈ members.filterMap Prod.fst) :
    ∃ value, IsLast name value members := by
  induction members with
  | nil => exact absurd h List.not_mem_nil
  | cons m rest ih =>
    by_cases hrest : name ∈ rest.filterMap Prod.fst
    · obtain ⟨value, front, back, rfl, hback⟩ := ih hrest
      exact ⟨value, m :: front, back, rfl, hback⟩
    · obtain ⟨key, value⟩ := m
      obtain ⟨one, hone, hname⟩ := List.mem_filterMap.1 h
      rcases List.mem_cons.1 hone with rfl | hmem
      · obtain rfl : key = some name := hname
        exact ⟨value, [], rest, rfl, hrest⟩
      · exact absurd (List.mem_filterMap.2 ⟨one, hmem, hname⟩) hrest

end Json

namespace Document

/-- The members of the object that a text writes; none if it writes something else. -/
def membersOf (text : String) : List (Option String × Json) :=
  match Json.parse? text with
  | some (.object members) => members
  | _ => []

end Document

namespace Answers

open Document (clientSection? map? membersOf)

variable {text : String} {answers : Answers}

/-- A text that loads is read as the map of its members. -/
theorem exists_map?_of_ofText (h : ofText text = .ok answers) :
    ∃ document : Document, map? clientSection? (.object (membersOf text)) = some document ∧
      document.Valid ∧ answers.Holds document := by
  obtain ⟨document, hdocument, hclients⟩ := ofText_eq_ok_iff.1 h
  have hmap : map? clientSection? (.object (membersOf text)) = some document := by
    unfold documentOf? at hdocument
    unfold membersOf
    split at hdocument
    · next hblank =>
      obtain rfl := Option.some.inj hdocument
      have hnone : Json.parse? text = none := by
        rw [Option.eq_none_iff_forall_ne_some]
        intro json hjson
        rw [Json.isAllBlank_of_parse? hjson] at hblank
        cases hblank
      rw [hnone]
      rfl
    · obtain ⟨json, hjson, hread⟩ := Option.bind_eq_some_iff.1 hdocument
      rw [hjson]
      cases json with
      | null =>
        obtain rfl := Option.some.inj hread
        rfl
      | object members => exact hread
      | bool | number | string | array => exact nomatch hread
  exact ⟨document, hmap, loadClients_empty_iff.1 ⟨answers, hclients⟩, holds_of_loadClients hclients⟩

/-- All keys of a text that denote one client are one key, letter by letter. -/
theorem key_unique (h : ofText text = .ok answers) {key other : String} {one two : Json}
    {client : Ip} (hone : (some key, one) ∈ membersOf text)
    (htwo : (some other, two) ∈ membersOf text) (hkey : ClientKey.Denotes key client)
    (hother : ClientKey.Denotes other client) : key = other := by
  obtain ⟨document, hmap, hvalid, -⟩ := exists_map?_of_ofText h
  obtain ⟨first, hfirst, rfl⟩ := List.mem_map.1 (Document.mem_names_of_map? hmap hone)
  obtain ⟨second, hsecond, rfl⟩ := List.mem_map.1 (Document.mem_names_of_map? hmap htwo)
  -- Both keys are read as the client's, and no two keys of a valid document are read alike.
  have hsame := (ClientKey.parse?_eq_ofIp_iff.2 hkey).trans
    (ClientKey.parse?_eq_ofIp_iff.2 hother).symm
  exact congrArg Prod.fst (List.inj_on_of_nodup_map hvalid.clients hfirst hsecond hsame)

/-- The tier of a client holds the section that its key has last. -/
theorem holds_of_key (h : ofText text = .ok answers) {key : String} {value : Json} {client : Ip}
    (hlast : Json.IsLast key value (membersOf text)) (hkey : ClientKey.Denotes key client) :
    ∃ part tier, clientSection? value = some part ∧ tier.Holds part ∧
      answers.lookup (ClientKey.ofIp client) = some tier := by
  obtain ⟨document, hmap, -, hholds⟩ := exists_map?_of_ofText h
  obtain ⟨part, hpart, hmem⟩ := Document.mem_of_map?_of_isLast hmap hlast
  obtain ⟨found, tier, hfound, hlookup, htier⟩ := hholds.clients _ hmem
  obtain rfl := Option.some.inj (hfound.symm.trans (ClientKey.parse?_eq_ofIp_iff.2 hkey))
  exact ⟨part, tier, hpart, htier, hlookup⟩

theorem lookup_of_no_key (h : ofText text = .ok answers) {client : Ip}
    (hnone : ∀ key value, (some key, value) ∈ membersOf text → ¬ ClientKey.Denotes key client) :
    answers.lookup (ClientKey.ofIp client) = none := by
  obtain ⟨document, hmap, -, hholds⟩ := exists_map?_of_ofText h
  refine Option.eq_none_iff_forall_ne_some.2 fun tier hlookup => ?_
  obtain ⟨written, hwritten, hkey, -⟩ := hholds.only _ tier hlookup
  have hname : written.1 ∈ document.map Prod.fst := List.mem_map.2 ⟨written, hwritten, rfl⟩
  obtain ⟨found, hfound, rfl⟩ := Document.map?_object_eq_some_iff.1 hmap
  rw [Document.mem_names_keepLast, ← Document.names_of_mapM hfound] at hname
  obtain ⟨⟨_, value⟩, hvalue, rfl⟩ := List.mem_filterMap.1 hname
  exact hnone _ value hvalue (ClientKey.parse?_eq_ofIp_iff.1 hkey)

end Answers

/-! ## Queries -/

namespace Server

open Document (clientSection? membersOf)
open Resolution (Act maxHops)

variable {ρ δ : Type}

/-- What a query is answered with when this was found. -/
def Service.settled (name : String) (found : Act ρ δ (Option (List Record))) :
    Act ρ δ (Except Fault (List Record)) := do
  match ← found with
  | some (first :: rest) => return .ok (first :: rest)
  | _ => return .error (.unresolved name)

theorem Service.query_eq_settled (service : Service ρ δ) (client : Ip) (name : String) :
    service.query client name = settled name
      ((service.resolution (ClientKey.ofIp client)).inOwn maxHops (Fqdn.normalize name)) := by
  rw [← Resolution.resolve_of_client rfl]
  rfl

/-- A query looks at the client's tier first. -/
theorem Service.query_of_lookup {service : Service ρ δ} {client : Ip} {tier : Tier}
    (h : service.answers.lookup (ClientKey.ofIp client) = some tier) (name : String) :
    service.query client name = settled name
      ((service.resolution (ClientKey.ofIp client)).inTier tier
        (service.resolution (ClientKey.ofIp client)).beyondOwn maxHops (Fqdn.normalize name)) := by
  have htier : service.answers.tier (ClientKey.ofIp client) = tier := by
    rw [Answers.tier, h, Option.getD_some]
  rw [query_eq_settled, ← htier]
  rfl

/-- Without a tier of its own, a client gets what the default tier has. -/
theorem Service.query_of_no_tier {service : Service ρ δ} {client : Ip}
    (h : service.answers.lookup (ClientKey.ofIp client) = none) (name : String) :
    service.query client name = settled name
      ((service.resolution (ClientKey.ofIp client)).inDefault maxHops (Fqdn.normalize name)) := by
  have htier : service.answers.tier (ClientKey.ofIp client) = Tier.empty :=
    Answers.tier_eq_empty h
  rw [query_eq_settled, Resolution.inOwn]
  have hresolution : (service.resolution (ClientKey.ofIp client)).answers.tier
      (service.resolution (ClientKey.ofIp client)).client = Tier.empty := htier
  rw [hresolution, maxHops, Resolution.inTier_of_silent (Tier.silent_empty _)]
  rfl

/-- The key of an address is read back from its text, and so is every key that was read; no
address is written like the default key.  In a document that loads, there is one key text at most
that denotes a client, in whatever spelling, and a query from the client looks first at the tier
of the section under that key; if there is none, it looks at the default tier. -/
theorem client_finds_own_tier :
    (∀ ip, ClientKey.parse? (ClientKey.ofIp ip).text = some (ClientKey.ofIp ip)) ∧
    (∀ text key, ClientKey.parse? text = some key → ClientKey.parse? key.text = some key) ∧
    (∀ ip : Ip, ip.text ≠ ClientKey.defaultText ∧
      (ClientKey.ofIp ip).text ≠ ClientKey.defaultText) ∧
    ∀ {ρ δ : Type} (service : Service ρ δ) (text : String) (client : Ip),
      Answers.ofText text = .ok service.answers →
        (∀ key other one two, (some key, one) ∈ membersOf text →
          (some other, two) ∈ membersOf text → ClientKey.Denotes key client →
            ClientKey.Denotes other client → key = other) ∧
        (∀ key one, (some key, one) ∈ membersOf text → ClientKey.Denotes key client →
          ∃ value part tier, Json.IsLast key value (membersOf text) ∧
            clientSection? value = some part ∧ tier.Holds part ∧
            service.answers.lookup (ClientKey.ofIp client) = some tier ∧
            ∀ name, service.query client name = Service.settled name
              ((service.resolution (ClientKey.ofIp client)).inTier tier
                (service.resolution (ClientKey.ofIp client)).beyondOwn maxHops
                (Fqdn.normalize name))) ∧
        ((∀ key one, (some key, one) ∈ membersOf text → ¬ ClientKey.Denotes key client) →
          service.answers.lookup (ClientKey.ofIp client) = none ∧
            ∀ name, service.query client name = Service.settled name
              ((service.resolution (ClientKey.ofIp client)).inDefault maxHops
                (Fqdn.normalize name))) := by
  refine ⟨ClientKey.parse?_text_ofIp, fun text key => ClientKey.parse?_text_of_parse?,
    fun ip => ⟨ClientKey.text_ne_defaultText ip, ClientKey.text_ne_defaultText ip.fold⟩, ?_⟩
  intro ρ δ service text client hload
  refine ⟨?_, ?_, ?_⟩
  · intro key other one two hone htwo hkey hother
    exact Answers.key_unique hload hone htwo hkey hother
  · intro key one hone hkey
    obtain ⟨value, hlast⟩ := Json.exists_isLast (List.mem_filterMap.2 ⟨_, hone, rfl⟩)
    obtain ⟨part, tier, hpart, htier, hlookup⟩ := Answers.holds_of_key hload hlast hkey
    exact ⟨value, part, tier, hlast, hpart, htier, hlookup, Service.query_of_lookup hlookup⟩
  · intro hnone
    have hlookup := Answers.lookup_of_no_key hload hnone
    exact ⟨hlookup, Service.query_of_no_tier hlookup⟩

/-! ## A key in another spelling -/

/-- A document with one client, under the IPv6 form of its address in capitals. -/
def officeText : String :=
  "\x7b\"0:0::FFFF:A00:7\":\x7b\"a\":\x7b\"lamp\":\x7b\"answer\":[\"10.0.0.5\"]\x7d\x7d\x7d\x7d"

def officeSection : Json :=
  .object [(some "a", .object [(some "lamp", .object [(some "answer",
    .array [.string "10.0.0.5"])])])]

def office : Service Unit Unit where
  answers :=
    { clients :=
        [(.v4 ⟨10, 0, 0, 7⟩,
          { resolvers := []
            addresses := [("lamp.", { ttl := none, addresses := [⟨10, 0, 0, 5⟩] })]
            aliases := [] })]
      default := none }
  defaultTtl := 60
  source := .still
  delegate := .canned []

theorem office_finds_own_tier :
    Answers.ofText officeText = .ok office.answers ∧
      ∃ value part tier, Json.IsLast "0:0::FFFF:A00:7" value (membersOf officeText) ∧
        clientSection? value = some part ∧ tier.Holds part ∧
        office.answers.lookup (ClientKey.ofIp (.v4 ⟨10, 0, 0, 7⟩)) = some tier ∧
        ∀ name, office.query (.v4 ⟨10, 0, 0, 7⟩) name = Service.settled name
          ((office.resolution (ClientKey.ofIp (.v4 ⟨10, 0, 0, 7⟩))).inTier tier
            (office.resolution (ClientKey.ofIp (.v4 ⟨10, 0, 0, 7⟩))).beyondOwn maxHops
            (Fqdn.normalize name)) := by
  have hload : Answers.ofText officeText = .ok office.answers := by decide +kernel
  have hparse : Json.parse? officeText =
      some (.object [(some "0:0::FFFF:A00:7", officeSection)]) := by
    cbv
  have hmember : (some "0:0::FFFF:A00:7", officeSection) ∈ membersOf officeText := by
    rw [membersOf, hparse]
    exact List.mem_cons_self
  have hdenotes : ClientKey.Denotes "0:0::FFFF:A00:7" (.v4 ⟨10, 0, 0, 7⟩) :=
    ⟨.v6 (Ipv6.ofIpv4 ⟨10, 0, 0, 7⟩), by decide +kernel, Or.inr ⟨_, .mapped _, .plain _⟩⟩
  obtain ⟨-, -, -, hserved⟩ := client_finds_own_tier
  exact ⟨hload, (hserved office officeText _ hload).2.1 _ _ hmember hdenotes⟩

end Server
end SplitHorizon
