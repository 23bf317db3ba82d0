/-
Entries that stand twice.

Two keys of one client are refused, and so are two names of one section that have the same
normal form.  But sections and names are kept by their key texts before any of them is looked
at, and of two equal texts only the last is kept.  So what is refused are two spellings, while
a text that is repeated letter by letter takes the place of the earlier one.

`duplicates_refused_unless_identical` says both.  `Collides` are the members that denote one
thing in two spellings and are kept; `Sheds` leaves out a member that a later one of the same
text follows.
-/
import Mathlib.Data.List.Nodup
import SplitHorizon.Proofs.Answers.Exactness

namespace SplitHorizon

/-! ## Members that are kept -/

namespace Json

/-- One member is left out, and another of the same name follows it. -/
def Sheds (members kept : List (Option String × Json)) : Prop :=
  ∃ front back name value, members = front ++ (some name, value) :: back ∧
    kept = front ++ back ∧ name ∈ back.filterMap Prod.fst

/-- The member is kept: no other of the same name follows it. -/
def IsLast (name : String) (value : Json) (members : List (Option String × Json)) : Prop :=
  ∃ front back, members = front ++ (some name, value) :: back ∧
    name ∉ back.filterMap Prod.fst

end Json

namespace Document

open Json

variable {α : Type} {read : Json → Option α} {name : String}

theorem any_name_iff {pairs : List (String × α)} :
    pairs.any (·.1 = name) = true ↔ name ∈ pairs.map Prod.fst := by
  simp only [List.any_eq_true, decide_eq_true_eq, List.mem_map]

/-- No name is lost. -/
theorem mem_names_keepLast {pairs : List (String × α)} :
    name ∈ (keepLast pairs).map Prod.fst ↔ name ∈ pairs.map Prod.fst := by
  induction pairs with
  | nil => exact Iff.rfl
  | cons pair rest ih =>
    obtain ⟨key, value⟩ := pair
    rw [keepLast]
    split
    · next hlater =>
      rw [any_name_iff] at hlater
      rw [ih, List.map_cons, List.mem_cons]
      constructor
      · exact Or.inr
      · rintro (rfl | hmem)
        · exact hlater
        · exact hmem
    · rw [List.map_cons, List.map_cons, List.mem_cons, List.mem_cons, ih]

theorem mem_keepLast_of_last {front back : List (String × α)} {value : α}
    (h : name ∉ back.map Prod.fst) : (name, value) ∈ keepLast (front ++ (name, value) :: back) := by
  induction front with
  | nil =>
    rw [List.nil_append, keepLast, if_neg (mt any_name_iff.1 h)]
    exact List.mem_cons_self
  | cons pair front ih =>
    rw [List.cons_append, keepLast]
    split
    · exact ih
    · exact List.mem_cons_of_mem _ ih

theorem keepLast_shed {front back : List (String × α)} {value : α}
    (h : name ∈ back.map Prod.fst) :
    keepLast (front ++ (name, value) :: back) = keepLast (front ++ back) := by
  induction front with
  | nil => rw [List.nil_append, List.nil_append, keepLast, if_pos (any_name_iff.2 h)]
  | cons pair front ih =>
    have hnames : ∀ key, (front ++ (name, value) :: back).any (·.1 = key) =
        (front ++ back).any (·.1 = key) := by
      intro key
      rw [Bool.eq_iff_iff, any_name_iff, any_name_iff]
      simp only [List.map_append, List.map_cons, List.mem_append, List.mem_cons]
      constructor
      · rintro (hmem | rfl | hmem)
        · exact Or.inl hmem
        · exact Or.inr h
        · exact Or.inr hmem
      · rintro (hmem | hmem)
        · exact Or.inl hmem
        · exact Or.inr (Or.inr hmem)
    rw [List.cons_append, List.cons_append, keepLast, keepLast, hnames, ih]

/-! ## Maps -/

theorem mapM_append_eq_some_iff {front back : List (Option String × Json)}
    {m : Option String × Json} {pairs : List (String × α)} :
    (front ++ m :: back).mapM (named? read) = some pairs ↔
      ∃ first pair rest, front.mapM (named? read) = some first ∧ named? read m = some pair ∧
        back.mapM (named? read) = some rest ∧ pairs = first ++ pair :: rest := by
  simp only [List.mapM_append, List.mapM_cons, Option.bind_eq_bind, Option.bind_eq_some_iff]
  constructor
  · rintro ⟨first, hfirst, _, ⟨pair, hpair, rest, hrest, hlist⟩, hpairs⟩
    obtain rfl := Option.some.inj hlist
    exact ⟨first, pair, rest, hfirst, hpair, hrest, (Option.some.inj hpairs).symm⟩
  · rintro ⟨first, pair, rest, hfirst, hpair, hrest, rfl⟩
    exact ⟨first, hfirst, _, ⟨pair, hpair, rest, hrest, rfl⟩, rfl⟩

variable {members kept : List (Option String × Json)} {pairs : List (String × α)}

theorem map?_object_eq_some_iff :
    map? read (.object members) = some pairs ↔
      ∃ found, members.mapM (named? read) = some found ∧ pairs = keepLast found := by
  rw [map?, Option.map_eq_some_iff]
  exact exists_congr fun found => and_congr_right fun _ => eq_comm

theorem map?_of_sheds (hsheds : Json.Sheds members kept)
    (h : map? read (.object members) = some pairs) : map? read (.object kept) = some pairs := by
  obtain ⟨front, back, name, value, rfl, rfl, hlater⟩ := hsheds
  obtain ⟨found, hfound, rfl⟩ := map?_object_eq_some_iff.1 h
  obtain ⟨first, pair, rest, hfirst, hpair, hrest, rfl⟩ := mapM_append_eq_some_iff.1 hfound
  obtain ⟨pairName, a⟩ := pair
  obtain rfl : name = pairName := Option.some.inj (named?_eq_some_iff.1 hpair).1
  refine map?_object_eq_some_iff.2 ⟨first ++ rest, ?_, ?_⟩
  · simp [List.mapM_append, hfirst, hrest]
  · rw [names_of_mapM hrest] at hlater
    exact keepLast_shed hlater

/-- Every name is kept, whichever of its members. -/
theorem mem_names_of_map? (h : map? read (.object members) = some pairs) {value : Json}
    (hmem : (some name, value) ∈ members) : name ∈ pairs.map Prod.fst := by
  obtain ⟨found, hfound, rfl⟩ := map?_object_eq_some_iff.1 h
  rw [mem_names_keepLast, ← names_of_mapM hfound]
  exact List.mem_filterMap.2 ⟨_, hmem, rfl⟩

theorem mem_of_map?_of_isLast (h : map? read (.object members) = some pairs) {value : Json}
    (hlast : IsLast name value members) : ∃ a, read value = some a ∧ (name, a) ∈ pairs := by
  obtain ⟨front, back, rfl, hnone⟩ := hlast
  obtain ⟨found, hfound, rfl⟩ := map?_object_eq_some_iff.1 h
  obtain ⟨first, pair, rest, -, hpair, hrest, rfl⟩ := mapM_append_eq_some_iff.1 hfound
  obtain ⟨pairName, a⟩ := pair
  obtain ⟨hname, hread⟩ := named?_eq_some_iff.1 hpair
  obtain rfl : name = pairName := Option.some.inj hname
  rw [names_of_mapM hrest] at hnone
  exact ⟨a, hread, mem_keepLast_of_last hnone⟩

/-! ## Sections -/

/-- The value is the map of addresses or the map of aliases of a section, in either form of
a section. -/
inductive IsMapOf (map : Json) : Json → Prop
  | member {members : List (Option String × Json)} {name : String}
    (hname : name ∈ addressNames ++ aliasNames) (hmember : (some name, map) ∈ members) :
    IsMapOf map (.object members)
  | element {items : List Json} {i : Nat} (hplace : i = 1 ∨ i = 2)
    (hitem : items[i]? = some map) : IsMapOf map (.array items)

/-- The same section with another map. -/
inductive WithMap (map other : Json) : Json → Json → Prop
  | member {front back : List (Option String × Json)} {name : String}
    (hname : name ∈ addressNames ++ aliasNames) :
    WithMap map other (.object (front ++ (some name, map) :: back))
      (.object (front ++ (some name, other) :: back))
  | element {front back : List Json} (hplace : front.length = 1 ∨ front.length = 2) :
    WithMap map other (.array (front ++ map :: back)) (.array (front ++ other :: back))

/-- A member under one of the names is the one that is read. -/
theorem member?_of_mem {names : List String} {value : Json} {a : Option α}
    (h : member? names read members = some a) (hmem : (some name, value) ∈ members)
    (hname : name ∈ names) : nullable read value = some a := by
  have hvalue : value ∈ valuesOf names members :=
    List.mem_filterMap.2 ⟨_, hmem, if_pos hname⟩
  unfold member? at h
  match hvalues : valuesOf names members with
  | [] =>
    rw [hvalues] at hvalue
    exact absurd hvalue List.not_mem_nil
  | [one] =>
    rw [hvalues] at h hvalue
    obtain rfl := List.mem_singleton.1 hvalue
    exact h
  | _ :: _ :: _ =>
    rw [hvalues] at h
    cases h

theorem element?_of_getElem? {i : Nat} {items : List Json} {value : Json}
    (h : items[i]? = some value) : element? i read items = nullable read value := by
  rw [element?, h]

theorem nullable_object_eq_some_iff {a : Option α} :
    nullable read (.object members) = some a ↔
      ∃ b, read (.object members) = some b ∧ a = some b := by
  have hnullable : nullable read (.object members) = (read (.object members)).map some := rfl
  rw [hnullable, Option.map_eq_some_iff]
  exact exists_congr fun _ => and_congr_right fun _ => eq_comm

/-- A map of a section is read as its addresses or as its aliases. -/
theorem map?_of_isMapOf {body : Json} {part : ClientSection}
    (hread : clientSection? body = some part) (hmap : IsMapOf (.object members) body) :
    (∃ pairs, map? addressRecord? (.object members) = some pairs ∧ part.addresses = some pairs) ∨
      ∃ pairs, map? aliasRecord? (.object members) = some pairs ∧ part.aliases = some pairs := by
  cases hmap with
  | member hname hmember =>
    obtain ⟨-, -, haddresses, haliases⟩ := clientSection?_object_eq_some_iff.1 hread
    rcases List.mem_append.1 hname with hname | hname
    · exact Or.inl (nullable_object_eq_some_iff.1 (member?_of_mem haddresses hmember hname))
    · exact Or.inr (nullable_object_eq_some_iff.1 (member?_of_mem haliases hmember hname))
  | element hplace hitem =>
    obtain ⟨-, -, haddresses, haliases⟩ := clientSection?_array_eq_some_iff.1 hread
    rcases hplace with rfl | rfl
    · rw [element?_of_getElem? hitem] at haddresses
      exact Or.inl (nullable_object_eq_some_iff.1 haddresses)
    · rw [element?_of_getElem? hitem] at haliases
      exact Or.inr (nullable_object_eq_some_iff.1 haliases)

theorem nullable_map?_of_sheds (hsheds : Json.Sheds members kept) {a : Option (List (String × α))}
    (h : nullable (map? read) (.object members) = some a) :
    ∃ b, nullable (map? read) (.object kept) = some b ∧ Option.Rel Eq a b := by
  obtain ⟨pairs, hpairs, rfl⟩ := nullable_object_eq_some_iff.1 h
  exact ⟨some pairs, nullable_object_eq_some_iff.2 ⟨pairs, map?_of_sheds hsheds hpairs, rfl⟩,
    Option.Rel.some rfl⟩

theorem clientSection?_of_sheds (hsheds : Json.Sheds members kept) {body other : Json}
    (hmap : WithMap (.object members) (.object kept) body other) {part : ClientSection}
    (h : clientSection? body = some part) : clientSection? other = some part := by
  have heq : ∀ {β : Type} {value : Option β} {result : Option (Option β)},
      (∃ b, result = some b ∧ Option.Rel Eq value b) → result = some value := by
    rintro β value result ⟨b, rfl, hsame⟩
    rw [eq_of_rel hsame]
  cases hmap with
  | @member front back name hname =>
    obtain ⟨htexts, hresolvers, haddresses, haliases⟩ := clientSection?_object_eq_some_iff.1 h
    refine clientSection?_object_eq_some_iff.2 ⟨?_, heq ?_, heq ?_, heq ?_⟩
    · rw [← htexts]
      exact namesAreTexts_replace
    · refine member?_of_nullable (fun _ => rfl) (fun other hother hresolver => ?_) hresolvers
      obtain rfl := Option.some.inj hother
      have hapart : ∀ text ∈ addressNames ++ aliasNames, text ∉ resolverNames := by decide
      exact fun {_} _ => absurd hresolver (hapart name hname)
    · exact member?_of_nullable (fun _ => rfl)
        (fun _ _ _ => nullable_map?_of_sheds hsheds) haddresses
    · exact member?_of_nullable (fun _ => rfl)
        (fun _ _ _ => nullable_map?_of_sheds hsheds) haliases
  | @element front back hplace =>
    obtain ⟨hlength, hresolvers, haddresses, haliases⟩ := clientSection?_array_eq_some_iff.1 h
    refine clientSection?_array_eq_some_iff.2 ⟨?_, heq ?_, heq ?_, heq ?_⟩
    · rw [List.length_append, List.length_cons] at hlength ⊢
      exact hlength
    · refine element?_of_nullable (fun _ => rfl) (fun hfront => ?_) hresolvers
      omega
    · exact element?_of_nullable (fun _ => rfl) (fun _ => nullable_map?_of_sheds hsheds) haddresses
    · exact element?_of_nullable (fun _ => rfl) (fun _ => nullable_map?_of_sheds hsheds) haliases

/-! ## Documents -/

/-- A section is left out that a later one under the same key text follows, or a name of a
section is that a later one of the same spelling follows. -/
inductive Sheds : Json → Json → Prop
  | client {members kept : List (Option String × Json)} (hsheds : Json.Sheds members kept) :
    Sheds (.object members) (.object kept)
  | name {front back : List (Option String × Json)} {client : Option String}
    {body other : Json} {members kept : List (Option String × Json)}
    (hsheds : Json.Sheds members kept)
    (hmap : WithMap (.object members) (.object kept) body other) :
    Sheds (.object (front ++ (client, body) :: back))
      (.object (front ++ (client, other) :: back))

theorem ofJson?_of_sheds {json kept : Json} (hsheds : Sheds json kept) {document : Document}
    (h : ofJson? json = some document) : ofJson? kept = some document := by
  cases hsheds with
  | client hsheds => exact map?_of_sheds hsheds h
  | name hsheds hmap =>
    obtain ⟨found, hfound, rfl⟩ := map?_object_eq_some_iff.1 h
    obtain ⟨first, pair, rest, hfirst, hpair, hrest, rfl⟩ := mapM_append_eq_some_iff.1 hfound
    obtain ⟨hname, hread⟩ := named?_eq_some_iff.1 hpair
    have hother := named?_eq_some_iff.2 ⟨hname, clientSection?_of_sheds hsheds hmap hread⟩
    exact map?_object_eq_some_iff.2
      ⟨_, mapM_append_eq_some_iff.2 ⟨first, pair, rest, hfirst, hother, hrest, rfl⟩, rfl⟩

/-- Two members that are kept denote one thing in two spellings: two keys one client, or two
names of one section the same normal form. -/
inductive Collides (members : List (Option String × Json)) : Prop
  | clients {first second : String} {one other : Json} {key : ClientKey}
    (hfirst : (some first, one) ∈ members) (hsecond : (some second, other) ∈ members)
    (hspelled : first ≠ second) (hkey : ClientKey.parse? first = some key)
    (hsame : ClientKey.parse? second = some key)
  | names {client first second : String} {body one other : Json}
    {names : List (Option String × Json)}
    (hclient : IsLast client body members) (hmap : IsMapOf (.object names) body)
    (hfirst : (some first, one) ∈ names) (hsecond : (some second, other) ∈ names)
    (hspelled : first ≠ second) (hsame : Fqdn.normalize first = Fqdn.normalize second)

theorem not_nodup_normalNames {first second : String} (hfirst : first ∈ pairs.map Prod.fst)
    (hsecond : second ∈ pairs.map Prod.fst) (hspelled : first ≠ second)
    (hsame : Fqdn.normalize first = Fqdn.normalize second) : ¬ (normalNames pairs).Nodup := by
  obtain ⟨one, hone, rfl⟩ := List.mem_map.1 hfirst
  obtain ⟨other, hother, rfl⟩ := List.mem_map.1 hsecond
  intro hnodup
  exact hspelled (congrArg Prod.fst (List.inj_on_of_nodup_map hnodup hone hother hsame))

theorem not_valid_of_collides {document : Document} (hcollides : Collides members)
    (h : ofJson? (.object members) = some document) : ¬ document.Valid := by
  intro hvalid
  cases hcollides with
  | clients hfirst hsecond hspelled hkey hsame =>
    obtain ⟨one, hone, rfl⟩ := List.mem_map.1 (mem_names_of_map? h hfirst)
    obtain ⟨other, hother, rfl⟩ := List.mem_map.1 (mem_names_of_map? h hsecond)
    have heq := List.inj_on_of_nodup_map hvalid.clients hone hother (hkey.trans hsame.symm)
    exact hspelled (congrArg Prod.fst heq)
  | names hclient hmap hfirst hsecond hspelled hsame =>
    obtain ⟨part, hpart, hmem⟩ := mem_of_map?_of_isLast h hclient
    have hsection := hvalid.sections _ hmem
    rcases map?_of_isMapOf hpart hmap with ⟨pairs, hpairs, haddresses⟩ | ⟨pairs, hpairs, haliases⟩
    · have hnodup := hsection.addressNames
      rw [haddresses] at hnodup
      exact not_nodup_normalNames (mem_names_of_map? hpairs hfirst)
        (mem_names_of_map? hpairs hsecond) hspelled hsame hnodup
    · have hnodup := hsection.aliasNames
      rw [haliases] at hnodup
      exact not_nodup_normalNames (mem_names_of_map? hpairs hfirst)
        (mem_names_of_map? hpairs hsecond) hspelled hsame hnodup

end Document

namespace Answers

/-- A text in which two spellings of one client or of one name are kept does not load.  Of two
members with the same key text the first is lost without a fault: the text loads like the one
that is left without it, whatever it says, as long as it can be read. -/
theorem duplicates_refused_unless_identical {text : String}
    {members : List (Option String × Json)} (htext : Json.parse? text = some (.object members)) :
    (Document.Collides members → ∃ cause, ofText text = .error cause) ∧
    ∀ other kept document, Json.parse? other = some kept →
      Document.Sheds (.object members) kept →
      Document.ofJson? (.object members) = some document → ofText text = ofText other := by
  constructor
  · intro hcollides
    cases hresult : ofText text with
    | error cause => exact ⟨cause, rfl⟩
    | ok answers =>
      obtain ⟨document, hdocument, hclients⟩ := ofText_eq_ok_iff.1 hresult
      rw [documentOf?_of_parse? htext] at hdocument
      have hvalid : document.Valid := loadClients_empty_iff.1 ⟨answers, hclients⟩
      exact absurd hvalid (Document.not_valid_of_collides hcollides hdocument)
  · intro other kept document hother hsheds hdocument
    have hkept := Document.ofJson?_of_sheds hsheds hdocument
    rw [ofText_of_documentOf? ((documentOf?_of_parse? htext).trans hdocument),
      ofText_of_documentOf? ((documentOf?_of_parse? hother).trans hkept)]

/-! ## A name that stands twice -/

def foo (name address : String) : Option String × Json :=
  (some name, .object [(some "answer", .array [.string address])])

def foosIn (names : List (Option String × Json)) : List (Option String × Json) :=
  [(some "default", .object [(some "a", .object names)])]

/-- The name stands twice, with a capital and a dot the second time. -/
def spelledTwice : String :=
  "\x7b\"default\":\x7b\"a\":\x7b\"foo\":\x7b\"answer\":[\"1.1.1.1\"]\x7d," ++
    "\"Foo.\":\x7b\"answer\":[\"2.2.2.2\"]\x7d\x7d\x7d\x7d"

def writtenTwice : String :=
  "\x7b\"default\":\x7b\"a\":\x7b\"foo\":\x7b\"answer\":[\"1.1.1.1\"]\x7d," ++
    "\"foo\":\x7b\"answer\":[\"2.2.2.2\"]\x7d\x7d\x7d\x7d"

def writtenOnce : String :=
  "\x7b\"default\":\x7b\"a\":\x7b\"foo\":\x7b\"answer\":[\"2.2.2.2\"]\x7d\x7d\x7d\x7d"

theorem parse?_writtenTwice : Json.parse? writtenTwice =
    some (.object (foosIn [foo "foo" "1.1.1.1", foo "foo" "2.2.2.2"])) := by
  cbv

theorem foos_refused_unless_identical :
    (∃ cause, ofText spelledTwice = .error cause) ∧ ofText writtenTwice = ofText writtenOnce := by
  have hspelled : Json.parse? spelledTwice =
      some (.object (foosIn [foo "foo" "1.1.1.1", foo "Foo." "2.2.2.2"])) := by
    cbv
  have hcollides : Document.Collides (foosIn [foo "foo" "1.1.1.1", foo "Foo." "2.2.2.2"]) := by
    have hspelling : "foo" ≠ "Foo." := by decide
    have hsame : Fqdn.normalize "foo" = Fqdn.normalize "Foo." := by decide +kernel
    have hmap : Document.IsMapOf (.object [foo "foo" "1.1.1.1", foo "Foo." "2.2.2.2"])
        (.object [(some "a", .object [foo "foo" "1.1.1.1", foo "Foo." "2.2.2.2"])]) :=
      @Document.IsMapOf.member _ _ "a" (by decide) List.mem_cons_self
    exact .names ⟨[], [], rfl, List.not_mem_nil⟩ hmap List.mem_cons_self
      (List.mem_cons_of_mem _ List.mem_cons_self) hspelling hsame
  have honce : Json.parse? writtenOnce = some (.object (foosIn [foo "foo" "2.2.2.2"])) := by
    cbv
  have hsheds : Document.Sheds (.object (foosIn [foo "foo" "1.1.1.1", foo "foo" "2.2.2.2"]))
      (.object (foosIn [foo "foo" "2.2.2.2"])) := by
    refine @Document.Sheds.name [] [] _ _ _ _ _ ⟨[], [foo "foo" "2.2.2.2"], _, _, rfl, rfl, ?_⟩
      (@Document.WithMap.member _ _ [] [] "a" (by decide))
    exact List.mem_cons_self
  constructor
  · exact (duplicates_refused_unless_identical hspelled).1 hcollides
  · exact (duplicates_refused_unless_identical parse?_writtenTwice).2 writtenOnce _ _ honce hsheds
      rfl

/-- The address that stands first is lost, although its name is defined twice. -/
theorem first_foo_lost :
    Json.parse? writtenTwice =
        some (.object (foosIn [foo "foo" "1.1.1.1", foo "foo" "2.2.2.2"])) ∧
      ofText writtenTwice = .ok
        { clients := []
          default := some
            { resolvers := []
              addresses := [("foo.", { ttl := none, addresses := [⟨2, 2, 2, 2⟩] })]
              aliases := [] } } := by
  refine ⟨parse?_writtenTwice, ?_⟩
  decide +kernel

end Answers
end SplitHorizon
