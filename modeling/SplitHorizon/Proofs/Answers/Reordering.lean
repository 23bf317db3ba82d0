/-
Documents whose members stand in another order.

An object is a set of members to whoever reads it, as long as no key text stands in
it twice.  `Json.Reordered` moves members of such objects about, at any depth, and
`Document.Rearranged` is what becomes of the document: the same sections with the same
records, in another order.

A reader keeps to this if it reads a reordered value whenever it reads the value, and
comes out with something related.  `Json.Keeps` says so, and the readers of records,
sections and documents inherit it from the readers of their members.
-/
import Mathlib.Data.List.Forall2
import Mathlib.Data.List.Perm.Basic
import Mathlib.Data.Option.Basic
import SplitHorizon.Answers.Document

namespace SplitHorizon

/-! ## Values with their members in another order -/

namespace Json

/-- The same value, except that members of objects without a repeated key text stand
in another order. -/
inductive Reordered : Json → Json → Prop
  | refl (value : Json) : Reordered value value
  | trans {first second third : Json} :
    Reordered first second → Reordered second third → Reordered first third
  | members {members arranged : List (Option String × Json)} :
    (members.filterMap Prod.fst).Nodup → members.Perm arranged →
    Reordered (.object members) (.object arranged)
  | member {front back : List (Option String × Json)} {key : Option String} {value other : Json} :
    Reordered value other →
    Reordered (.object (front ++ (key, value) :: back)) (.object (front ++ (key, other) :: back))
  | item {front back : List Json} {value other : Json} :
    Reordered value other →
    Reordered (.array (front ++ value :: back)) (.array (front ++ other :: back))

/-- Values that hold no others. -/
def IsLeaf : Json → Prop
  | .array _ | .object _ => False
  | _ => True

theorem Reordered.eq_of_isLeaf {value other : Json} (h : value.Reordered other) :
    value.IsLeaf ∨ other.IsLeaf → value = other := by
  induction h with
  | refl => exact fun _ => rfl
  | trans _ _ ihFirst ihSecond =>
    rintro (hleaf | hleaf)
    · obtain rfl := ihFirst (Or.inl hleaf)
      exact ihSecond (Or.inl hleaf)
    · obtain rfl := ihSecond (Or.inr hleaf)
      exact ihFirst (Or.inr hleaf)
  | members => exact fun h => h.elim False.elim False.elim
  | member => exact fun h => h.elim False.elim False.elim
  | item => exact fun h => h.elim False.elim False.elim

variable {α β : Type} {read : Json → Option α} {R : α → α → Prop}

/-- The reader reads every reordered value, and comes out with something related. -/
def Keeps (read : Json → Option α) (R : α → α → Prop) : Prop :=
  ∀ {value other : Json} {a : α}, value.Reordered other → read value = some a →
    ∃ b, read other = some b ∧ R a b

/-- It is enough to look at one step at a time. -/
theorem Keeps.of_steps (hrefl : ∀ a, R a a) (htrans : ∀ {a b c}, R a b → R b c → R a c)
    (hmembers : ∀ {members arranged : List (Option String × Json)} {a : α},
      (members.filterMap Prod.fst).Nodup → members.Perm arranged →
      read (.object members) = some a → ∃ b, read (.object arranged) = some b ∧ R a b)
    (hmember : ∀ {front back : List (Option String × Json)} {key : Option String}
      {value other : Json} {a : α}, value.Reordered other →
      read (.object (front ++ (key, value) :: back)) = some a →
      ∃ b, read (.object (front ++ (key, other) :: back)) = some b ∧ R a b)
    (hitem : ∀ {front back : List Json} {value other : Json} {a : α}, value.Reordered other →
      read (.array (front ++ value :: back)) = some a →
      ∃ b, read (.array (front ++ other :: back)) = some b ∧ R a b) :
    Keeps read R := by
  intro value other a h
  induction h generalizing a with
  | refl => exact fun hread => ⟨a, hread, hrefl a⟩
  | trans _ _ ihFirst ihSecond =>
    intro hread
    obtain ⟨b, hb, hab⟩ := ihFirst hread
    obtain ⟨c, hc, hbc⟩ := ihSecond hb
    exact ⟨c, hc, htrans hab hbc⟩
  | members hdistinct hperm => exact hmembers hdistinct hperm
  | member h _ => exact hmember h
  | item h _ => exact hitem h

/-- Readers of leaves read the same from a reordered value. -/
theorem Keeps.of_isLeaf (h : ∀ {value a}, read value = some a → value.IsLeaf) :
    Keeps read Eq := by
  intro value other a hreordered hread
  obtain rfl := hreordered.eq_of_isLeaf (Or.inl (h hread))
  exact ⟨a, hread, rfl⟩

theorem keeps_text? : Keeps text? Eq := by
  refine Keeps.of_isLeaf fun {value a} hread => ?_
  cases value <;> trivial

theorem keeps_uint32? : Keeps uint32? Eq := by
  refine Keeps.of_isLeaf fun {value a} hread => ?_
  cases value <;> trivial

theorem Keeps.nullable (h : Keeps read R) : Keeps (nullable read) (Option.Rel R) := by
  intro value other a hreordered hread
  by_cases hnull : value = .null ∨ other = .null
  · have hleaf : value.IsLeaf ∨ other.IsLeaf := by
      rcases hnull with rfl | rfl
      · exact Or.inl trivial
      · exact Or.inr trivial
    obtain rfl := hreordered.eq_of_isLeaf hleaf
    obtain rfl : value = .null := hnull.elim id id
    obtain rfl := Option.some.inj hread
    exact ⟨none, rfl, Option.Rel.none⟩
  · obtain ⟨hvalue, hother⟩ := not_or.1 hnull
    have hsome : ∀ {json : Json}, json ≠ .null →
        Json.nullable read json = (read json).map some := by
      intro json hjson
      cases json <;> first | rfl | exact absurd rfl hjson
    rw [hsome hvalue] at hread
    obtain ⟨found, hfound, rfl⟩ := Option.map_eq_some_iff.1 hread
    obtain ⟨b, hb, hrelated⟩ := h hreordered hfound
    exact ⟨some b, by rw [hsome hother, hb]; rfl, Option.Rel.some hrelated⟩

end Json

/-! ## Lists read item by item -/

section

variable {α β : Type}

theorem mapM_eq_some_iff {f : α → Option β} {xs : List α} {ys : List β} :
    xs.mapM f = some ys ↔ List.Forall₂ (fun x y => f x = some y) xs ys := by
  induction xs generalizing ys with
  | nil =>
    rw [List.mapM_nil, List.forall₂_nil_left_iff]
    exact ⟨fun h => (Option.some.inj h).symm, fun h => congrArg some h.symm⟩
  | cons x xs ih =>
    rw [List.mapM_cons, List.forall₂_cons_left_iff, Option.bind_eq_bind, Option.bind_eq_some_iff]
    constructor
    · rintro ⟨y, hy, hrest⟩
      obtain ⟨ys, hys, hlist⟩ := Option.bind_eq_some_iff.1 hrest
      exact ⟨y, ys, hy, ih.1 hys, (Option.some.inj hlist).symm⟩
    · rintro ⟨y, ys, hy, hys, rfl⟩
      exact ⟨y, hy, Option.bind_eq_some_iff.2 ⟨ys, ih.2 hys, rfl⟩⟩

/-- Items in another order are read in that order. -/
theorem mapM_of_perm {f : α → Option β} {xs arranged : List α} {ys : List β}
    (hperm : xs.Perm arranged) (h : xs.mapM f = some ys) :
    ∃ zs, arranged.mapM f = some zs ∧ ys.Perm zs := by
  obtain ⟨zs, hzs, hsame⟩ := List.perm_comp_forall₂ hperm.symm (mapM_eq_some_iff.1 h)
  exact ⟨zs, mapM_eq_some_iff.2 hzs, hsame.symm⟩

/-- Another item in one place changes what is read in that place. -/
theorem mapM_replace {f : α → Option β} {S : β → β → Prop} (hrefl : ∀ y, S y y)
    {front back : List α} {x other : α} {ys : List β}
    (hreplace : ∀ {y}, f x = some y → ∃ z, f other = some z ∧ S y z)
    (h : (front ++ x :: back).mapM f = some ys) :
    ∃ zs, (front ++ other :: back).mapM f = some zs ∧ List.Forall₂ S ys zs := by
  rw [mapM_eq_some_iff] at h
  induction front generalizing ys with
  | nil =>
    obtain ⟨y, rest, hy, hrest, rfl⟩ := List.forall₂_cons_left_iff.1 h
    obtain ⟨z, hz, hyz⟩ := hreplace hy
    exact ⟨z :: rest, mapM_eq_some_iff.2 (List.Forall₂.cons hz hrest),
      List.Forall₂.cons hyz (List.forall₂_same.2 fun y _ => hrefl y)⟩
  | cons first front ih =>
    obtain ⟨y, rest, hy, hrest, rfl⟩ := List.forall₂_cons_left_iff.1 h
    obtain ⟨zs, hzs, hsame⟩ := ih hrest
    exact ⟨y :: zs, mapM_eq_some_iff.2 (List.Forall₂.cons hy (mapM_eq_some_iff.1 hzs)),
      List.Forall₂.cons (hrefl y) hsame⟩

end

namespace Document

open Json

variable {α : Type} {read : Json → Option α} {R : α → α → Prop}

/-! ## Members and elements -/

theorem namesAreTexts_of_perm {members arranged : List (Option String × Json)}
    (h : members.Perm arranged) : namesAreTexts arranged = namesAreTexts members := by
  rw [namesAreTexts, namesAreTexts, Bool.eq_iff_iff, List.all_eq_true, List.all_eq_true]
  exact ⟨fun hall m hm => hall m (h.mem_iff.1 hm), fun hall m hm => hall m (h.mem_iff.2 hm)⟩

theorem namesAreTexts_replace {front back : List (Option String × Json)} {key : Option String}
    {value other : Json} :
    namesAreTexts (front ++ (key, other) :: back) =
      namesAreTexts (front ++ (key, value) :: back) := by
  simp only [namesAreTexts, List.all_append, List.all_cons]

/-- A member is found wherever it stands. -/
theorem member?_of_perm {members arranged : List (Option String × Json)}
    (h : members.Perm arranged) (names : List String) :
    member? names read arranged = member? names read members := by
  have hvalues : (valuesOf names members).Perm (valuesOf names arranged) := h.filterMap _
  unfold member?
  cases hold : valuesOf names members with
  | nil =>
    rw [hold] at hvalues
    rw [hvalues.nil_eq.symm]
  | cons first rest =>
    rw [hold] at hvalues
    cases rest with
    | nil => rw [List.perm_singleton.1 hvalues.symm]
    | cons second rest =>
      match harranged : valuesOf names arranged, hvalues.length_eq with
      | _ :: _ :: _, _ => rfl

theorem valuesOf_append (names : List String) (front back : List (Option String × Json)) :
    valuesOf names (front ++ back) = valuesOf names front ++ valuesOf names back :=
  List.filterMap_append

theorem rel_refl (hrefl : ∀ a, R a a) (a : Option α) : Option.Rel R a a := by
  cases a with
  | none => exact Option.Rel.none
  | some a => exact Option.Rel.some (hrefl a)

theorem eq_of_rel {a b : Option α} (h : Option.Rel Eq a b) : a = b := by
  cases h with
  | none => rfl
  | some h => rw [h]

/-- Another value in one place is read, if it matters, as something related. -/
theorem member?_of_nullable (hrefl : ∀ a, R a a) {names : List String}
    {front back : List (Option String × Json)} {key : Option String} {value other : Json}
    {a : Option α}
    (hown : ∀ name, key = some name → name ∈ names → ∀ {a}, nullable read value = some a →
      ∃ b, nullable read other = some b ∧ Option.Rel R a b)
    (h : member? names read (front ++ (key, value) :: back) = some a) :
    ∃ b, member? names read (front ++ (key, other) :: back) = some b ∧ Option.Rel R a b := by
  have hvalues : ∀ json, valuesOf names (front ++ (key, json) :: back) =
      valuesOf names front ++ (valuesOf names [(key, json)] ++ valuesOf names back) := by
    intro json
    rw [← valuesOf_append, ← valuesOf_append]
    rfl
  have hplace : (∀ json, valuesOf names [(key, json)] = []) ∨
      (∃ name, key = some name ∧ name ∈ names) ∧ ∀ json, valuesOf names [(key, json)] = [json] := by
    cases key with
    | none => exact Or.inl fun _ => rfl
    | some key =>
      by_cases hmem : key ∈ names
      · exact Or.inr ⟨⟨key, rfl, hmem⟩, fun json => by simp [valuesOf, hmem]⟩
      · exact Or.inl fun json => by simp [valuesOf, hmem]
  unfold member? at h ⊢
  rw [hvalues] at h ⊢
  rcases hplace with hskip | ⟨⟨name, hkey, hname⟩, hone⟩
  · rw [hskip] at h ⊢
    exact ⟨a, h, rel_refl hrefl a⟩
  · rw [hone] at h ⊢
    -- A second value under one of the names is refused, so the changed one is alone.
    cases hfront : valuesOf names front with
    | nil =>
      cases hback : valuesOf names back with
      | nil =>
        rw [hfront, hback] at h
        exact hown name hkey hname h
      | cons next rest =>
        rw [hfront, hback] at h
        cases h
    | cons first rest =>
      rw [hfront] at h
      cases rest <;> cases h

theorem member?_replace (hkeeps : Keeps read R) (hrefl : ∀ a, R a a) {names : List String}
    {front back : List (Option String × Json)} {key : Option String} {value other : Json}
    {a : Option α} (hreordered : value.Reordered other)
    (h : member? names read (front ++ (key, value) :: back) = some a) :
    ∃ b, member? names read (front ++ (key, other) :: back) = some b ∧ Option.Rel R a b :=
  member?_of_nullable hrefl (fun _ _ _ => hkeeps.nullable hreordered) h

theorem element?_of_nullable (hrefl : ∀ a, R a a) {i : Nat} {front back : List Json}
    {value other : Json} {a : Option α}
    (hown : i = front.length → ∀ {a}, nullable read value = some a →
      ∃ b, nullable read other = some b ∧ Option.Rel R a b)
    (h : element? i read (front ++ value :: back) = some a) :
    ∃ b, element? i read (front ++ other :: back) = some b ∧ Option.Rel R a b := by
  unfold element? at h ⊢
  rcases Nat.lt_trichotomy i front.length with hlt | rfl | hgt
  · rw [List.getElem?_append_left hlt] at h ⊢
    exact ⟨a, h, rel_refl hrefl a⟩
  · rw [List.getElem?_append_right (Nat.le_refl _), Nat.sub_self] at h ⊢
    exact hown rfl h
  · obtain ⟨k, rfl⟩ : ∃ k, i = front.length + (k + 1) := ⟨i - front.length - 1, by omega⟩
    rw [List.getElem?_append_right (Nat.le_add_right _ _), Nat.add_sub_cancel_left,
      List.getElem?_cons_succ] at h ⊢
    exact ⟨a, h, rel_refl hrefl a⟩

theorem element?_replace (hkeeps : Keeps read R) (hrefl : ∀ a, R a a) {i : Nat}
    {front back : List Json} {value other : Json} {a : Option α}
    (hreordered : value.Reordered other)
    (h : element? i read (front ++ value :: back) = some a) :
    ∃ b, element? i read (front ++ other :: back) = some b ∧ Option.Rel R a b :=
  element?_of_nullable hrefl (fun _ => hkeeps.nullable hreordered) h

/-! ## Records -/

/-- A record of a TTL and an answer, written as an object or as a list, reads the same
in any order of its members. -/
theorem keeps_record {β γ : Type} {record : Json → Option γ}
    {make : Option UInt32 → Option β → γ} {names : List String} {answer : Json → Option β}
    (hanswer : Keeps answer Eq)
    (hobject : ∀ members, record (.object members) = do
      guard (namesAreTexts members)
      let ttl ← member? ttlNames uint32? members
      let found ← member? names answer members
      return make ttl found)
    (harray : ∀ items, record (.array items) = do
      guard (items.length ≤ 2)
      let ttl ← element? 0 uint32? items
      let found ← element? 1 answer items
      return make ttl found) :
    Keeps record Eq := by
  refine Keeps.of_steps (fun _ => rfl) Eq.trans ?_ ?_ ?_
  · intro members arranged a _ hperm h
    refine ⟨a, ?_, rfl⟩
    rw [hobject] at h ⊢
    rwa [namesAreTexts_of_perm hperm, member?_of_perm hperm, member?_of_perm hperm]
  · intro front back key value other a hreordered h
    refine ⟨a, ?_, rfl⟩
    rw [hobject] at h ⊢
    simp only [Option.bind_eq_bind, Option.bind_eq_some_iff] at h ⊢
    obtain ⟨_, htexts, ttl, httl, found, hfound, ha⟩ := h
    obtain ⟨_, httl', hsame⟩ := member?_replace keeps_uint32? (fun _ => rfl) hreordered httl
    obtain rfl := eq_of_rel hsame
    obtain ⟨_, hfound', hsame⟩ := member?_replace hanswer (fun _ => rfl) hreordered hfound
    obtain rfl := eq_of_rel hsame
    rw [namesAreTexts_replace] at htexts
    exact ⟨_, htexts, ttl, httl', found, hfound', ha⟩
  · intro front back value other a hreordered h
    refine ⟨a, ?_, rfl⟩
    rw [harray] at h ⊢
    simp only [Option.bind_eq_bind, Option.bind_eq_some_iff] at h ⊢
    obtain ⟨_, hlength, ttl, httl, found, hfound, ha⟩ := h
    obtain ⟨_, httl', hsame⟩ := element?_replace keeps_uint32? (fun _ => rfl) hreordered httl
    obtain rfl := eq_of_rel hsame
    obtain ⟨_, hfound', hsame⟩ := element?_replace hanswer (fun _ => rfl) hreordered hfound
    obtain rfl := eq_of_rel hsame
    rw [List.length_append, List.length_cons] at hlength ⊢
    exact ⟨_, hlength, ttl, httl', found, hfound', ha⟩

theorem keeps_texts? : Keeps texts? Eq := by
  refine Keeps.of_steps (fun _ => rfl) Eq.trans ?_ ?_ ?_
  · intro members arranged a _ _ h
    cases h
  · intro front back key value other a _ h
    cases h
  · intro front back value other a hreordered h
    obtain ⟨b, hb, hsame⟩ := mapM_replace (S := Eq) (fun _ => rfl) (keeps_text? hreordered) h
    rw [List.forall₂_eq_eq_eq] at hsame
    exact ⟨b, hb, hsame⟩

theorem keeps_addressRecord? : Keeps addressRecord? Eq :=
  keeps_record keeps_texts? (fun _ => rfl) (fun _ => rfl)

theorem keeps_aliasRecord? : Keeps aliasRecord? Eq :=
  keeps_record keeps_text? (fun _ => rfl) (fun _ => rfl)

/-! ## Maps -/

/-- The same names in another order, with related values. -/
def NamesRearranged (R : α → α → Prop) (pairs arranged : List (String × α)) : Prop :=
  ∃ middle, pairs.Perm middle ∧
    List.Forall₂ (fun pair other => pair.1 = other.1 ∧ R pair.2 other.2) middle arranged

theorem NamesRearranged.refl (hrefl : ∀ a, R a a) (pairs : List (String × α)) :
    NamesRearranged R pairs pairs :=
  ⟨pairs, List.Perm.refl pairs, List.forall₂_same.2 fun pair _ => ⟨rfl, hrefl pair.2⟩⟩

theorem forall₂_trans {β : Type} {S : β → β → Prop} (htrans : ∀ {a b c}, S a b → S b c → S a c)
    {first second third : List β} (h : List.Forall₂ S first second)
    (h' : List.Forall₂ S second third) : List.Forall₂ S first third := by
  induction h generalizing third with
  | nil => exact h'
  | cons hab _ ih =>
    obtain ⟨c, rest, hbc, hrest, rfl⟩ := List.forall₂_cons_left_iff.1 h'
    exact List.Forall₂.cons (htrans hab hbc) (ih hrest)

theorem NamesRearranged.trans (htrans : ∀ {a b c}, R a b → R b c → R a c)
    {first second third : List (String × α)} (h : NamesRearranged R first second)
    (h' : NamesRearranged R second third) : NamesRearranged R first third := by
  obtain ⟨front, hfront, hsecond⟩ := h
  obtain ⟨back, hback, hthird⟩ := h'
  -- The values change first and the order afterwards; it is the same the other way round.
  obtain ⟨middle, hmiddle, hrelated⟩ := List.perm_comp_forall₂ hback.symm hsecond.flip
  refine ⟨middle, hfront.trans hrelated.symm, forall₂_trans ?_ hmiddle.flip hthird⟩
  exact fun hab hbc => ⟨hab.1.trans hbc.1, htrans hab.2 hbc.2⟩

theorem perm_of_namesRearranged {pairs arranged : List (String × α)}
    (h : NamesRearranged Eq pairs arranged) : pairs.Perm arranged := by
  obtain ⟨middle, hmiddle, hsame⟩ := h
  have heq : List.Forall₂ Eq middle arranged := hsame.imp fun _ _ h => Prod.ext h.1 h.2
  rw [List.forall₂_eq_eq_eq] at heq
  exact heq ▸ hmiddle

/-- Names that all differ are kept. -/
theorem keepLast_of_nodup {pairs : List (String × α)} (h : (pairs.map Prod.fst).Nodup) :
    keepLast pairs = pairs := by
  induction pairs with
  | nil => rfl
  | cons pair rest ih =>
    rw [List.map_cons, List.nodup_cons] at h
    have hnew : ¬ (rest.any (·.1 = pair.1)) = true := by
      rw [List.any_eq_true]
      rintro ⟨other, hother, hname⟩
      exact h.1 (of_decide_eq_true hname ▸ List.mem_map_of_mem hother)
    rw [keepLast, if_neg hnew, ih h.2]

theorem forall₂_keepLast {pairs others : List (String × α)}
    (h : List.Forall₂ (fun pair other => pair.1 = other.1 ∧ R pair.2 other.2) pairs others) :
    List.Forall₂ (fun pair other => pair.1 = other.1 ∧ R pair.2 other.2)
      (keepLast pairs) (keepLast others) := by
  induction h with
  | nil => exact List.Forall₂.nil
  | @cons pair other pairs others hpair hrest ih =>
    obtain ⟨name, value⟩ := pair
    obtain ⟨name', value'⟩ := other
    obtain rfl : name = name' := hpair.1
    have hnames : pairs.map Prod.fst = others.map Prod.fst := by
      rw [← List.forall₂_eq_eq_eq, List.forall₂_map_left_iff, List.forall₂_map_right_iff]
      exact hrest.imp fun _ _ h => h.1
    have hany : ∀ list : List (String × α),
        list.any (·.1 = name) = (list.map Prod.fst).any (· = name) := by
      intro list
      rw [List.any_map]
      rfl
    rw [keepLast, keepLast, hany pairs, hany others, hnames]
    split
    · exact ih
    · exact List.Forall₂.cons hpair ih

theorem named?_eq_some_iff {key : Option String} {value : Json} {pair : String × α} :
    named? read (key, value) = some pair ↔ key = some pair.1 ∧ read value = some pair.2 := by
  obtain ⟨name, a⟩ := pair
  simp only [named?, Option.bind_eq_bind, Option.bind_eq_some_iff]
  constructor
  · rintro ⟨key, rfl, found, hread, hpair⟩
    obtain ⟨rfl, rfl⟩ := Prod.mk.inj (Option.some.inj hpair)
    exact ⟨rfl, hread⟩
  · rintro ⟨rfl, hread⟩
    exact ⟨name, rfl, a, hread, rfl⟩

theorem names_of_mapM {members : List (Option String × Json)} {pairs : List (String × α)}
    (h : members.mapM (named? read) = some pairs) :
    members.filterMap Prod.fst = pairs.map Prod.fst := by
  rw [mapM_eq_some_iff] at h
  induction h with
  | nil => rfl
  | @cons m pair members pairs hread _ ih =>
    obtain ⟨hkey, -⟩ := named?_eq_some_iff.1 hread
    rw [List.filterMap_cons_some hkey, ih, List.map_cons]

theorem keeps_map? (hkeeps : Keeps read R) (hrefl : ∀ a, R a a)
    (htrans : ∀ {a b c}, R a b → R b c → R a c) : Keeps (map? read) (NamesRearranged R) := by
  refine Keeps.of_steps (NamesRearranged.refl hrefl)
    (fun h h' => NamesRearranged.trans (R := R) htrans h h') ?_ ?_ ?_
  · intro members arranged found hdistinct hperm h
    obtain ⟨pairs, hpairs, rfl⟩ := Option.map_eq_some_iff.1 h
    obtain ⟨others, hothers, hsame⟩ := mapM_of_perm hperm hpairs
    have hnodup : (pairs.map Prod.fst).Nodup := names_of_mapM hpairs ▸ hdistinct
    have hnodup' : (others.map Prod.fst).Nodup := (hsame.map Prod.fst).nodup_iff.1 hnodup
    refine ⟨keepLast others, Option.map_eq_some_iff.2 ⟨others, hothers, rfl⟩, ?_⟩
    rw [keepLast_of_nodup hnodup, keepLast_of_nodup hnodup']
    exact ⟨others, hsame, List.forall₂_same.2 fun pair _ => ⟨rfl, hrefl pair.2⟩⟩
  · intro front back key value other found hreordered h
    obtain ⟨pairs, hpairs, rfl⟩ := Option.map_eq_some_iff.1 h
    have hreplace : ∀ {pair}, named? read (key, value) = some pair →
        ∃ other', named? read (key, other) = some other' ∧
          pair.1 = other'.1 ∧ R pair.2 other'.2 := by
      intro pair hpair
      obtain ⟨hkey, ha⟩ := named?_eq_some_iff.1 hpair
      obtain ⟨b, hb, hab⟩ := hkeeps hreordered ha
      exact ⟨(pair.1, b), named?_eq_some_iff.2 ⟨hkey, hb⟩, rfl, hab⟩
    obtain ⟨others, hothers, hsame⟩ :=
      mapM_replace (S := fun pair other => pair.1 = other.1 ∧ R pair.2 other.2)
        (fun pair => ⟨rfl, hrefl pair.2⟩) hreplace hpairs
    exact ⟨keepLast others, Option.map_eq_some_iff.2 ⟨others, hothers, rfl⟩,
      keepLast pairs, List.Perm.refl _, forall₂_keepLast hsame⟩
  · intro front back value other a _ h
    cases h

theorem keeps_names? (hkeeps : Keeps read Eq) : Keeps (map? read) List.Perm := by
  intro value other pairs hreordered h
  obtain ⟨others, hothers, hsame⟩ := keeps_map? hkeeps (fun _ => rfl) Eq.trans hreordered h
  exact ⟨others, hothers, perm_of_namesRearranged hsame⟩

end Document

/-! ## Sections and documents -/

/-- The same resolvers, and the same records under the same names in another order. -/
structure ClientSection.Rearranged (part other : ClientSection) : Prop where
  resolvers : part.resolvers = other.resolvers
  addresses : Option.Rel List.Perm part.addresses other.addresses
  aliases : Option.Rel List.Perm part.aliases other.aliases

theorem ClientSection.Rearranged.refl (part : ClientSection) : part.Rearranged part :=
  ⟨rfl, Document.rel_refl List.Perm.refl _, Document.rel_refl List.Perm.refl _⟩

theorem ClientSection.Rearranged.trans {first second third : ClientSection}
    (h : first.Rearranged second) (h' : second.Rearranged third) : first.Rearranged third := by
  have hrel : ∀ {α : Type} {a b c : Option (List α)}, Option.Rel List.Perm a b →
      Option.Rel List.Perm b c → Option.Rel List.Perm a c := by
    intro α a b c hab hbc
    cases hab with
    | none => exact hbc
    | some hab =>
      cases hbc with
      | some hbc => exact Option.Rel.some (hab.trans hbc)
  exact ⟨h.resolvers.trans h'.resolvers, hrel h.addresses h'.addresses, hrel h.aliases h'.aliases⟩

namespace Document

open Json

/-- The same clients with the same sections, in another order at every level. -/
def Rearranged (document arranged : Document) : Prop :=
  NamesRearranged ClientSection.Rearranged document arranged

theorem Rearranged.refl (document : Document) : document.Rearranged document :=
  NamesRearranged.refl ClientSection.Rearranged.refl document

theorem Rearranged.trans {first second third : Document} (h : first.Rearranged second)
    (h' : second.Rearranged third) : first.Rearranged third :=
  NamesRearranged.trans (R := ClientSection.Rearranged) ClientSection.Rearranged.trans h h'

theorem clientSection?_object_eq_some_iff {members : List (Option String × Json)}
    {part : ClientSection} :
    clientSection? (.object members) = some part ↔
      namesAreTexts members = true ∧
        member? resolverNames texts? members = some part.resolvers ∧
        member? addressNames (map? addressRecord?) members = some part.addresses ∧
        member? aliasNames (map? aliasRecord?) members = some part.aliases := by
  obtain ⟨resolvers, addresses, aliases⟩ := part
  simp only [clientSection?, Option.bind_eq_bind, Option.bind_eq_some_iff, Option.guard_eq_some']
  constructor
  · rintro ⟨-, htexts, _, hresolvers, _, haddresses, _, haliases, hpart⟩
    cases hpart
    exact ⟨htexts, hresolvers, haddresses, haliases⟩
  · rintro ⟨htexts, hresolvers, haddresses, haliases⟩
    exact ⟨(), htexts, _, hresolvers, _, haddresses, _, haliases, rfl⟩

theorem clientSection?_array_eq_some_iff {items : List Json} {part : ClientSection} :
    clientSection? (.array items) = some part ↔
      items.length ≤ 3 ∧ element? 0 texts? items = some part.resolvers ∧
        element? 1 (map? addressRecord?) items = some part.addresses ∧
        element? 2 (map? aliasRecord?) items = some part.aliases := by
  obtain ⟨resolvers, addresses, aliases⟩ := part
  simp only [clientSection?, Option.bind_eq_bind, Option.bind_eq_some_iff, Option.guard_eq_some']
  constructor
  · rintro ⟨-, hlength, _, hresolvers, _, haddresses, _, haliases, hpart⟩
    cases hpart
    exact ⟨hlength, hresolvers, haddresses, haliases⟩
  · rintro ⟨hlength, hresolvers, haddresses, haliases⟩
    exact ⟨(), hlength, _, hresolvers, _, haddresses, _, haliases, rfl⟩

theorem keeps_clientSection? : Keeps clientSection? ClientSection.Rearranged := by
  have haddresses : Keeps (map? addressRecord?) List.Perm := keeps_names? keeps_addressRecord?
  have haliases : Keeps (map? aliasRecord?) List.Perm := keeps_names? keeps_aliasRecord?
  apply Keeps.of_steps ClientSection.Rearranged.refl fun h h' => h.trans h'
  · intro members arranged part _ hperm h
    refine ⟨part, ?_, ClientSection.Rearranged.refl part⟩
    rw [clientSection?] at h ⊢
    rwa [namesAreTexts_of_perm hperm, member?_of_perm hperm, member?_of_perm hperm,
      member?_of_perm hperm]
  · intro front back key value other part hreordered h
    obtain ⟨htexts, hresolvers, ha, hc⟩ := clientSection?_object_eq_some_iff.1 h
    obtain ⟨_, hresolvers', hsame⟩ :=
      member?_replace keeps_texts? (fun _ => rfl) hreordered hresolvers
    obtain rfl := eq_of_rel hsame
    obtain ⟨addresses', ha', hsameA⟩ := member?_replace haddresses List.Perm.refl hreordered ha
    obtain ⟨aliases', hc', hsameC⟩ := member?_replace haliases List.Perm.refl hreordered hc
    rw [namesAreTexts_replace] at htexts
    exact ⟨⟨part.resolvers, addresses', aliases'⟩,
      clientSection?_object_eq_some_iff.2 ⟨htexts, hresolvers', ha', hc'⟩, rfl, hsameA, hsameC⟩
  · intro front back value other part hreordered h
    obtain ⟨hlength, hresolvers, ha, hc⟩ := clientSection?_array_eq_some_iff.1 h
    obtain ⟨_, hresolvers', hsame⟩ :=
      element?_replace keeps_texts? (fun _ => rfl) hreordered hresolvers
    obtain rfl := eq_of_rel hsame
    obtain ⟨addresses', ha', hsameA⟩ := element?_replace haddresses List.Perm.refl hreordered ha
    obtain ⟨aliases', hc', hsameC⟩ := element?_replace haliases List.Perm.refl hreordered hc
    rw [List.length_append, List.length_cons] at hlength
    have hroom : (front ++ other :: back).length ≤ 3 := by
      rw [List.length_append, List.length_cons]
      exact hlength
    exact ⟨⟨part.resolvers, addresses', aliases'⟩,
      clientSection?_array_eq_some_iff.2 ⟨hroom, hresolvers', ha', hc'⟩, rfl, hsameA, hsameC⟩

/-- A value with its members in another order writes the same document, rearranged. -/
theorem keeps_ofJson? : Keeps ofJson? Rearranged := by
  intro value other document hreordered h
  by_cases hnull : value = .null ∨ other = .null
  · have hleaf : value.IsLeaf ∨ other.IsLeaf := by
      rcases hnull with rfl | rfl
      · exact Or.inl trivial
      · exact Or.inr trivial
    obtain rfl := hreordered.eq_of_isLeaf hleaf
    exact ⟨document, h, Rearranged.refl document⟩
  · obtain ⟨hvalue, hother⟩ := not_or.1 hnull
    have hmap : ∀ {json : Json}, json ≠ .null → ofJson? json = map? clientSection? json := by
      intro json hjson
      cases json <;> first | rfl | exact absurd rfl hjson
    rw [hmap hvalue] at h
    obtain ⟨arranged, harranged, hsame⟩ := keeps_map? keeps_clientSection?
      ClientSection.Rearranged.refl ClientSection.Rearranged.trans hreordered h
    exact ⟨arranged, by rw [hmap hother, harranged], hsame⟩

end Document
end SplitHorizon
