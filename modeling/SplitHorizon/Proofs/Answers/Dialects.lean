/-
Documents in other dialects.

A member has several names, in lower case and capitalized, and may be left out or written as
`null`; members nobody knows may stand beside it.  A `Dialect` picks for every name of a member
one of the names of the same member.  `Dialect.rewrite` is a document in that dialect: its
clients and records have the picked names, and no member that is `null` or unknown.  Names of
clients and of records are data and stay as they are, whatever they look like.

`dialects_agree` is what the loader makes of this: the same answers, or a fault in both cases.
The document must not have a member twice, under one name or two, as `membersOnce` checks: of
two such members one may be `null`, and the reader refuses both of them but accepts the one that is
left.
-/
import SplitHorizon.Proofs.Answers.Exactness
import SplitHorizon.Proofs.Resolution.Imitation

namespace SplitHorizon

namespace Json

def isNull : Json → Bool
  | .null => true
  | _ => false

/-- The object with other values under the same names. -/
def mapValues (f : Json → Json) : Json → Json
  | .object members => .object (members.map fun m => (m.1, f m.2))
  | value => value

/-- The test holds of every value of the object. -/
def allValues (test : Json → Bool) : Json → Bool
  | .object members => members.all fun m => test m.2
  | _ => true

end Json

namespace Document

open Json

/-! ## Dialects -/

def clientMembers : List (List String) := [resolverNames, addressNames, aliasNames]
def addressRecordMembers : List (List String) := [ttlNames, addressAnswerNames]
def aliasRecordMembers : List (List String) := [ttlNames, aliasAnswerNames]

/-- No name stands for two members. -/
def Apart (known : List (List String)) : Prop :=
  ∀ names ∈ known, ∀ other ∈ known, ∀ name ∈ names, name ∈ other → names = other

instance (known : List (List String)) : Decidable (Apart known) :=
  inferInstanceAs
    (Decidable (∀ names ∈ known, ∀ other ∈ known, ∀ name ∈ names, name ∈ other → names = other))

/-- For each name of a member, a name of the same member. -/
structure Spelling (known : List (List String)) where
  spell : String → String
  spell_mem : ∀ names ∈ known, ∀ name ∈ names, spell name ∈ names

structure Dialect where
  client : Spelling clientMembers
  addressRecord : Spelling addressRecordMembers
  aliasRecord : Spelling aliasRecordMembers

/-- The member in its spelling, `inner` applied to its value.  A member that is `null` or unknown
is left out. -/
def respelled? {known : List (List String)} (spelling : Spelling known)
    (inner : String → Json → Json) (m : Option String × Json) : Option (Option String × Json) :=
  match m.1 with
  | none => none
  | some name =>
    if m.2.isNull = false ∧ ∃ names ∈ known, name ∈ names then
      some (some (spelling.spell name), inner name m.2)
    else none

def respell {known : List (List String)} (spelling : Spelling known)
    (inner : String → Json → Json) (members : List (Option String × Json)) :
    List (Option String × Json) :=
  members.filterMap (respelled? spelling inner)

def respellRecord {known : List (List String)} (spelling : Spelling known) : Json → Json
  | .object members => .object (respell spelling (fun _ value => value) members)
  | value => value

namespace Dialect

/-- The records in a member of a client, if it holds any. -/
def rewriteRecords (dialect : Dialect) (name : String) (value : Json) : Json :=
  if name ∈ addressNames then value.mapValues (respellRecord dialect.addressRecord)
  else if name ∈ aliasNames then value.mapValues (respellRecord dialect.aliasRecord)
  else value

def rewriteClient (dialect : Dialect) : Json → Json
  | .object members => .object (respell dialect.client dialect.rewriteRecords members)
  | value => value

/-- The document with the names of the dialect for the members of its clients and records, and
without members that are `null` or unknown.  A client or record that is written as a list has no
names and stays as it is. -/
def rewrite (dialect : Dialect) (json : Json) : Json :=
  json.mapValues dialect.rewriteClient

/-- Every name in lower case. -/
def lowered : Dialect where
  client := { spell := Text.lower, spell_mem := by decide +kernel }
  addressRecord := { spell := Text.lower, spell_mem := by decide +kernel }
  aliasRecord := { spell := Text.lower, spell_mem := by decide +kernel }

end Dialect

/-- The first name of the member, which is its lower-case form. -/
def firstName (known : List (List String)) (name : String) : String :=
  ((known.find? (name ∈ ·)).bind List.head?).getD name

/-- Every member under its first name; so the target of an alias is its answer. -/
def Dialect.first : Dialect where
  client := { spell := firstName clientMembers, spell_mem := by decide +kernel }
  addressRecord := { spell := firstName addressRecordMembers, spell_mem := by decide +kernel }
  aliasRecord := { spell := firstName aliasRecordMembers, spell_mem := by decide +kernel }

/-! ## Members that stand once -/

/-- The names are texts, and no member stands twice, under one name or two. -/
def once (known : List (List String)) (members : List (Option String × Json)) : Bool :=
  namesAreTexts members && known.all fun names => (valuesOf names members).length ≤ 1

def recordOnce (known : List (List String)) : Json → Bool
  | .object members => once known members
  | _ => true

def clientOnce : Json → Bool
  | .object members =>
    once clientMembers members &&
      (valuesOf addressNames members).all (allValues (recordOnce addressRecordMembers)) &&
      (valuesOf aliasNames members).all (allValues (recordOnce aliasRecordMembers))
  | _ => true

/-- No client and no record has a member twice, or a name that is no text. -/
def membersOnce (json : Json) : Bool :=
  json.allValues clientOnce

/-! ## Members are read from their spelling -/

section

variable {α : Type} {read : Json → Option α} {known : List (List String)}
  {spelling : Spelling known} {inner : String → Json → Json} {names : List String}
  {members : List (Option String × Json)}

theorem namesAreTexts_respell : namesAreTexts (respell spelling inner members) = true := by
  rw [namesAreTexts, List.all_eq_true]
  intro m hm
  obtain ⟨⟨key, value⟩, -, hrespelled⟩ := List.mem_filterMap.1 hm
  cases key with
  | none => cases hrespelled
  | some name =>
    unfold respelled? at hrespelled
    simp only at hrespelled
    split at hrespelled
    · obtain rfl := Option.some.inj hrespelled
      rfl
    · cases hrespelled

theorem valuesOf_respelled? (hapart : Apart known) (hnames : names ∈ known) {f : Json → Json}
    (hinner : ∀ name ∈ names, inner name = f) (m : Option String × Json) :
    valuesOf names (respelled? spelling inner m).toList =
      ((valuesOf names [m]).filter fun value => !value.isNull).map f := by
  obtain ⟨key, value⟩ := m
  cases key with
  | none => rfl
  | some name =>
    by_cases hname : name ∈ names
    · have hknown : ∃ names ∈ known, name ∈ names := ⟨names, hnames, hname⟩
      have hspelled : spelling.spell name ∈ names := spelling.spell_mem names hnames name hname
      cases hnull : value.isNull with
      | true => simp [respelled?, valuesOf, hname, hnull]
      | false => simp [respelled?, valuesOf, hname, hnull, hknown, hspelled, hinner name hname]
    · -- A known name is spelled as a name of its own member, which is not one of these.
      have hspelled : (∃ other ∈ known, name ∈ other) → spelling.spell name ∉ names := by
        rintro ⟨other, hother, hmem⟩ hspell
        have hsame : names = other :=
          hapart names hnames other hother _ hspell (spelling.spell_mem other hother name hmem)
        exact hname (hsame ▸ hmem)
      have hnone : valuesOf names [(some name, value)] = [] := by simp [valuesOf, hname]
      rw [hnone, respelled?]
      simp only
      split
      · next hknown => simp [valuesOf, hspelled hknown.2]
      · rfl

/-- The members of one kind are those that were there, without those that are `null`. -/
theorem valuesOf_respell (hapart : Apart known) (hnames : names ∈ known) {f : Json → Json}
    (hinner : ∀ name ∈ names, inner name = f) :
    valuesOf names (respell spelling inner members) =
      ((valuesOf names members).filter fun value => !value.isNull).map f := by
  induction members with
  | nil => rfl
  | cons m rest ih =>
    have hfirst : respell spelling inner (m :: rest) =
        (respelled? spelling inner m).toList ++ respell spelling inner rest := by
      rw [respell, List.filterMap_cons]
      cases respelled? spelling inner m <;> rfl
    have hvalues : valuesOf names (m :: rest) = valuesOf names [m] ++ valuesOf names rest :=
      valuesOf_append names [m] rest
    rw [hfirst, valuesOf_append, valuesOf_respelled? hapart hnames hinner, ih, hvalues,
      List.filter_append, List.map_append]

theorem length_le_of_once (h : once known members = true) (hnames : names ∈ known) :
    (valuesOf names members).length ≤ 1 := by
  rw [once, Bool.and_eq_true, List.all_eq_true] at h
  exact of_decide_eq_true (h.2 names hnames)

variable (spelling) in
/-- A member that stands once is read in its new spelling as it was read before. -/
theorem member?_respell (hapart : Apart known) (honce : once known members = true)
    (hnames : names ∈ known) {f : Json → Json} (hinner : ∀ name ∈ names, inner name = f)
    (hread : ∀ value ∈ valuesOf names members, nullable read (f value) = nullable read value) :
    member? names read (respell spelling inner members) = member? names read members := by
  have hlength := length_le_of_once honce hnames
  rw [member?, member?, valuesOf_respell hapart hnames hinner]
  match hvalues : valuesOf names members with
  | [] => rfl
  | [value] =>
    have hvalue : nullable read (f value) = nullable read value :=
      hread value (hvalues ▸ List.mem_cons_self)
    cases value with
    | null => rfl
    | _ => exact hvalue
  | _ :: _ :: _ =>
    rw [hvalues] at hlength
    simp at hlength

/-! ## Maps -/

/-- Items that are read from another form as they are read themselves. -/
theorem mapM_map_of_forall {β γ δ : Type} {f : γ → Option δ} {g : β → γ} {h : β → Option δ}
    {xs : List β} (heach : ∀ x ∈ xs, f (g x) = h x) : (xs.map g).mapM f = xs.mapM h := by
  induction xs with
  | nil => rfl
  | cons x rest ih =>
    rw [List.map_cons, List.mapM_cons, List.mapM_cons, heach x List.mem_cons_self,
      ih fun y hy => heach y (List.mem_cons_of_mem x hy)]

theorem map?_mapValues {f : Json → Json} {test : Json → Bool}
    (hread : ∀ value, test value = true → read (f value) = read value) {value : Json}
    (htest : value.allValues test = true) : map? read (value.mapValues f) = map? read value := by
  cases value with
  | object members =>
    have hnamed : ∀ m ∈ members, named? read (m.1, f m.2) = named? read m := by
      intro m hm
      rw [named?, named?, hread m.2 (List.all_eq_true.1 htest m hm)]
    rw [mapValues, map?, map?, mapM_map_of_forall hnamed]
  | _ => rfl

theorem nullable_map?_mapValues {f : Json → Json} {test : Json → Bool}
    (hread : ∀ value, test value = true → read (f value) = read value) {value : Json}
    (htest : value.allValues test = true) :
    nullable (map? read) (value.mapValues f) = nullable (map? read) value := by
  cases value with
  | object members => exact congrArg (Option.map some) (map?_mapValues hread htest)
  | _ => rfl

end

/-! ## Records -/

section

variable {α β : Type} {answerNames : List String} {answer : Json → Option β}
  {make : Option UInt32 → Option β → α} {record : Json → Option α}

/-- Records of both kinds are read alike from either spelling. -/
theorem record_respell (hapart : Apart [ttlNames, answerNames])
    (hobject : ∀ members, record (.object members) = do
      guard (namesAreTexts members)
      let ttl ← member? ttlNames uint32? members
      let found ← member? answerNames answer members
      return make ttl found)
    (spelling : Spelling [ttlNames, answerNames]) (value : Json)
    (honce : recordOnce [ttlNames, answerNames] value = true) :
    record (respellRecord spelling value) = record value := by
  cases value with
  | object members =>
    have htexts : namesAreTexts members = true := (Bool.and_eq_true_iff.1 honce).1
    have hnames : ttlNames ∈ [ttlNames, answerNames] := List.mem_cons_self
    have hnames' : answerNames ∈ [ttlNames, answerNames] :=
      List.mem_cons_of_mem _ List.mem_cons_self
    have httl : member? ttlNames uint32? (respell spelling (fun _ value => value) members) =
        member? ttlNames uint32? members :=
      member?_respell spelling hapart honce hnames (fun _ _ => rfl) fun _ _ => rfl
    have hfound : member? answerNames answer (respell spelling (fun _ value => value) members) =
        member? answerNames answer members :=
      member?_respell spelling hapart honce hnames' (fun _ _ => rfl) fun _ _ => rfl
    rw [respellRecord, hobject, hobject, httl, hfound, namesAreTexts_respell, htexts]
  | _ => rfl

end

theorem addressRecord?_respell (spelling : Spelling addressRecordMembers) :
    ∀ value, recordOnce addressRecordMembers value = true →
      addressRecord? (respellRecord spelling value) = addressRecord? value :=
  record_respell (by decide) (fun _ => rfl) spelling

theorem aliasRecord?_respell (spelling : Spelling aliasRecordMembers) :
    ∀ value, recordOnce aliasRecordMembers value = true →
      aliasRecord? (respellRecord spelling value) = aliasRecord? value :=
  record_respell (by decide) (fun _ => rfl) spelling

/-! ## Clients and documents -/

namespace Dialect

variable (dialect : Dialect)

theorem rewriteRecords_resolvers :
    ∀ name ∈ resolverNames, dialect.rewriteRecords name = fun value => value := by
  have hapart : ∀ name ∈ resolverNames, name ∉ addressNames ∧ name ∉ aliasNames := by decide
  intro name hname
  funext value
  rw [rewriteRecords, if_neg (hapart name hname).1, if_neg (hapart name hname).2]

theorem rewriteRecords_addresses :
    ∀ name ∈ addressNames,
      dialect.rewriteRecords name = mapValues (respellRecord dialect.addressRecord) := by
  intro name hname
  funext value
  rw [rewriteRecords, if_pos hname]

theorem rewriteRecords_aliases :
    ∀ name ∈ aliasNames,
      dialect.rewriteRecords name = mapValues (respellRecord dialect.aliasRecord) := by
  have hapart : ∀ name ∈ aliasNames, name ∉ addressNames := by decide
  intro name hname
  funext value
  rw [rewriteRecords, if_neg (hapart name hname), if_pos hname]

theorem clientSection?_rewriteClient (value : Json) (honce : clientOnce value = true) :
    clientSection? (dialect.rewriteClient value) = clientSection? value := by
  cases value with
  | object members =>
    simp only [clientOnce, Bool.and_eq_true, List.all_eq_true] at honce
    obtain ⟨⟨honce, haddresses⟩, haliases⟩ := honce
    have hapart : Apart clientMembers := by decide
    have htexts : namesAreTexts members = true := (Bool.and_eq_true_iff.1 honce).1
    have hresolver : member? resolverNames texts?
          (respell dialect.client dialect.rewriteRecords members) =
        member? resolverNames texts? members :=
      member?_respell dialect.client hapart honce (by decide) dialect.rewriteRecords_resolvers
        fun _ _ => rfl
    have haddress : member? addressNames (map? addressRecord?)
          (respell dialect.client dialect.rewriteRecords members) =
        member? addressNames (map? addressRecord?) members :=
      member?_respell dialect.client hapart honce (by decide) dialect.rewriteRecords_addresses
        fun value hvalue => nullable_map?_mapValues (addressRecord?_respell dialect.addressRecord)
          (haddresses value hvalue)
    have halias : member? aliasNames (map? aliasRecord?)
          (respell dialect.client dialect.rewriteRecords members) =
        member? aliasNames (map? aliasRecord?) members :=
      member?_respell dialect.client hapart honce (by decide) dialect.rewriteRecords_aliases
        fun value hvalue => nullable_map?_mapValues (aliasRecord?_respell dialect.aliasRecord)
          (haliases value hvalue)
    rw [rewriteClient, clientSection?, clientSection?]
    simp only [namesAreTexts_respell, htexts, hresolver, haddress, halias]
  | _ => rfl

/-- A document says the same in every dialect. -/
theorem ofJson?_rewrite {json : Json} (honce : membersOnce json = true) :
    ofJson? (dialect.rewrite json) = ofJson? json := by
  have hmap : map? clientSection? (json.mapValues dialect.rewriteClient) =
      map? clientSection? json :=
    map?_mapValues dialect.clientSection?_rewriteClient honce
  cases json with
  | null => rfl
  | _ => exact hmap

end Dialect

end Document

/-! ## Stores of one document -/

theorem Tier.Holds.alike {tier other : Tier} {part : ClientSection} (h : tier.Holds part)
    (hother : other.Holds part) : tier.Alike other where
  resolvers := h.resolvers.trans hother.resolvers.symm
  addresses := fun name => Option.ext fun entry =>
    (h.addresses name entry).trans (hother.addresses name entry).symm
  aliases := fun name => Option.ext fun entry =>
    (h.aliases name entry).trans (hother.aliases name entry).symm

namespace Answers

/-- The same clients have tiers, and these tiers are alike. -/
def Alike (answers other : Answers) : Prop :=
  ∀ key, Option.Rel Tier.Alike (answers.lookup key) (other.lookup key)

variable {document : Document}

theorem Holds.exists_lookup {answers other : Answers} (h : answers.Holds document)
    (hother : other.Holds document) {key : ClientKey} {tier : Tier}
    (hlookup : answers.lookup key = some tier) :
    ∃ found, other.lookup key = some found ∧ tier.Alike found := by
  obtain ⟨written, hwritten, hkey, htier⟩ := h.only key tier hlookup
  obtain ⟨_, found, hsame, hfound, hholds⟩ := hother.clients written hwritten
  obtain rfl := Option.some.inj (hkey.symm.trans hsame)
  exact ⟨found, hfound, htier.alike hholds⟩

/-- A document says which store it is, up to the order in which the store keeps it. -/
theorem Holds.alike {answers other : Answers} (h : answers.Holds document)
    (hother : other.Holds document) : answers.Alike other := by
  intro key
  cases hlookup : answers.lookup key with
  | some tier =>
    obtain ⟨found, hfound, halike⟩ := h.exists_lookup hother hlookup
    rw [hfound]
    exact Option.Rel.some halike
  | none =>
    cases hfound : other.lookup key with
    | none => exact Option.Rel.none
    | some found =>
      obtain ⟨tier, htier, -⟩ := hother.exists_lookup h hfound
      rw [hlookup] at htier
      cases htier

/-- The same answers or a fault, in whichever orders a document is walked through. -/
theorem loadClients_of_rearranged {first second : Document} (hfirst : document.Rearranged first)
    (hsecond : document.Rearranged second) :
    (∃ answers other, loadClients empty first = .ok answers ∧
      loadClients empty second = .ok other ∧ answers.Alike other) ∨
    ∃ cause other, loadClients empty first = .error cause ∧
      loadClients empty second = .error other := by
  have hloads : ∀ {arranged : Document}, document.Rearranged arranged →
      ((∃ answers, loadClients empty arranged = .ok answers) ↔ document.Valid) := fun harranged =>
    loadClients_empty_iff.trans (Document.valid_iff_of_rearranged harranged).symm
  by_cases hvalid : document.Valid
  · obtain ⟨answers, hanswers⟩ := (hloads hfirst).2 hvalid
    obtain ⟨other, hother⟩ := (hloads hsecond).2 hvalid
    have hholds := (holds_of_loadClients hanswers).of_rearranged hfirst.symm
    have hholds' := (holds_of_loadClients hother).of_rearranged hsecond.symm
    exact Or.inl ⟨answers, other, hanswers, hother, hholds.alike hholds'⟩
  · have hfails : ∀ {arranged : Document}, document.Rearranged arranged →
        ∃ cause, loadClients empty arranged = .error cause := by
      intro arranged harranged
      cases hresult : loadClients empty arranged with
      | error cause => exact ⟨cause, rfl⟩
      | ok answers => exact absurd ((hloads harranged).1 ⟨answers, hresult⟩) hvalid
    obtain ⟨cause, hcause⟩ := hfails hfirst
    obtain ⟨other, hother⟩ := hfails hsecond
    exact Or.inr ⟨cause, other, hcause, hother⟩

theorem ofText_of_parse? {text : String} {json : Json} (h : Json.parse? text = some json) :
    ofText text = match Document.ofJson? json with
      | none => .error (.unreadable "not a JSON document of clients")
      | some document => loadClients empty document := by
  rw [ofText, Json.isAllBlank_of_parse? h, h]
  rfl

/-! ## Dialects -/

/-- A text loads like every text that writes its document in another dialect, in lower case for
one: the same answers, or a fault in both cases.  This holds in whichever orders the two documents
are walked through. -/
theorem dialects_agree (dialect : Document.Dialect) {text other : String} {json : Json}
    (htext : Json.parse? text = some json)
    (hother : Json.parse? other = some (dialect.rewrite json))
    (honce : Document.membersOnce json = true) :
    ofText other = ofText text ∧
    ∀ document, documentOf? text = some document →
      documentOf? other = some document ∧
      ∀ first second, document.Rearranged first → document.Rearranged second →
        (∃ answers same, loadClients empty first = .ok answers ∧
          loadClients empty second = .ok same ∧ answers.Alike same) ∨
        ∃ cause again, loadClients empty first = .error cause ∧
          loadClients empty second = .error again := by
  have hsame := dialect.ofJson?_rewrite honce
  refine ⟨?_, fun document hdocument => ⟨?_, fun first second => loadClients_of_rearranged⟩⟩
  · rw [ofText_of_parse? hother, ofText_of_parse? htext, hsame]
  · rw [documentOf?_of_parse? hother, hsame, ← documentOf?_of_parse? htext, hdocument]

/-! ## A studio -/

/-- Capitals, members that are `null` or unknown, and records named like members. -/
def studioJson : Json :=
  .object [(some "10.0.0.1", .object
    [(some "Recurse", .null),
      (some "A", .object [(some "ttl", .object
        [(some "TTL", plainNumber ['6', '0']), (some "Answer", .array [.string "10.0.0.7"]),
          (some "note", .object [])])]),
      (some "CNAME", .object [(some "A", .object [(some "Target", .string "ttl")])]),
      (some "b", .array [])])]

def studioText : String :=
  "\x7b\"10.0.0.1\":\x7b\"Recurse\":null," ++
    "\"A\":\x7b\"ttl\":\x7b\"TTL\":60,\"Answer\":[\"10.0.0.7\"],\"note\":\x7b\x7d\x7d\x7d," ++
    "\"CNAME\":\x7b\"A\":\x7b\"Target\":\"ttl\"\x7d\x7d,\"b\":[]\x7d\x7d"

/-- The studio in lower case, with `member` for the target of its alias. -/
def plainStudioJson (member : String) : Json :=
  .object [(some "10.0.0.1", .object
    [(some "a", .object [(some "ttl", .object
        [(some "ttl", plainNumber ['6', '0']), (some "answer", .array [.string "10.0.0.7"])])]),
      (some "cname", .object [(some "A", .object [(some member, .string "ttl")])])])]

def loweredStudioText : String :=
  "\x7b\"10.0.0.1\":\x7b\"a\":\x7b\"ttl\":\x7b\"ttl\":60,\"answer\":[\"10.0.0.7\"]\x7d\x7d," ++
    "\"cname\":\x7b\"A\":\x7b\"target\":\"ttl\"\x7d\x7d\x7d\x7d"

def firstStudioText : String :=
  "\x7b\"10.0.0.1\":\x7b\"a\":\x7b\"ttl\":\x7b\"ttl\":60,\"answer\":[\"10.0.0.7\"]\x7d\x7d," ++
    "\"cname\":\x7b\"A\":\x7b\"answer\":\"ttl\"\x7d\x7d\x7d\x7d"

theorem parse?_studioText : Json.parse? studioText = some studioJson := by
  cbv

theorem parse?_loweredStudioText :
    Json.parse? loweredStudioText = some (plainStudioJson "target") := by
  cbv

theorem parse?_firstStudioText :
    Json.parse? firstStudioText = some (plainStudioJson "answer") := by
  cbv

theorem rewrite_studioJson :
    Document.Dialect.lowered.rewrite studioJson = plainStudioJson "target" ∧
      Document.Dialect.first.rewrite studioJson = plainStudioJson "answer" :=
  ⟨rfl, rfl⟩

theorem studio_dialects_agree :
    Json.parse? studioText = some studioJson ∧ Document.membersOnce studioJson = true ∧
      Json.parse? loweredStudioText = some (Document.Dialect.lowered.rewrite studioJson) ∧
      Json.parse? firstStudioText = some (Document.Dialect.first.rewrite studioJson) ∧
      ofText loweredStudioText = ofText studioText ∧ ofText firstStudioText = ofText studioText ∧
      ofText studioText = .ok
        { clients :=
            [(.v4 ⟨10, 0, 0, 1⟩,
              { resolvers := []
                addresses := [("ttl.", { ttl := some 60, addresses := [⟨10, 0, 0, 7⟩] })]
                aliases := [("a.", { ttl := none, target := "ttl." })] })]
          default := none } := by
  have hlowered : Json.parse? loweredStudioText =
      some (Document.Dialect.lowered.rewrite studioJson) := by
    rw [rewrite_studioJson.1, parse?_loweredStudioText]
  have hfirst : Json.parse? firstStudioText =
      some (Document.Dialect.first.rewrite studioJson) := by
    rw [rewrite_studioJson.2, parse?_firstStudioText]
  have honce : Document.membersOnce studioJson = true := by decide +kernel
  refine ⟨parse?_studioText, honce, hlowered, hfirst, ?_, ?_, ?_⟩
  · exact (dialects_agree Document.Dialect.lowered parse?_studioText hlowered honce).1
  · exact (dialects_agree Document.Dialect.first parse?_studioText hfirst honce).1
  · decide +kernel

end Answers
end SplitHorizon
