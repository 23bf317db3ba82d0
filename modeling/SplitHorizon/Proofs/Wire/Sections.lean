/-
The sections of a message.

Bytes that are a message consist of a header, questions, and three sections of records,
as many of each as the header counts.  `decode?_eq_some_iff` says which bytes are a message
and what is kept of them: the answers come from the second section alone, and the response
code from the header and from the one extension record of the last section.

What becomes an answer is told record by record.  `LaidOut.counted` says that each address
and each alias of the answer section is one, with its own name and time to live, and that no
other record is.
-/
import SplitHorizon.Proofs.Wire.QuestionSection
import SplitHorizon.Wire.Records

namespace SplitHorizon
namespace Wire

variable {α β : Type} {bytes : List UInt8} {here there : Cursor} {r : ReadRecord}

theorem Reader.guard_eq_some_iff {p : Prop} [Decidable p] :
    (guard p : Reader Unit) here = some ((), there) ↔ p ∧ there = here := by
  unfold guard
  constructor
  · intro h
    split at h
    · next hp => exact ⟨hp, (Prod.mk.inj (Option.some.inj h)).2.symm⟩
    · cases h
  · rintro ⟨hp, rfl⟩
    rw [if_pos hp]
    rfl

theorem Reader.mem_times {read : Reader α} {count : Nat} {as : List α}
    (h : Reader.times read count here = some (as, there)) :
    ∀ a ∈ as, ∃ first next, read first = some (a, next) := by
  induction count generalizing as here there with
  | zero =>
    obtain ⟨rfl, -⟩ := Prod.mk.inj (Option.some.inj h)
    exact fun a ha => absurd ha List.not_mem_nil
  | succ count ih =>
    obtain ⟨one, middle, hone, hrest⟩ := Reader.bind_eq_some_iff.1 h
    obtain ⟨others, last, hothers, hlist⟩ := Reader.bind_eq_some_iff.1 hrest
    obtain ⟨rfl, -⟩ := Prod.mk.inj (Option.some.inj hlist)
    intro a ha
    rcases List.mem_cons.1 ha with rfl | ha
    · exact ⟨here, middle, hone⟩
    · exact ih hothers a ha

/-! ## What is read of a message -/

structure Sections where
  header : Header
  questions : List Question
  answers : List ReadRecord
  authorities : List ReadRecord
  additionals : List ReadRecord

def extensionsOf (records : List ReadRecord) : List ReadRecord :=
  records.filter fun r => r.kind = kindExtension

/-- The upper eight bits of the response code, which stand at the top of the time to live of
the extension record. -/
def highCodeOf : List ReadRecord → UInt8
  | extension :: _ => UInt8.ofNat (extension.ttl.toNat / 0x1000000)
  | [] => 0

namespace Sections

/-- All twelve bits of the response code. -/
def code (parts : Sections) : ResponseCode :=
  ResponseCode.ofParts (highCodeOf (extensionsOf parts.additionals)) parts.header.code.low

def message (parts : Sections) : Message where
  header := { parts.header with code := parts.code }
  questions := parts.questions
  answers := parts.answers.filterMap ReadRecord.answer?

end Sections

/-- The bytes begin with these sections, one behind the other, each with as many entries as
the header counts. -/
inductive LaidOut (bytes : List UInt8) : Sections → Prop
  | intro {header : Header} {counts : Counts} {questions : List Question}
    {answers authorities additionals : List ReadRecord} {first second third fourth last : Cursor}
    (hheader : Header.read (Cursor.start bytes) = some ((header, counts), first))
    (hquestions :
      Reader.times (readQuestion bytes) counts.questions first = some (questions, second))
    (hanswers : Reader.times (readRecord bytes) counts.answers second = some (answers, third))
    (hauthorities :
      Reader.times (readRecord bytes) counts.authorities third = some (authorities, fourth))
    (hadditionals :
      Reader.times (readRecord bytes) counts.additionals fourth = some (additionals, last)) :
    LaidOut bytes ⟨header, questions, answers, authorities, additionals⟩

/-- Signatures and extensions stand in the last section only, and there is at most one
extension. -/
structure InPlace (parts : Sections) : Prop where
  answers : ∀ r ∈ parts.answers, isTrailing r.kind = false
  authorities : ∀ r ∈ parts.authorities, isTrailing r.kind = false
  extensions : (extensionsOf parts.additionals).length ≤ 1

theorem readSection_eq_some_iff {count : Nat} {records : List ReadRecord} :
    readSection bytes count here = some (records, there) ↔
      Reader.times (readRecord bytes) count here = some (records, there) ∧
        ∀ r ∈ records, isTrailing r.kind = false := by
  have hall : ∀ records : List ReadRecord,
      (records.all fun r => !isTrailing r.kind) = true ↔
        ∀ r ∈ records, isTrailing r.kind = false := by
    simp
  unfold readSection
  constructor
  · intro h
    obtain ⟨found, middle, htimes, hrest⟩ := Reader.bind_eq_some_iff.1 h
    obtain ⟨⟨⟩, same, hguard, hdone⟩ := Reader.bind_eq_some_iff.1 hrest
    obtain ⟨hplace, rfl⟩ := Reader.guard_eq_some_iff.1 hguard
    obtain ⟨rfl, rfl⟩ := Prod.mk.inj (Option.some.inj hdone)
    exact ⟨htimes, (hall _).1 hplace⟩
  · rintro ⟨htimes, hplace⟩
    refine Reader.bind_eq_some_iff.2 ⟨records, there, htimes, ?_⟩
    exact Reader.bind_eq_some_iff.2
      ⟨(), there, Reader.guard_eq_some_iff.2 ⟨(hall _).2 hplace, rfl⟩, rfl⟩

/-- The upper bits of the response code, unless there is more than one extension. -/
def readHighCode : List ReadRecord → Reader UInt8
  | [] => return 0
  | [extension] => return UInt8.ofNat (extension.ttl.toNat / 0x1000000)
  | _ => fun _ => none

theorem readAdditional_eq_bind (bytes : List UInt8) (count : Nat) :
    readAdditional bytes count =
      Reader.times (readRecord bytes) count >>= fun records =>
        readHighCode (extensionsOf records) := rfl

theorem readHighCode_eq_some_iff {extensions : List ReadRecord} {high : UInt8} :
    readHighCode extensions here = some (high, there) ↔
      extensions.length ≤ 1 ∧ high = highCodeOf extensions ∧ there = here := by
  have hpure : ∀ value : UInt8, (pure value : Reader UInt8) here = some (high, there) ↔
      high = value ∧ there = here := by
    intro value
    constructor
    · intro h
      obtain ⟨rfl, rfl⟩ := Prod.mk.inj (Option.some.inj h)
      exact ⟨rfl, rfl⟩
    · rintro ⟨rfl, rfl⟩
      rfl
  rcases extensions with _ | ⟨extension, _ | ⟨second, rest⟩⟩
  · exact (hpure 0).trans (by simp [highCodeOf])
  · exact (hpure _).trans (by simp [highCodeOf])
  · constructor
    · intro h
      cases h
    · rintro ⟨hfew, -⟩
      simp at hfew

theorem readAdditional_eq_some_iff {count : Nat} {high : UInt8} :
    readAdditional bytes count here = some (high, there) ↔
      ∃ records, Reader.times (readRecord bytes) count here = some (records, there) ∧
        (extensionsOf records).length ≤ 1 ∧ high = highCodeOf (extensionsOf records) := by
  rw [readAdditional_eq_bind, Reader.bind_eq_some_iff]
  simp only [readHighCode_eq_some_iff]
  constructor
  · rintro ⟨records, middle, htimes, hfew, hhigh, rfl⟩
    exact ⟨records, htimes, hfew, hhigh⟩
  · rintro ⟨records, htimes, hfew, hhigh⟩
    exact ⟨records, there, htimes, hfew, hhigh, rfl⟩

/-- Which bytes are a message, and what is kept of it. -/
theorem decode?_eq_some_iff {m : Message} :
    decode? bytes = some m ↔
      ∃ parts, LaidOut bytes parts ∧ InPlace parts ∧ m = parts.message := by
  unfold decode? receive?
  simp only [Option.map_eq_some_iff, Prod.exists]
  constructor
  · rintro ⟨received, ⟨_, stop, hread, rfl⟩, rfl⟩
    obtain ⟨⟨header, counts⟩, first, hheader, hread⟩ := Reader.bind_eq_some_iff.1 hread
    obtain ⟨_, _, hposition, hread⟩ := Reader.bind_eq_some_iff.1 hread
    obtain ⟨rfl, rfl⟩ := Prod.mk.inj (Option.some.inj hposition)
    obtain ⟨questions, second, hquestions, hread⟩ := Reader.bind_eq_some_iff.1 hread
    obtain ⟨_, _, hposition, hread⟩ := Reader.bind_eq_some_iff.1 hread
    obtain ⟨rfl, rfl⟩ := Prod.mk.inj (Option.some.inj hposition)
    obtain ⟨answers, third, hanswers, hread⟩ := Reader.bind_eq_some_iff.1 hread
    obtain ⟨authorities, fourth, hauthorities, hread⟩ := Reader.bind_eq_some_iff.1 hread
    obtain ⟨high, last, hadditional, hread⟩ := Reader.bind_eq_some_iff.1 hread
    obtain ⟨rfl, -⟩ := Prod.mk.inj (Option.some.inj hread)
    obtain ⟨hanswers, hinAnswers⟩ := readSection_eq_some_iff.1 hanswers
    obtain ⟨hauthorities, hinAuthorities⟩ := readSection_eq_some_iff.1 hauthorities
    obtain ⟨additionals, hadditionals, hfew, rfl⟩ := readAdditional_eq_some_iff.1 hadditional
    exact ⟨⟨header, questions, answers, authorities, additionals⟩,
      .intro hheader hquestions hanswers hauthorities hadditionals,
      ⟨hinAnswers, hinAuthorities, hfew⟩, rfl⟩
  · rintro ⟨parts, hlaid, hplace, rfl⟩
    cases hlaid with
    | @intro header counts questions answers authorities additionals first second third fourth last
        hheader hquestions hanswers hauthorities hadditionals =>
      have hadditional : readAdditional bytes counts.additionals fourth = some (_, last) :=
        readAdditional_eq_some_iff.2 ⟨additionals, hadditionals, hplace.extensions, rfl⟩
      refine ⟨⟨_, (bytes.drop first.pos).take (second.pos - first.pos), counts.answers⟩,
        ⟨_, last, ?_, rfl⟩, rfl⟩
      refine Reader.bind_eq_some_iff.2 ⟨_, first, hheader, ?_⟩
      refine Reader.bind_eq_some_iff.2 ⟨first.pos, first, rfl, ?_⟩
      refine Reader.bind_eq_some_iff.2 ⟨questions, second, hquestions, ?_⟩
      refine Reader.bind_eq_some_iff.2 ⟨second.pos, second, rfl, ?_⟩
      refine Reader.bind_eq_some_iff.2
        ⟨answers, third, readSection_eq_some_iff.2 ⟨hanswers, hplace.answers⟩, ?_⟩
      refine Reader.bind_eq_some_iff.2
        ⟨authorities, fourth, readSection_eq_some_iff.2 ⟨hauthorities, hplace.authorities⟩, ?_⟩
      exact Reader.bind_eq_some_iff.2 ⟨_, last, hadditional, rfl⟩

/-! ## What a record says -/

/-- Whatever the reader comes out with has the property. -/
def Yields (read : Reader α) (p : α → Prop) : Prop :=
  ∀ (here there : Cursor) (a : α), read here = some (a, there) → p a

namespace Yields

variable {p : β → Prop}

theorem pure {b : β} (h : p b) : Yields (Pure.pure b) p := by
  intro here there a hread
  obtain ⟨rfl, -⟩ := Prod.mk.inj (Option.some.inj hread)
  exact h

theorem bind {read : Reader α} {next : α → Reader β} (h : ∀ a, Yields (next a) p) :
    Yields (read >>= next) p := by
  intro here there b hread
  obtain ⟨a, middle, -, hnext⟩ := Reader.bind_eq_some_iff.1 hread
  exact h a middle there b hnext

end Yields

theorem yields_address (message : List UInt8) (length : Nat) :
    Yields (readForm message length .address) fun data => ∃ ip, data = some (.address ip) :=
  Yields.bind fun ip => Yields.pure ⟨ip, rfl⟩

theorem yields_canonical (message : List UInt8) (length : Nat) :
    Yields (readForm message length .canonical)
      fun data => ∃ target, data = some (.canonical target) :=
  Yields.bind fun target => Yields.pure ⟨target, rfl⟩

theorem yields_none (message : List UInt8) (length : Nat) {form : DataForm}
    (haddress : form ≠ .address) (hcanonical : form ≠ .canonical) :
    Yields (readForm message length form) fun data => data = none := by
  cases form with
  | address => exact absurd rfl haddress
  | canonical => exact absurd rfl hcanonical
  | names before count after =>
    exact Yields.bind fun _ => Yields.bind fun _ => Yields.bind fun _ => Yields.pure rfl
  | strings => exact Yields.bind fun _ => Yields.bind fun _ => Yields.pure rfl
  | host => exact Yields.bind fun _ => Yields.pure rfl
  | rule => exact Yields.bind fun _ => Yields.pure rfl
  | authority => exact Yields.bind fun _ => Yields.pure rfl
  | kinds => exact Yields.bind fun _ => Yields.pure rfl
  | service => exact Yields.bind fun _ => Yields.pure rfl
  | options => exact Yields.bind fun _ => Yields.pure rfl
  | opaqueBytes least => exact Yields.bind fun _ => Yields.bind fun _ => Yields.pure rfl
  | forbidden =>
    intro here there data h
    cases h

theorem DataForm.ofCode_eq_address_iff {code : UInt16} :
    DataForm.ofCode code = .address ↔ code = RecordKind.a.code := by
  unfold DataForm.ofCode
  rw [← UInt16.toNat_inj]
  split <;> simp_all [RecordKind.code]

theorem DataForm.ofCode_eq_canonical_iff {code : UInt16} :
    DataForm.ofCode code = .canonical ↔ code = RecordKind.cname.code := by
  unfold DataForm.ofCode
  rw [← UInt16.toNat_inj]
  split <;> simp_all [RecordKind.code]

/-- Wherever the reader succeeds, it has gone on by so many bytes. -/
def Advances (read : Reader α) (size : Nat) : Prop :=
  ∀ (here there : Cursor) (a : α), read here = some (a, there) → there.pos = here.pos + size

namespace Advances

theorem pure (a : α) : Advances (Pure.pure a) 0 := by
  intro here there b h
  obtain ⟨-, rfl⟩ := Prod.mk.inj (Option.some.inj h)
  rfl

theorem bind {read : Reader α} {next : α → Reader β} {size rest : Nat}
    (hread : Advances read size) (hnext : ∀ a, Advances (next a) rest) :
    Advances (read >>= next) (size + rest) := by
  intro here there b h
  obtain ⟨a, middle, hfirst, hsecond⟩ := Reader.bind_eq_some_iff.1 h
  rw [hnext a middle there b hsecond, hread here middle a hfirst, Nat.add_assoc]

theorem byte : Advances Reader.byte 1 := by
  intro here there b h
  unfold Reader.byte at h
  split at h
  · cases h
  · obtain ⟨-, rfl⟩ := Prod.mk.inj (Option.some.inj h)
    rfl

theorem word16 : Advances Reader.word16 2 :=
  byte.bind fun _ => byte.bind fun _ => pure _

theorem word32 : Advances Reader.word32 4 :=
  word16.bind fun _ => word16.bind fun _ => pure _

end Advances

/-- The record ends with its fixed fields: it has no data, whatever its kind. -/
def Bare (bytes : List UInt8) (r : ReadRecord) : Prop :=
  ∃ here named there, readName bytes here = some (r.name, named) ∧
    readRecord bytes here = some (r, there) ∧ there.pos = named.pos + 10

theorem readData_eq_some {kind : UInt16} {length : Nat} {data : Option AnswerData}
    (h : readData bytes kind length here = some (data, there)) :
    (data = none ∧ there = here) ∨
      ∃ stop, readForm bytes length (DataForm.ofCode kind) here = some (data, stop) := by
  unfold readData at h
  split at h
  · obtain ⟨rfl, rfl⟩ := Prod.mk.inj (Option.some.inj h)
    exact Or.inl ⟨rfl, rfl⟩
  · obtain ⟨_, _, hposition, hread⟩ := Reader.bind_eq_some_iff.1 h
    obtain ⟨rfl, rfl⟩ := Prod.mk.inj (Option.some.inj hposition)
    obtain ⟨found, stop, hform, hafterForm⟩ := Reader.bind_eq_some_iff.1 hread
    obtain ⟨_, _, -, hguarded⟩ := Reader.bind_eq_some_iff.1 hafterForm
    obtain ⟨_, _, -, hdone⟩ := Reader.bind_eq_some_iff.1 hguarded
    obtain ⟨rfl, -⟩ := Prod.mk.inj (Option.some.inj hdone)
    exact Or.inr ⟨stop, hform⟩

/-- A record has its data read in the form of its kind, or it has none. -/
theorem readRecord_eq_some (hwhole : readRecord bytes here = some (r, there)) :
    Bare bytes r ∧ r.data = none ∨
      ∃ length first stop, readForm bytes length (DataForm.ofCode r.kind) first =
        some (r.data, stop) := by
  obtain ⟨name, named, hname, hafterName⟩ := Reader.bind_eq_some_iff.1 hwhole
  obtain ⟨kind, kinded, hkind, hafterKind⟩ := Reader.bind_eq_some_iff.1 hafterName
  obtain ⟨_, _, hguard, hafterGuard⟩ := Reader.bind_eq_some_iff.1 hafterKind
  obtain ⟨-, rfl⟩ := Reader.guard_eq_some_iff.1 hguard
  obtain ⟨cls, classed, hclass, hafterClass⟩ := Reader.bind_eq_some_iff.1 hafterGuard
  obtain ⟨ttl, timed, httl, hafterTtl⟩ := Reader.bind_eq_some_iff.1 hafterClass
  obtain ⟨length, first, hlength, hafterLength⟩ := Reader.bind_eq_some_iff.1 hafterTtl
  obtain ⟨data, last, hdata, hdone⟩ := Reader.bind_eq_some_iff.1 hafterLength
  obtain ⟨rfl, rfl⟩ := Prod.mk.inj (Option.some.inj hdone)
  rcases readData_eq_some hdata with ⟨rfl, rfl⟩ | ⟨stop, hform⟩
  · have hfixed : last.pos = named.pos + 10 := by
      rw [Advances.word16 _ _ _ hlength, Advances.word32 _ _ _ httl, Advances.word16 _ _ _ hclass,
        Advances.word16 _ _ _ hkind]
    exact Or.inl ⟨⟨here, named, last, hname, hwhole, hfixed⟩, rfl⟩
  · exact Or.inr ⟨length.toNat, first, stop, hform⟩

def ReadRecord.record? (r : ReadRecord) : Option Record :=
  r.answer?.map Answer.toRecord

theorem ReadRecord.record?_of_data {data : AnswerData} (h : r.data = some data) :
    r.record? = some { name := r.name.text, ttl := r.ttl, data := data.toRecord } := by
  rw [record?, answer?, h]
  rfl

theorem ReadRecord.record?_of_none (h : r.data = none) : r.record? = none := by
  rw [record?, answer?, h]
  rfl

/-- What becomes of a record: an address or an alias is kept with its own name and time to
live, and nothing else is. -/
inductive Counted (bytes : List UInt8) (r : ReadRecord) : Option Record → Prop
  | address {ip : Ipv4} (hkind : r.kind = RecordKind.a.code)
    (hdata : r.data = some (.address ip)) :
    Counted bytes r (some (Record.address r.name.text r.ttl ip))
  | canonical {target : Name} (hkind : r.kind = RecordKind.cname.code)
    (hdata : r.data = some (.canonical target)) :
    Counted bytes r (some (Record.canonical r.name.text r.ttl target.text))
  | other (hkind : RecordKind.ofCode? r.kind = none) : Counted bytes r none
  | bare (hbare : Bare bytes r) : Counted bytes r none

theorem counted_of_readRecord (h : readRecord bytes here = some (r, there)) :
    Counted bytes r r.record? := by
  rcases readRecord_eq_some h with ⟨hbare, hdata⟩ | ⟨length, first, stop, hform⟩
  · rw [ReadRecord.record?_of_none hdata]
    exact Counted.bare hbare
  by_cases haddress : DataForm.ofCode r.kind = .address
  · rw [haddress] at hform
    obtain ⟨ip, hdata⟩ := yields_address bytes length first stop r.data hform
    rw [ReadRecord.record?_of_data hdata]
    exact Counted.address (DataForm.ofCode_eq_address_iff.1 haddress) hdata
  by_cases hcanonical : DataForm.ofCode r.kind = .canonical
  · rw [hcanonical] at hform
    obtain ⟨target, hdata⟩ := yields_canonical bytes length first stop r.data hform
    rw [ReadRecord.record?_of_data hdata]
    exact Counted.canonical (DataForm.ofCode_eq_canonical_iff.1 hcanonical) hdata
  · have hdata := yields_none bytes length haddress hcanonical first stop r.data hform
    rw [ReadRecord.record?_of_none hdata]
    have hkind : RecordKind.ofCode? r.kind = none :=
      (if_neg (mt DataForm.ofCode_eq_address_iff.2 haddress)).trans
        (if_neg (mt DataForm.ofCode_eq_canonical_iff.2 hcanonical))
    exact Counted.other hkind

namespace Sections

/-- The addresses and aliases of the answer section, in order. -/
def records (parts : Sections) : List Record :=
  parts.answers.filterMap ReadRecord.record?

theorem map_toRecord_answers (parts : Sections) :
    parts.message.answers.map Answer.toRecord = parts.records :=
  List.map_filterMap

end Sections

theorem LaidOut.counted {parts : Sections} (h : LaidOut bytes parts) :
    ∀ r ∈ parts.answers, Counted bytes r r.record? := by
  cases h with
  | intro _ _ hanswers _ _ =>
    intro r hr
    obtain ⟨first, next, hread⟩ := Reader.mem_times hanswers r hr
    exact counted_of_readRecord hread

end Wire
end SplitHorizon
