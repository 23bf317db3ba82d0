/-
What is left of a reply that has no room in a datagram.

Such a reply gives way to an empty one, which has the questions of the request and says
that there is more to be had over a stream.  It is shorter by the answers, and by nothing
else.  So the fallback helps if header and questions have room by themselves, as those of
one question do.

Where they have none, what is sent is too long for a datagram all the same.  A reply that
reports an error is such a case whenever it is too long: it has no answers to leave out,
and gives way to a reply of its own length that reports no error.
-/
import SplitHorizon.Proofs.Server.Agreement

namespace SplitHorizon

namespace Wire

variable {m other : Message} {bytes otherBytes : List UInt8}

/-- Of the messages with the same questions, those without answers are the shortest. -/
theorem length_le_of_no_answers (h : encode? m = some bytes)
    (hother : encode? other = some otherBytes) (hquestions : other.questions = m.questions)
    (hnone : other.answers = []) :
    otherBytes.length ≤ bytes.length ∧ (m.answers = [] → otherBytes.length = bytes.length) := by
  obtain ⟨questions, hwritten, hlength⟩ := length_of_encode? h
  obtain ⟨sameQuestions, hsame, hotherLength⟩ := length_of_encode? hother
  rw [hquestions, hwritten] at hsame
  obtain rfl := Option.some.inj hsame
  rw [hnone, writeAnswers, List.length_nil, Nat.add_zero] at hotherLength
  refine ⟨by omega, fun hempty => ?_⟩
  rw [hempty, writeAnswers, List.length_nil, Nat.add_zero] at hlength
  exact hotherLength.trans hlength.symm

end Wire

namespace Server

variable {request m : Wire.Message} {bytes full short : List UInt8}

/-! ## Replies that are put together -/

/-- The message is put together for the request, as an error or with records. -/
inductive ReplyFor (request : Wire.Message) : Wire.Message → Prop
  | error (code : Wire.ResponseCode) : ReplyFor request (errorReply request code)
  | answer {records : List Record} {m : Wire.Message} (h : answerReply request records = .ok m) :
    ReplyFor request m

/-- Only a reply without an error has answers. -/
theorem ReplyFor.eq_fullReply (h : ReplyFor request m) :
    ∃ code answers, m = fullReply request code answers ∧
      (answers = [] ∨ code = Wire.ResponseCode.noError) := by
  cases h with
  | error code => exact ⟨code, [], rfl, Or.inl rfl⟩
  | answer h =>
    obtain ⟨answers, -, rfl⟩ := answerReply_eq_ok_iff.1 h
    exact ⟨_, answers, rfl, Or.inr rfl⟩

/-! ## Replies that are sent -/

theorem decode?_of_short {code : Wire.ResponseCode} {answers : List Wire.Answer}
    (h : Wire.encode? (fullReply request code answers) = some full) (hfits : full.length ≤ 512) :
    Wire.decode? full = some (fullReply request code.inHeader answers) := by
  have hspare : 512 + Wire.maxAnswerSize ≤ Wire.maxMessageSize := by decide
  exact Wire.arrives_of_complete h (Or.inr (by omega))

theorem decode?_of_truncatedReply (h : Wire.encode? (truncatedReply request) = some short) :
    Wire.decode? short = some (truncatedReply request) :=
  Wire.decode?_of_complete h Wire.ResponseCode.noError_lt (Or.inl rfl)

/-- There is something to send whenever header and questions can be written at all. -/
theorem exists_datagramBytes?_iff (h : m.questions = request.questions) :
    (∃ bytes, datagramBytes? request m = some bytes) ↔ Rewritable request := by
  constructor
  · rintro ⟨bytes, hbytes⟩
    obtain ⟨full, hfull, -⟩ := datagramBytes?_eq_some_iff.1 hbytes
    exact Rewritable.of_encode? hfull h
  · intro hwritten
    obtain ⟨full, hfull⟩ := hwritten.encode? h
    obtain ⟨short, hshort⟩ := @Rewritable.encode? _ (truncatedReply request) hwritten rfl
    rcases Nat.lt_or_ge 512 full.length with hlong | hfits
    · exact ⟨short, datagramBytes?_eq_some_iff.2 ⟨full, hfull, Or.inr ⟨hlong, hshort⟩⟩⟩
    · exact ⟨full, datagramBytes?_eq_some_iff.2 ⟨full, hfull, Or.inl ⟨hfits, rfl⟩⟩⟩

/-- What is sent for a reply is the reply, or the request for a stream in its place.  It
has room in a datagram, and the code of the reply with it, if header and questions have. -/
theorem fallback_of_replyFor (hm : ReplyFor request m) :
    ((∃ bytes, datagramBytes? request m = some bytes) ↔ Rewritable request) ∧
      ∀ bytes, datagramBytes? request m = some bytes →
        ∃ full short found, Wire.encode? m = some full ∧
          Wire.encode? (truncatedReply request) = some short ∧ Wire.decode? bytes = some found ∧
          (full.length ≤ 512 → bytes = full ∧ found.header.code = m.header.code.inHeader ∧
            found.header.truncated = false ∧ found.answers = m.answers) ∧
          (512 < full.length → bytes = short ∧
            found.header.code = Wire.ResponseCode.noError ∧
            found.header.truncated = true ∧ found.answers = []) ∧
          (bytes.length ≤ 512 ↔ short.length ≤ 512) ∧
          (short.length ≤ 512 → found.header.code = m.header.code.inHeader) ∧
          (m.answers = [] → short.length = full.length) ∧
          (request.questions.length ≤ 1 → short.length ≤ 512) := by
  obtain ⟨code, answers, rfl, herror⟩ := hm.eq_fullReply
  refine ⟨exists_datagramBytes?_iff rfl, fun bytes hbytes => ?_⟩
  obtain ⟨full, hfull, hsent⟩ := datagramBytes?_eq_some_iff.1 hbytes
  obtain ⟨short, hshort⟩ :=
    @Rewritable.encode? _ (truncatedReply request) (Rewritable.of_encode? hfull rfl) rfl
  obtain ⟨hle, hsame⟩ := Wire.length_le_of_no_answers hfull hshort rfl rfl
  have hone : request.questions.length ≤ 1 → short.length ≤ 512 := fun hfew =>
    Wire.length_le_of_few_questions (m := truncatedReply request) rfl hfew hshort
  rcases hsent with ⟨hfits, rfl⟩ | ⟨hlong, htruncated⟩
  · exact ⟨bytes, short, _, hfull, hshort, decode?_of_short hfull hfits,
      fun _ => ⟨rfl, rfl, rfl, rfl⟩, fun hlong => absurd hfits (Nat.not_le.2 hlong),
      ⟨fun _ => Nat.le_trans hle hfits, fun _ => hfits⟩, fun _ => rfl, hsame, hone⟩
  · obtain rfl := Option.some.inj (htruncated.symm.trans hshort)
    refine ⟨full, bytes, _, hfull, hshort, decode?_of_truncatedReply hshort,
      fun hfits => absurd hfits (Nat.not_le.2 hlong), fun _ => ⟨rfl, rfl, rfl, rfl⟩,
      Iff.rfl, fun hroom => ?_, hsame, hone⟩
    -- A reply that is longer than its questions has answers, and reports no error.
    rcases herror with rfl | rfl
    · exact absurd (hsame rfl) (Nat.ne_of_lt (Nat.lt_of_le_of_lt hroom hlong))
    · rfl

/-! ## Lamps by the dozen -/

def lampPosts : List Ipv4 :=
  (List.range 64).map fun i => ⟨10, 0, 1, UInt8.ofNat i⟩

def postRecords : List Record :=
  lampPosts.map (Record.address "a." 60)

theorem answerReply_postRecords (request : Wire.Message) :
    answerReply request postRecords = .ok (fullReply request Wire.ResponseCode.noError
      (lampPosts.map fun ip => { name := lampName, ttl := 60, data := .address ip })) := by
  have hname : Wire.Name.parse? "a." = some lampName := by decide +kernel
  refine answerReply_eq_ok_iff.2 ⟨_, ?_, rfl⟩
  rw [postRecords, List.forall₂_map_left_iff, List.forall₂_map_right_iff, List.forall₂_same]
  exact fun ip _ => ⟨hname, rfl, Wire.AnswerData.Carries.address ip⟩

theorem posts_fall_back :
    ∃ m bytes found, answerReply (lampRequest 7 true []).message postRecords = .ok m ∧
      datagramBytes? (lampRequest 7 true []).message m = some bytes ∧ bytes.length ≤ 512 ∧
      Wire.decode? bytes = some found ∧ found.header.code = Wire.ResponseCode.noError ∧
      found.header.truncated = true ∧ found.answers = [] := by
  have hm := answerReply_postRecords (lampRequest 7 true []).message
  obtain ⟨hsends, hall⟩ := fallback_of_replyFor (ReplyFor.answer hm)
  obtain ⟨bytes, hbytes⟩ := hsends.2 (rewritable_of_single rfl)
  obtain ⟨full, short, found, hfull, -, hfound, -, hlong, hroom, -, -, hone⟩ := hall bytes hbytes
  have hlength : (Wire.encode? (fullReply (lampRequest 7 true []).message
      Wire.ResponseCode.noError
      (lampPosts.map fun ip => { name := lampName, ttl := 60, data := .address ip }))).map
        List.length = some 1043 := by
    decide +kernel
  rw [hfull] at hlength
  have hfullLength : full.length = 1043 := Option.some.inj hlength
  obtain ⟨-, hfallback⟩ := hlong (by omega)
  exact ⟨_, bytes, found, hm, hbytes, hroom.2 (hone (by decide)), hfound, hfallback⟩

theorem status_lt : 2 < 16 := by decide

/-- A hundred questions and one for the root, in a request of another operation. -/
def crowd : Wire.Message where
  header :=
    { id := 7, isResponse := false, opcode := ⟨2, status_lt⟩, authoritative := false
      truncated := false, recursionDesired := true, recursionAvailable := false
      checkingDisabled := false, code := Wire.ResponseCode.noError }
  questions :=
    List.replicate 101
      { name := Wire.Name.root, kind := RecordKind.a.code, cls := Wire.classInternet }
  answers := []

/-- The reply that refuses it has no room in a datagram, and what takes its place neither
has room nor refuses anything. -/
theorem crowd_not_refused :
    ∃ received bytes found, Wire.decode? received = some crowd ∧
      datagramBytes? crowd (errorReply crowd Wire.ResponseCode.notImplemented) = some bytes ∧
      bytes.length = 517 ∧ Wire.decode? bytes = some found ∧
      found.header.code = Wire.ResponseCode.noError := by
  have hroom : Wire.Header.size + crowd.questions.length * Wire.maxQuestionSize ≤
      Wire.maxMessageSize := by
    decide
  have hwritten : Rewritable crowd := Wire.encode?_of_room hroom
  obtain ⟨received, hreceived⟩ := Wire.encode?_of_room hroom
  obtain ⟨full, hfull⟩ :=
    @Rewritable.encode? _ (errorReply crowd Wire.ResponseCode.notImplemented) hwritten rfl
  obtain ⟨short, hshort⟩ := @Rewritable.encode? _ (truncatedReply crowd) hwritten rfl
  have hlength : (Wire.encode? (truncatedReply crowd)).map List.length = some 517 := by
    decide +kernel
  rw [hshort] at hlength
  have hshortLength : short.length = 517 := Option.some.inj hlength
  have hsame := (Wire.length_le_of_no_answers hfull hshort rfl rfl).2 rfl
  refine ⟨received, short, truncatedReply crowd, ?_, ?_, hshortLength,
    decode?_of_truncatedReply hshort, rfl⟩
  · exact Wire.decode?_of_complete hreceived (by decide) (Or.inl rfl)
  · exact datagramBytes?_eq_some_iff.2 ⟨full, hfull, Or.inr ⟨by omega, hshort⟩⟩

end Server
end SplitHorizon
