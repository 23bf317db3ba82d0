/-
Generations of answers over a session.

Which store a server answers from can be told from the steps alone: it is the last one
that a reload or a replacement put in place, where a reload puts in place what the file
as last written loads to, if it loads.  `Generation` says this of a history without
running anything, and `Held` and `Standing` say likewise what is held and what stands
at the path.

A run keeps to that, and no step does more to a later one than it must.  A failed reload
does nothing at all, a written file is not seen before the next reload, and a request
touches what is outside and nothing else.  What is outside matters, though: a source that
was drawn from orders the next answer differently (`later_replies_change`).

While the delegate is asked other steps may take place.  `Setup.busy` is a delegate to
which this happens at every question, and the answer is the one that the generation at
the start of the request gives undisturbed.  `generations_kept` puts all of this
together.
-/
import Mathlib.Data.List.Induction
import SplitHorizon.Proofs.Server.Isolation
import SplitHorizon.Server.Session

namespace SplitHorizon

/-- The file loads to a store: a missing one to the empty store, a text to what its
document says. -/
def StoredFile.Loads : StoredFile → Answers → Prop
  | .missing, answers => answers = Answers.empty
  | .unreadable _, _ => False
  | .content bytes, answers =>
    ∃ text, Text.ofUtf8? bytes = some text ∧ Answers.ofText text = .ok answers

theorem Answers.ofFile_eq_ok_iff (path : String) {file : StoredFile} {answers : Answers} :
    ofFile path file = .ok answers ↔ file.Loads answers := by
  cases file with
  | missing =>
    show (Except.ok Answers.empty : Except Fault Answers) = .ok answers ↔ answers = Answers.empty
    rw [Except.ok.injEq, eq_comm]
  | unreadable reason => exact ⟨(fun h => nomatch h), False.elim⟩
  | content bytes =>
    simp only [ofFile, StoredFile.readText, StoredFile.Loads]
    cases htext : Text.ofUtf8? bytes with
    | none => simp
    | some text =>
      cases hload : Answers.ofText text with
      | ok found => simp [load, hload, Except.mapError]
      | error fault => simp [load, hload, Except.mapError]

namespace Server

open Resolution (Act Imitates Outside)

/-! ## Histories

A history lists the steps of a session, the first one first. -/

/-- Of all steps of the history that gave something, as told by `gives`, the last one
gave this. -/
def LastGiven {α : Type} (gives : List Step → Step → α → Prop) (history : List Step) (a : α) :
    Prop :=
  ∃ before s since, history = before ++ s :: since ∧ gives before s a ∧
    ∀ middle t rest b, since = middle ++ t :: rest → ¬ gives (before ++ s :: middle) t b

/-- What was given last, or the initial value if no step gave anything. -/
def Latest {α : Type} (gives : List Step → Step → α → Prop) (initial : α)
    (history : List Step) (a : α) : Prop :=
  LastGiven gives history a ∨
    a = initial ∧ ∀ before s since b, history = before ++ s :: since → ¬ gives before s b

/-- The file as last written. -/
def Standing : List Step → StoredFile → Prop :=
  Latest (fun _ s file => s = .write file) .missing

/-- After the history, the step puts a store in place. -/
def PutsInPlace (history : List Step) (s : Step) (answers : Answers) : Prop :=
  s = .replace answers ∨ s = .reload ∧ ∃ file, Standing history file ∧ file.Loads answers

/-- The store put in place last. -/
def Generation : List Step → Answers → Prop :=
  Latest PutsInPlace Answers.empty

/-- The generation that was current at the last hold, if there was one. -/
def Held : List Step → Option Answers → Prop :=
  Latest (fun before s held =>
    s = .hold ∧ ∃ answers, Generation before answers ∧ held = some answers) none

section

variable {α : Type} {gives : List Step → Step → α → Prop} {initial a : α}
  {history : List Step} {s : Step}

theorem latest_nil : Latest gives initial [] a ↔ a = initial := by
  have hempty : ∀ (before : List Step) s since, [] ≠ before ++ s :: since := by simp
  constructor
  · rintro (⟨before, s, since, hsplit, _⟩ | ⟨ha, _⟩)
    · exact absurd hsplit (hempty before s since)
    · exact ha
  · intro ha
    exact Or.inr ⟨ha, fun before s since _ hsplit => absurd hsplit (hempty before s since)⟩

/-- A split of a longer history is at its last step or before it. -/
theorem split_snoc {before since : List Step} {t : Step}
    (h : history ++ [s] = before ++ t :: since) :
    (before = history ∧ t = s ∧ since = []) ∨
      ∃ front, since = front ++ [s] ∧ history = before ++ t :: front := by
  rcases List.eq_nil_or_concat since with rfl | ⟨front, last, rfl⟩
  · obtain ⟨hfront, hlast⟩ := List.append_inj' h rfl
    exact Or.inl ⟨hfront.symm, (List.cons.inj hlast).1.symm, rfl⟩
  · rw [List.concat_eq_append, ← List.cons_append, ← List.append_assoc] at h
    obtain ⟨hfront, hlast⟩ := List.append_inj' h rfl
    obtain rfl := (List.cons.inj hlast).1
    exact Or.inr ⟨front, List.concat_eq_append, hfront⟩

theorem lastGiven_snoc : LastGiven gives (history ++ [s]) a ↔
    gives history s a ∨ (∀ b, ¬ gives history s b) ∧ LastGiven gives history a := by
  constructor
  · rintro ⟨before, t, since, hsplit, hgives, hnone⟩
    rcases split_snoc hsplit with ⟨rfl, rfl, rfl⟩ | ⟨front, rfl, rfl⟩
    · exact Or.inl hgives
    · refine Or.inr ⟨fun b => hnone front s [] b rfl, before, t, front, rfl, hgives, ?_⟩
      intro middle u rest b hfront
      exact hnone middle u (rest ++ [s]) b (by rw [hfront]; simp)
  · rintro (hgives | ⟨hnot, before, t, since, rfl, hgives, hnone⟩)
    · refine ⟨history, s, [], rfl, hgives, ?_⟩
      intro middle t rest b hsplit
      exact absurd hsplit.symm (by simp)
    · refine ⟨before, t, since ++ [s], by simp, hgives, ?_⟩
      intro middle u rest b hsplit
      rcases split_snoc hsplit with ⟨rfl, rfl, _⟩ | ⟨front, _, hfront⟩
      · exact hnot b
      · exact hnone middle u front b hfront

theorem not_given_snoc :
    (∀ before t since b, history ++ [s] = before ++ t :: since → ¬ gives before t b) ↔
      (∀ b, ¬ gives history s b) ∧
        ∀ before t since b, history = before ++ t :: since → ¬ gives before t b := by
  constructor
  · intro hnone
    refine ⟨fun b => hnone history s [] b rfl, ?_⟩
    intro before t since b hhistory
    exact hnone before t (since ++ [s]) b (by rw [hhistory]; simp)
  · rintro ⟨hnot, hnone⟩ before t since b hsplit
    rcases split_snoc hsplit with ⟨rfl, rfl, _⟩ | ⟨front, _, hfront⟩
    · exact hnot b
    · exact hnone before t front b hfront

theorem latest_snoc : Latest gives initial (history ++ [s]) a ↔
    gives history s a ∨ (∀ b, ¬ gives history s b) ∧ Latest gives initial history a := by
  rw [Latest, Latest, lastGiven_snoc, not_given_snoc]
  constructor
  · rintro ((hgives | ⟨hnot, hlast⟩) | ⟨ha, hnot, hnone⟩)
    · exact Or.inl hgives
    · exact Or.inr ⟨hnot, Or.inl hlast⟩
    · exact Or.inr ⟨hnot, Or.inr ⟨ha, hnone⟩⟩
  · rintro (hgives | ⟨hnot, hlast | ⟨ha, hnone⟩⟩)
    · exact Or.inl (Or.inl hgives)
    · exact Or.inl (Or.inr ⟨hnot, hlast⟩)
    · exact Or.inr ⟨ha, hnot, hnone⟩

end

/-! ## Steps -/

namespace Session

variable {ρ δ : Type} {setup : Setup ρ δ} {session : Session ρ δ}

theorem steps_append (before later : List Step) :
    session.steps setup (before ++ later) =
      (((session.steps setup before).1.steps setup later).1,
        (session.steps setup before).2 ++
          ((session.steps setup before).1.steps setup later).2) := by
  induction before generalizing session with
  | nil => rfl
  | cons s rest ih => simp only [List.cons_append, steps, ih]

theorem steps_cons (s : Step) (later : List Step) :
    session.steps setup (s :: later) =
      (((session.step setup s).1.steps setup later).1,
        (session.step setup s).2 :: ((session.step setup s).1.steps setup later).2) := rfl

theorem reload_of_loads {answers : Answers} (h : session.file.Loads answers) :
    session.reload setup = ({ session with current := answers }, .loaded (summaryOf answers)) := by
  rw [reload, (Answers.ofFile_eq_ok_iff _).2 h]

/-- A file that does not load is a fault, and leaves everything as it was. -/
theorem reload_of_not_loads (setup : Setup ρ δ) (h : ∀ answers, ¬ session.file.Loads answers) :
    ∃ fault, session.reload setup = (session, .failed fault) := by
  cases hfile : Answers.ofFile setup.answersPath session.file with
  | ok answers => exact absurd ((Answers.ofFile_eq_ok_iff _).1 hfile) (h answers)
  | error fault => exact ⟨fault, by rw [reload, hfile]⟩

theorem reload_of_failed {fault : Fault} (h : (session.reload setup).2 = .failed fault) :
    (session.reload setup).1 = session := by
  by_cases hloads : ∃ answers, session.file.Loads answers
  · obtain ⟨answers, hanswers⟩ := hloads
    rw [reload_of_loads hanswers] at h
    cases h
  · obtain ⟨_, hreload⟩ := reload_of_not_loads setup (not_exists.1 hloads)
    rw [hreload]

/-- Whatever comes of a reload, it touches the store and nothing else. -/
theorem reload_current (setup : Setup ρ δ) (session : Session ρ δ) :
    ∃ answers, (session.reload setup).1 = { session with current := answers } := by
  by_cases hloads : ∃ answers, session.file.Loads answers
  · obtain ⟨answers, hanswers⟩ := hloads
    exact ⟨answers, by rw [reload_of_loads hanswers]⟩
  · obtain ⟨_, hreload⟩ := reload_of_not_loads setup (not_exists.1 hloads)
    exact ⟨session.current, by rw [hreload]⟩

theorem file_step (s : Step) : (session.step setup s).1.file =
    match s with
    | .write file => file
    | _ => session.file := by
  cases s with
  | reload =>
    obtain ⟨answers, hreload⟩ := session.reload_current setup
    show (session.reload setup).1.file = session.file
    rw [hreload]
  | _ => rfl

theorem held_step (s : Step) : (session.step setup s).1.held =
    match s with
    | .hold => some session.current
    | _ => session.held := by
  cases s with
  | reload =>
    obtain ⟨answers, hreload⟩ := session.reload_current setup
    show (session.reload setup).1.held = session.held
    rw [hreload]
  | _ => rfl

/-- Only a reload looks at the file. -/
theorem step_of_file (setup : Setup ρ δ) (session : Session ρ δ) {s : Step} (h : s ≠ .reload)
    (file : StoredFile) :
    ∃ file', { session with file := file }.step setup s =
      ({ (session.step setup s).1 with file := file' }, (session.step setup s).2) := by
  cases s with
  | reload => exact absurd rfl h
  | write other => exact ⟨other, rfl⟩
  | _ => exact ⟨file, rfl⟩

/-- Until the next reload nobody sees the file. -/
theorem results_of_file {later : List Step} (h : Step.reload ∉ later) (file : StoredFile) :
    ({ session with file := file }.steps setup later).2 = (session.steps setup later).2 := by
  induction later generalizing session file with
  | nil => rfl
  | cons s rest ih =>
    have hstep : s ≠ .reload := fun hs => h (hs ▸ List.mem_cons_self)
    have hrest : Step.reload ∉ rest := fun hmem => h (List.mem_cons_of_mem s hmem)
    obtain ⟨file', hfile⟩ := step_of_file setup session hstep file
    rw [steps_cons, steps_cons, hfile]
    exact congrArg ((session.step setup s).2 :: ·) (ih hrest file')

end Session

/-! ## Requests -/

inductive Request where
  | query (client : Ip) (name : String)
  | datagram (client : Ip) (bytes : List UInt8)
  | stream (client : Ip) (bytes : List UInt8) (sendFails : Bool)
deriving DecidableEq, Repr

section

variable {ρ δ : Type}

def Request.step : Request → Step
  | .query client name => .query client name
  | .datagram client bytes => .datagram client bytes
  | .stream client bytes sendFails => .stream client bytes sendFails

/-- What a service makes of a request. -/
def Request.answer (service : Service ρ δ) : Request → Act ρ δ StepResult
  | .query client name => Session.recordsResult <$> service.query client name
  | .datagram client bytes => StepResult.datagram <$> handleDatagram service client bytes
  | .stream client bytes sendFails =>
    StepResult.stream <$> handleStream service client sendFails bytes

/-- The service with a store and what is set up. -/
def Setup.serving (setup : Setup ρ δ) (answers : Answers) : Service ρ δ where
  answers := answers
  defaultTtl := setup.defaultTtl
  source := setup.source
  delegate := setup.delegate

/-- A request is answered from the current store and touches what is outside only. -/
theorem Session.step_request {setup : Setup ρ δ} {session : Session ρ δ} (request : Request) :
    session.step setup request.step =
      ({ session with
          outside := (request.answer (setup.serving session.current) session.outside).2 },
        (request.answer (setup.serving session.current) session.outside).1) := by
  cases request <;> rfl

/-- Steps that are no requests leave alone what is outside. -/
theorem Session.outside_steps (setup : Setup ρ δ) (session : Session ρ δ) {later : List Step}
    (h : ∀ request : Request, request.step ∉ later) :
    (session.steps setup later).1.outside = session.outside := by
  induction later generalizing session with
  | nil => rfl
  | cons s rest ih =>
    have hrest : ∀ request : Request, request.step ∉ rest :=
      fun request hmem => h request (List.mem_cons_of_mem s hmem)
    have hstep : (session.step setup s).1.outside = session.outside := by
      cases s with
      | reload =>
        obtain ⟨answers, hreload⟩ := session.reload_current setup
        show (session.reload setup).1.outside = session.outside
        rw [hreload]
      | query client name => exact absurd List.mem_cons_self (h (.query client name))
      | datagram client bytes => exact absurd List.mem_cons_self (h (.datagram client bytes))
      | stream client bytes sendFails =>
        exact absurd List.mem_cons_self (h (.stream client bytes sendFails))
      | _ => rfl
    rw [steps_cons]
    exact (ih _ hrest).trans hstep

/-! ## Steps that take place during a request -/

/-- A delegate that takes its time: it answers as the delegate that is set up, and while it
is at it steps take place at the server. -/
def Setup.busy (setup : Setup ρ δ) (meanwhile : DelegateCall → Session ρ δ → List Step) :
    Delegate (Session ρ δ) where
  ask call session :=
    let (answer, delegate) := setup.delegate.ask call session.outside.delegate
    let asked := { session with outside := { session.outside with delegate := delegate } }
    (answer, (asked.steps setup (meanwhile call session)).1)

/-- The service whose delegate is busy. -/
def Setup.busyServing (setup : Setup ρ δ) (meanwhile : DelegateCall → Session ρ δ → List Step)
    (answers : Answers) : Service ρ (Session ρ δ) where
  answers := answers
  defaultTtl := setup.defaultTtl
  source := setup.source
  delegate := setup.busy meanwhile

/-- What is outside of a request that goes on beside a session. -/
def beside (outside : Outside ρ (Session ρ δ)) : Outside ρ δ where
  random := outside.random
  delegate := outside.delegate.outside.delegate

/-- A request does not notice what takes place while the delegate is asked. -/
theorem imitates_busy (setup : Setup ρ δ) {meanwhile : DelegateCall → Session ρ δ → List Step}
    (h : ∀ call session (request : Request), request.step ∉ meanwhile call session)
    (answers : Answers) (request : Request) :
    Imitates beside (request.answer (setup.busyServing meanwhile answers))
      (request.answer (setup.serving answers)) := by
  have hquery : ∀ client name,
      Imitates beside ((setup.busyServing meanwhile answers).query client name)
        ((setup.serving answers).query client name) := by
    intro client name
    have hmirrors : Resolution.Mirrors beside
        ((setup.busyServing meanwhile answers).resolution (ClientKey.ofIp client))
        ((setup.serving answers).resolution (ClientKey.ofIp client)) :=
      { defaultTtl := rfl
        shuffled := fun _ _ => rfl
        asked := by
          intro fqdn outside
          have hsteps := fun call (asked : Session ρ δ) =>
            Session.outside_steps setup asked (h call outside.delegate)
          simp only [Resolution.asked, Setup.busyServing, Setup.serving, Service.resolution,
            Setup.busy, beside, hsteps] }
    exact imitates_query (hmirrors.resolve rfl (Tier.Alike.refl _) (Tier.Alike.refl _) _ _)
  cases request with
  | query client name => exact (hquery client name).map _
  | datagram client bytes => exact (imitates_handleDatagram (hquery client) bytes).map _
  | stream client bytes sendFails =>
    exact (imitates_handleStream (hquery client) sendFails bytes).map _

/-! ## Failed reloads -/

/-- A step and its result are a reload that failed. -/
def isFailedReload : Step × StepResult → Bool
  | (.reload, .failed _) => true
  | _ => false

/-- The steps with their results, the failed reloads left out. -/
def withoutFailedReloads (setup : Setup ρ δ) (session : Session ρ δ) (all : List Step) :
    List (Step × StepResult) :=
  (all.zip (session.steps setup all).2).filter fun done => !isFailedReload done

theorem step_of_isFailedReload {setup : Setup ρ δ} {session : Session ρ δ} {s : Step}
    (h : isFailedReload (s, (session.step setup s).2) = true) :
    (session.step setup s).1 = session := by
  unfold isFailedReload at h
  split at h
  · next fault hdone =>
    obtain ⟨rfl, hresult⟩ := Prod.mk.inj hdone
    exact Session.reload_of_failed hresult
  · cases h

theorem withoutFailedReloads_cons (setup : Setup ρ δ) (session : Session ρ δ) (s : Step)
    (rest : List Step) :
    withoutFailedReloads setup session (s :: rest) =
      if isFailedReload (s, (session.step setup s).2) then
        withoutFailedReloads setup (session.step setup s).1 rest
      else (s, (session.step setup s).2) ::
        withoutFailedReloads setup (session.step setup s).1 rest := by
  unfold withoutFailedReloads
  rw [Session.steps_cons, List.zip_cons_cons, List.filter_cons]
  cases isFailedReload (s, (session.step setup s).2) <;> rfl

/-- The steps that are kept come to the same without the others: a failed reload leaves the
session as it was, and the rest runs from there. -/
theorem steps_withoutFailedReloads (setup : Setup ρ δ) (session : Session ρ δ)
    (all : List Step) :
    session.steps setup ((withoutFailedReloads setup session all).map Prod.fst) =
      ((session.steps setup all).1, (withoutFailedReloads setup session all).map Prod.snd) := by
  induction all generalizing session with
  | nil => rfl
  | cons s rest ih =>
    rw [withoutFailedReloads_cons, Session.steps_cons]
    split
    · next hfailed =>
      have hsame : (session.step setup s).1 = session := step_of_isFailedReload hfailed
      rw [hsame]
      exact ih session
    · rw [List.map_cons, Session.steps_cons, ih, List.map_cons]

/-! ## Runs -/

variable {setup : Setup ρ δ} {outside : Outside ρ δ}

/-- The session after a history. -/
def after (setup : Setup ρ δ) (outside : Outside ρ δ) (history : List Step) : Session ρ δ :=
  ((Session.start outside).steps setup history).1

theorem after_snoc (history : List Step) (s : Step) :
    after setup outside (history ++ [s]) = ((after setup outside history).step setup s).1 := by
  rw [after, Session.steps_append]
  rfl

/-- What one step keeps a run keeps: if every step puts into a place what it gives, and
leaves it alone if it gives nothing, then what was given last is found there. -/
theorem latest_of_step {α : Type} {gives : List Step → Step → α → Prop} {initial : α}
    (get : Session ρ δ → α) (hstart : get (Session.start outside) = initial)
    (hstep : ∀ history s,
      (∀ b, gives history s b ↔ get ((after setup outside history).step setup s).1 = b) ∨
        (∀ b, ¬ gives history s b) ∧
          get ((after setup outside history).step setup s).1 = get (after setup outside history))
    (history : List Step) (a : α) :
    get (after setup outside history) = a ↔ Latest gives initial history a := by
  induction history using List.reverseRecOn generalizing a with
  | nil =>
    rw [latest_nil, eq_comm]
    show a = get (Session.start outside) ↔ a = initial
    rw [hstart]
  | append_singleton history s ih =>
    rw [after_snoc, latest_snoc, ← ih]
    rcases hstep history s with hgives | ⟨hnone, hsame⟩
    · rw [hgives a]
      constructor
      · exact Or.inl
      · rintro (ha | ⟨hnone, _⟩)
        · exact ha
        · exact absurd rfl (mt (hgives _).2 (hnone _))
    · rw [hsame]
      constructor
      · exact fun ha => Or.inr ⟨hnone, ha⟩
      · rintro (ha | ⟨_, ha⟩)
        · exact absurd ha (hnone a)
        · exact ha

theorem file_after (setup : Setup ρ δ) (outside : Outside ρ δ) (history : List Step)
    (file : StoredFile) :
    (after setup outside history).file = file ↔ Standing history file := by
  refine latest_of_step Session.file rfl (fun history s => ?_) history file
  rw [Session.file_step]
  cases s with
  | write other => exact Or.inl fun b => by rw [Step.write.injEq]
  | _ => exact Or.inr ⟨fun _ h => (nomatch h), rfl⟩

/-- The served store is the latest one that was loaded or put in place. -/
theorem current_after (setup : Setup ρ δ) (outside : Outside ρ δ) (history : List Step)
    (answers : Answers) :
    (after setup outside history).current = answers ↔ Generation history answers := by
  refine latest_of_step Session.current rfl (fun history s => ?_) history answers
  cases s with
  | replace other =>
    left
    intro b
    show PutsInPlace history (.replace other) b ↔ other = b
    simp [PutsInPlace]
  | reload =>
    have hputs : ∀ b, PutsInPlace history .reload b ↔
        (after setup outside history).file.Loads b := by
      intro b
      simp [PutsInPlace, ← file_after setup outside]
    by_cases hloads : ∃ loaded, (after setup outside history).file.Loads loaded
    · obtain ⟨loaded, hloaded⟩ := hloads
      left
      intro b
      show _ ↔ ((after setup outside history).reload setup).1.current = b
      rw [hputs, Session.reload_of_loads hloaded, ← Answers.ofFile_eq_ok_iff setup.answersPath,
        (Answers.ofFile_eq_ok_iff _).2 hloaded, Except.ok.injEq]
    · right
      obtain ⟨fault, hreload⟩ := Session.reload_of_not_loads setup (not_exists.1 hloads)
      refine ⟨fun b => mt (hputs b).1 (not_exists.1 hloads b), ?_⟩
      show ((after setup outside history).reload setup).1.current = _
      rw [hreload]
  | _ => exact Or.inr ⟨fun b => by simp [PutsInPlace], rfl⟩

theorem held_after (setup : Setup ρ δ) (outside : Outside ρ δ) (history : List Step)
    (held : Option Answers) :
    (after setup outside history).held = held ↔ Held history held := by
  refine latest_of_step Session.held rfl (fun history s => ?_) history held
  rw [Session.held_step]
  cases s with
  | hold =>
    left
    intro b
    simp [← current_after setup outside, eq_comm]
  | _ => exact Or.inr ⟨fun _ h => (nomatch h.1), rfl⟩

/-! ## Sessions -/

/-- What a session promises after a history. -/
structure KeepsGenerations (setup : Setup ρ δ) (outside : Outside ρ δ) (history : List Step) :
    Prop where
  /-- The served store is the latest one. -/
  current : ∀ answers,
    (after setup outside history).current = answers ↔ Generation history answers
  /-- Who holds a generation is shown that one, whatever came later. -/
  held : ∀ held,
    ((after setup outside history).step setup .askHeld).2 = .held held ↔ Held history held
  /-- Without the failed reloads the session is the same, and so are all other results. -/
  failedReloads :
    let kept := withoutFailedReloads setup (Session.start outside) history
    (Session.start outside).steps setup (kept.map Prod.fst) =
      (after setup outside history, kept.map Prod.snd)
  /-- A file that is written changes neither the store nor a result before the next
  reload. -/
  write : ∀ file later, .reload ∉ later →
    let written := ((after setup outside history).step setup (.write file)).1
    written.current = (after setup outside history).current ∧
      (written.steps setup later).2 = ((after setup outside history).steps setup later).2
  /-- A request is answered from the latest store as a whole.  It changes neither the
  stores nor the file. -/
  request : ∀ (request : Request) answers, Generation history answers →
    let session := after setup outside history
    let answered := request.answer (setup.serving answers) session.outside
    session.step setup request.step = ({ session with outside := answered.2 }, answered.1)
  /-- A request that leaves what is outside as it was changes no later result. -/
  unnoticed : ∀ (request : Request) later,
    ((after setup outside history).step setup request.step).1.outside =
        (after setup outside history).outside →
      ((after setup outside history).step setup request.step).1.steps setup later =
        (after setup outside history).steps setup later
  /-- A request is answered from the store that was the latest when it came, whatever is
  written, loaded, put in place or held while the delegate is asked. -/
  busy : ∀ (request : Request) (meanwhile : DelegateCall → Session ρ δ → List Step) answers,
    (∀ call session (other : Request), other.step ∉ meanwhile call session) →
      Generation history answers →
      let session := after setup outside history
      let answered := request.answer (setup.busyServing meanwhile answers)
        { random := session.outside.random, delegate := session }
      answered.1 = (session.step setup request.step).2 ∧
        beside answered.2 = (session.step setup request.step).1.outside

/-- A server keeps to its generations after every history. -/
theorem generations_kept (setup : Setup ρ δ) (outside : Outside ρ δ) (history : List Step) :
    KeepsGenerations setup outside history where
  current := current_after setup outside history
  held := by
    intro held
    show StepResult.held (after setup outside history).held = .held held ↔ _
    rw [StepResult.held.injEq]
    exact held_after setup outside history held
  failedReloads := steps_withoutFailedReloads setup (Session.start outside) history
  write := fun file later h => ⟨rfl, Session.results_of_file h file⟩
  request := by
    intro request answers hgeneration
    have hcurrent : (after setup outside history).current = answers :=
      (current_after setup outside history answers).2 hgeneration
    subst hcurrent
    exact Session.step_request request
  unnoticed := by
    intro request later h
    have hsame : ((after setup outside history).step setup request.step).1 =
        after setup outside history := by
      rw [Session.step_request] at h ⊢
      simp only at h
      rw [h]
    rw [hsame]
  busy := by
    intro request meanwhile answers hmeanwhile hgeneration
    have hcurrent : (after setup outside history).current = answers :=
      (current_after setup outside history answers).2 hgeneration
    subst hcurrent
    have himitates := imitates_busy setup hmeanwhile
      (after setup outside history).current request
      { random := (after setup outside history).outside.random,
        delegate := after setup outside history }
    intro session answered
    rw [Session.step_request]
    obtain ⟨hanswer, houtside⟩ := Prod.mk.inj himitates
    exact ⟨hanswer.symm, houtside.symm⟩

end

/-! ## What is noticed later -/

def portsText : String :=
  "\x7b\"default\":\x7b\"a\":\x7b\"port\":\x7b\"ttl\":60,\"answer\":[\"10.0.0.7\",\"10.0.0.8\"]\x7d\x7d\x7d\x7d"

def ports : Answers where
  clients := []
  default := some
    { resolvers := []
      addresses := [("port.", { ttl := some 60, addresses := [⟨10, 0, 0, 7⟩, ⟨10, 0, 0, 8⟩] })]
      aliases := [] }

/-- A server whose draws are written down beforehand. -/
def scriptedSetup : Setup (List Nat) Unit where
  answersPath := "answers.json"
  defaultTtl := 300
  source := IndexSource.scripted
  delegate := Delegate.canned []

/-- A query takes numbers from the source, and the same query after it is answered in
another order than without it.  A file that is written is seen by the next reload. -/
theorem later_replies_change :
    Answers.ofText portsText = .ok ports ∧
      let session : Session (List Nat) Unit :=
        after scriptedSetup { random := [0, 0], delegate := () } [.replace ports]
      let ask : Step := .query (.v4 ⟨10, 0, 0, 1⟩) "port"
      let first := Record.address "port." 60 ⟨10, 0, 0, 7⟩
      let second := Record.address "port." 60 ⟨10, 0, 0, 8⟩
      ((session.steps scriptedSetup [ask, ask]).2 =
            [.records [second, first], .records [first, second]] ∧
          (session.steps scriptedSetup [ask]).2 = [.records [second, first]]) ∧
        (session.steps scriptedSetup [.write (.unreadable "locked"), .reload, ask]).2 =
            [.done, .failed (.unreadableFile "answers.json" "locked"),
              .records [second, first]] ∧
          (session.steps scriptedSetup [.reload, ask]).2 =
            [.loaded { clients := 0, records := 0 }, .failed (.unresolved "port")] := by
  refine ⟨by decide +kernel, ⟨?_, ?_⟩, ?_, ?_⟩
  · rfl
  · rfl
  · rfl
  · rfl

end Server
end SplitHorizon
