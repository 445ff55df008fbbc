import LivePreview.Loading
import LivePreview.Proofs.Session.Said

namespace LivePreview

namespace Session

variable {σ : Type u} {α : Type v} {first second : Session σ} {one other : List Stamped}

/-! The past of a session.  Nothing looks back on it: with more behind it a session does the same,
and answers the same. -/

/-- The session, had all this happened before. -/
def withPast (past : List Stamped) (session : Session σ) : Session σ :=
  { session with trace := past ++ session.trace }

section

variable (past : List Stamped) (session : Session σ)

@[simp] theorem now_withPast : (session.withPast past).now = session.now := rfl

@[simp] theorem host_withPast : (session.withPast past).host = session.host := rfl

@[simp] theorem level_withPast : (session.withPast past).level = session.level := rfl

@[simp] theorem shown_withPast : (session.withPast past).shown = session.shown := rfl

@[simp] theorem firstLoad_withPast : (session.withPast past).firstLoad = session.firstLoad := rfl

@[simp] theorem ready_withPast : (session.withPast past).ready = session.ready := rfl

@[simp] theorem handTo_withPast (part : Part) :
    (session.withPast past).handTo part = (session.handTo part).withPast past := rfl

@[simp] theorem note_withPast (event : Event) :
    (session.withPast past).note event = (session.note event).withPast past := by
  simp [withPast, note]

@[simp] theorem send_withPast (message : Outbound) :
    (session.withPast past).send message = (session.send message).withPast past :=
  note_withPast past session _

@[simp] theorem log_withPast (record : LogRecord) :
    (session.withPast past).log record = (session.log record).withPast past := by
  unfold log
  rw [level_withPast]
  split
  · exact note_withPast past session _
  · rfl

@[simp] theorem logAll_withPast (records : List LogRecord) :
    (session.withPast past).logAll records = (session.logAll records).withPast past := by
  induction records generalizing session with
  | nil => rfl
  | cons record rest ih =>
      simp only [logAll, List.foldl_cons, log_withPast] at ih ⊢
      exact ih _

@[simp] theorem take_withPast (answer : Answer σ α) :
    (session.withPast past).take answer = (session.take answer).withPast past :=
  logAll_withPast past { session with host := answer.host } answer.records

@[simp] theorem ask_withPast (call : Call) (answer : σ → Answer σ α) :
    (session.withPast past).ask call answer =
      ((session.ask call answer).1, (session.ask call answer).2.withPast past) := by
  simp only [ask, host_withPast, note_withPast, take_withPast]

@[simp] theorem applyLevel_withPast (control : LogControl) (level : LogLevel) :
    (session.withPast past).applyLevel control level =
      (session.applyLevel control level).withPast past :=
  logAll_withPast past { session with level := (control.apply session.level level).1 } _

@[simp] theorem report_withPast (failure : Failure) :
    (session.withPast past).report failure = (session.report failure).withPast past := by
  simp only [report, log_withPast, send_withPast]

@[simp] theorem raise_withPast (event : ProgramEvent) :
    (session.withPast past).raise event = (session.raise event).withPast past := by
  cases event with
  | error raised => simp only [raise, ProgramEvent.message?, log_withPast, send_withPast]
  | console log =>
      cases log with
      | nil => rfl
      | cons entry rest => simp only [raise, ProgramEvent.message?, send_withPast]

@[simp] theorem findHeight_withPast (document : Document σ) :
    (session.withPast past).findHeight document =
      ((session.findHeight document).1, (session.findHeight document).2.withPast past) := by
  rw [findHeight_eq, findHeight_eq]
  rfl

@[simp] theorem reportHeight_withPast (height : UInt32) :
    (session.withPast past).reportHeight height = (session.reportHeight height).withPast past := by
  simp only [reportHeight, log_withPast, send_withPast]

theorem pollHeight_withPast (document : Document σ) :
    (session.withPast past).pollHeight document = (session.pollHeight document).withPast past := by
  cases due : session.polls with
  | false =>
      have resting : (session.withPast past).polls = false := due
      rw [pollHeight_of_not_polls document due, pollHeight_of_not_polls document resting]
  | true =>
      obtain ⟨poller, given, _, polled⟩ := pollHeight_of_polls document due
      have dueToo : (session.withPast past).polls = true := due
      obtain ⟨other, same, _, others⟩ := pollHeight_of_polls document dueToo
      obtain rfl : poller = other := Option.some.inj (given.symm.trans same)
      rw [polled, others]
      rfl

theorem reportFound_withPast :
    (session.withPast past).reportFound = session.reportFound.withPast past := by
  unfold reportFound
  rw [show (session.withPast past).unreported = session.unreported from rfl]
  cases session.unreported with
  | none => rfl
  | some height =>
      exact congrArg (handTo · session.part)
        (reportHeight_withPast past { session.handTo .poller with unreported := none } height)

theorem poll_withPast (document : Document σ) :
    (session.withPast past).poll document = (session.poll document).withPast past := by
  unfold poll
  rw [show (session.withPast past).unreported = session.unreported from rfl]
  cases session.unreported with
  | none => exact pollHeight_withPast past session document
  | some height => exact reportFound_withPast past session

theorem pollOn_withPast (document : Document σ) :
    (session.withPast past).pollOn document = (session.pollOn document).withPast past := by
  simp only [pollOn, reportFound_withPast, pollHeight_withPast]

end

section

variable (session : Session σ) (part : Part) (document : Document σ)

theorem pollHeight_handTo :
    (session.handTo part).pollHeight document = (session.pollHeight document).handTo part := by
  cases due : session.polls with
  | false =>
      have resting : (session.handTo part).polls = false := due
      rw [pollHeight_of_not_polls document due, pollHeight_of_not_polls document resting]
  | true =>
      obtain ⟨poller, given, _, polled⟩ := pollHeight_of_polls document due
      have dueToo : (session.handTo part).polls = true := due
      obtain ⟨other, same, _, others⟩ := pollHeight_of_polls document dueToo
      obtain rfl : poller = other := Option.some.inj (given.symm.trans same)
      rw [polled, others]
      rfl

theorem reportFound_handTo :
    (session.handTo part).reportFound = session.reportFound.handTo part := by
  unfold reportFound
  rw [show (session.handTo part).unreported = session.unreported from rfl]
  cases session.unreported with
  | none => rfl
  | some height => rfl

theorem poll_handTo :
    (session.handTo part).poll document = (session.poll document).handTo part := by
  unfold poll
  rw [show (session.handTo part).unreported = session.unreported from rfl]
  cases session.unreported with
  | none => exact pollHeight_handTo session part document
  | some height => exact reportFound_handTo session part

theorem pollOn_handTo :
    (session.handTo part).pollOn document = (session.pollOn document).handTo part := by
  simp only [pollOn, reportFound_handTo, pollHeight_handTo]

end

/-- What a step does, and what it answers, does not depend on the past. -/
def Forgetful (step : Session σ → α × Session σ) : Prop :=
  ∀ past session, step (session.withPast past) =
    ((step session).1, (step session).2.withPast past)

theorem forgetful_endPreset (preset : Preset) (outcome : Outcome TransformerSet) :
    Forgetful (σ := σ) (endPreset preset outcome) := by
  intro past session
  cases outcome with
  | ok transformers => simp only [endPreset, log_withPast]
  | failed failure => rfl
  | crashed note => rfl

theorem forgetful_beginLoads (backend : Backend σ) (preset : Preset) (names : List String) :
    Forgetful (beginLoads backend preset names) := by
  induction names with
  | nil => exact fun _ _ => rfl
  | cons name rest ih =>
      intro past session
      simp only [beginLoads, log_withPast, ask_withPast]
      split
      · rfl
      · simp only [ih past]

/-- All that a session is now, whoever is running. -/
def present (session : Session σ) : Session σ :=
  { session with part := .caller, trace := [] }

theorem present_log (session : Session σ) (record : LogRecord) :
    (session.log record).present = session.present := by
  unfold log
  split <;> rfl

theorem present_logAll (session : Session σ) (records : List LogRecord) :
    (session.logAll records).present = session.present := by
  induction records generalizing session with
  | nil => rfl
  | cons record rest ih => exact (ih _).trans (present_log session record)

/-- The two have told the same, but for the pasts that they began with. -/
structure Abreast (one other : List Stamped) (first second : Session σ) : Prop where
  present : first.present = second.present
  told : ∃ rest, seen first.trace = one ++ rest ∧ seen second.trace = other ++ rest

namespace Abreast

theorem now (abreast : Abreast one other first second) : first.now = second.now :=
  congrArg (·.now) abreast.present

theorem host (abreast : Abreast one other first second) : first.host = second.host :=
  congrArg (·.host) abreast.present

theorem level (abreast : Abreast one other first second) : first.level = second.level :=
  congrArg (·.level) abreast.present

theorem handTo (abreast : Abreast one other first second) (part next : Part) :
    Abreast one other (first.handTo part) (second.handTo next) :=
  ⟨abreast.present, abreast.told⟩

theorem step (abreast : Abreast one other first second) (step : Session σ → α × Session σ)
    (part : first.part = second.part) (forgetful : Forgetful step) :
    (step first).1 = (step second).1 ∧ Abreast one other (step first).2 (step second).2 := by
  let core : Session σ := first.present.handTo first.part
  have left : first = core.withPast first.trace := by
    simp [core, withPast, Session.present, Session.handTo]
  have right : second = core.withPast second.trace := by
    simp only [core, abreast.present, part]
    simp [withPast, Session.present, Session.handTo]
  obtain ⟨rest, tellsFirst, tellsSecond⟩ := abreast.told
  rw [left, right, forgetful, forgetful]
  refine ⟨rfl, rfl, rest ++ seen (step core).2.trace, ?_, ?_⟩
  · simp only [withPast, seen_append, tellsFirst, List.append_assoc]
  · simp only [withPast, seen_append, tellsSecond, List.append_assoc]

theorem apply (abreast : Abreast one other first second) (change : Session σ → Session σ)
    (part : first.part = second.part)
    (forgets : ∀ past session,
      change (session.withPast past) = (change session).withPast past) :
    Abreast one other (change first) (change second) :=
  (abreast.step (fun session => ((), change session)) part
    (fun past session => congrArg (Prod.mk ()) (forgets past session))).2

theorem tick (abreast : Abreast one other first second) :
    Abreast one other first.tick second.tick :=
  ⟨congrArg Session.tick abreast.present, abreast.told⟩

theorem poll (abreast : Abreast one other first second) (document : Document σ) :
    Abreast one other (first.poll document) (second.poll document) := by
  have polled := (abreast.handTo .caller .caller).apply (·.poll document) rfl
    fun past session => poll_withPast past session document
  rw [poll_handTo, poll_handTo] at polled
  exact ⟨polled.present, polled.told⟩

theorem pollOn (abreast : Abreast one other first second) (document : Document σ) :
    Abreast one other (first.pollOn document) (second.pollOn document) := by
  have polled := (abreast.handTo .caller .caller).apply (·.pollOn document) rfl
    fun past session => pollOn_withPast past session document
  rw [pollOn_handTo, pollOn_handTo] at polled
  exact ⟨polled.present, polled.told⟩

theorem logAll (abreast : Abreast one other first second) (records others : List LogRecord) :
    Abreast one other (first.logAll records) (second.logAll others) := by
  obtain ⟨rest, tellsFirst, tellsSecond⟩ := abreast.told
  refine ⟨?_, rest, ?_, ?_⟩
  · rw [present_logAll, present_logAll, abreast.present]
  · rw [(adds_logAll first records).seen, List.map_nil, List.append_nil, tellsFirst]
  · rw [(adds_logAll second others).seen, List.map_nil, List.append_nil, tellsSecond]

end Abreast

end Session

end LivePreview
