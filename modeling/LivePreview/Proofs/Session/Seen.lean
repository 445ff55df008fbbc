import LivePreview.Session

namespace LivePreview

/-! What a host can see of a trace: everything but the log records.  Each operation of a session
adds to it a list of events that is known beforehand. -/

def Event.isSeen : Event → Bool
  | .logged _ => false
  | _ => true

def seen (trace : List Stamped) : List Stamped :=
  trace.filter fun stamped => stamped.event.isSeen

@[simp] theorem seen_append (first second : List Stamped) :
    seen (first ++ second) = seen first ++ seen second := by
  simp [seen]

theorem filterMap_seen {f : Stamped → Option α}
    (silent : ∀ time part record, f ⟨time, part, .logged record⟩ = none) (trace : List Stamped) :
    (seen trace).filterMap f = trace.filterMap f := by
  rw [seen, List.filterMap_filter]
  congr 1
  funext stamped
  obtain ⟨time, part, event⟩ := stamped
  cases event with
  | logged record => exact (silent time part record).symm
  | sent | called | accepted | begun => rfl

theorem append_eq_append_cons {trace chunk before after : List α} {element : α}
    (split : trace ++ chunk = before ++ element :: after) :
    (∃ within, before = trace ++ within ∧ chunk = within ++ element :: after) ∨
      ∃ earlier, trace = before ++ element :: earlier ∧ after = earlier ++ chunk := by
  rcases List.append_eq_append_iff.mp split with ⟨within, rfl, rest⟩ | ⟨earlier, rfl, rest⟩
  · exact .inl ⟨within, rfl, rest⟩
  · cases earlier with
    | nil => exact .inl ⟨[], by simp, rest.symm⟩
    | cons first earlier =>
        cases rest
        exact .inr ⟨earlier, rfl, rfl⟩

namespace Session

variable {σ : Type u} {α : Type v} {before middle after session : Session σ}

def stamp (session : Session σ) (event : Event) : Stamped :=
  ⟨session.now, session.part, event⟩

/-- The part that is running has brought about the events, at this very moment. -/
structure Adds (before after : Session σ) (events : List Event) : Prop where
  seen : seen after.trace = seen before.trace ++ events.map before.stamp
  now : after.now = before.now
  part : after.part = before.part

theorem Adds.stamp (adds : Adds before after events) : after.stamp = before.stamp := by
  funext event
  simp only [Session.stamp, adds.now, adds.part]

theorem Adds.trans (first : Adds before middle events) (second : Adds middle after others) :
    Adds before after (events ++ others) where
  seen := by
    rw [second.seen, first.seen, first.stamp, List.map_append, List.append_assoc]
  now := second.now.trans first.now
  part := second.part.trans first.part

theorem adds_of_trace_eq (trace : after.trace = before.trace) (now : after.now = before.now)
    (part : after.part = before.part) : Adds before after [] where
  seen := by rw [trace, List.map_nil, List.append_nil]
  now := now
  part := part

theorem adds_nil (session : Session σ) : Adds session session [] :=
  adds_of_trace_eq rfl rfl rfl

theorem adds_note (session : Session σ) {event : Event} (visible : event.isSeen = true) :
    Adds session (session.note event) [event] where
  seen := by simp [note, LivePreview.seen, visible, Session.stamp]
  now := rfl
  part := rfl

theorem adds_send (session : Session σ) (message : Outbound) :
    Adds session (session.send message) [.sent message] :=
  adds_note session rfl

theorem adds_log (session : Session σ) (record : LogRecord) :
    Adds session (session.log record) [] := by
  unfold log
  split
  · exact ⟨by simp [note, LivePreview.seen, Event.isSeen], rfl, rfl⟩
  · exact adds_nil session

theorem adds_logAll (session : Session σ) (records : List LogRecord) :
    Adds session (session.logAll records) [] := by
  induction records generalizing session with
  | nil => exact adds_nil session
  | cons record rest ih => exact (adds_log session record).trans (ih _)

theorem adds_take (session : Session σ) (answer : Answer σ α) :
    Adds session (session.take answer) [] := by
  have moved : Adds session { session with host := answer.host } [] :=
    adds_of_trace_eq rfl rfl rfl
  exact moved.trans (adds_logAll _ answer.records)

theorem adds_ask (session : Session σ) (call : Call) (answer : σ → Answer σ α) :
    Adds session (session.ask call answer).2 [.called call] :=
  (adds_note session rfl).trans (adds_take _ _)

theorem adds_applyLevel (session : Session σ) (control : LogControl) (level : LogLevel) :
    Adds session (session.applyLevel control level) [] := by
  have levelled : Adds session { session with level := (control.apply session.level level).1 } [] :=
    adds_of_trace_eq rfl rfl rfl
  exact levelled.trans (adds_logAll _ _)

def reportOf (failure : Failure) : Outbound :=
  .action (Report.ofFailure failure).action

theorem adds_report (session : Session σ) (failure : Failure) :
    Adds session (session.report failure) [.sent (reportOf failure)] :=
  (adds_log session _).trans (adds_send _ _)

theorem adds_raise (session : Session σ) (event : ProgramEvent) :
    Adds session (session.raise event) (event.message?.toList.map .sent) := by
  cases event with
  | error raised => exact (adds_log session _).trans (adds_send _ _)
  | console log =>
      cases log with
      | nil => exact adds_nil session
      | cons entry rest => exact adds_send session _

/-- The height that a measurement would set down. -/
def newHeight? (document : Document σ) (session : Session σ) : Option UInt32 :=
  match document.height session.host with
  | .ok (some height) => if session.shown = some height then none else some height
  | _ => none

theorem newHeight?_of_crash {document : Document σ} {note : Option String}
    (crashes : (document.height session.host).crash? = some note) :
    session.newHeight? document = none := by
  unfold newHeight?
  cases measured : document.height session.host with
  | crashed note => rfl
  | failed failure => rfl
  | ok height => simp [measured, Outcome.crash?] at crashes

theorem findHeight_eq (document : Document σ) (session : Session σ) :
    session.findHeight document =
      (match (document.height session.host).crash? with
        | some note => .crashed note
        | none => .ok (session.newHeight? document),
      { session with shown := (session.newHeight? document).or session.shown }) := by
  unfold findHeight newHeight?
  cases document.height session.host with
  | crashed note => rfl
  | failed failure => rfl
  | ok measured =>
      cases measured with
      | none => rfl
      | some height =>
          by_cases same : session.shown = some height
          · simp only [same, if_true, Outcome.crash?, Option.none_or]
            rw [← same]
          · simp [same, Outcome.crash?]

theorem crash?_findHeight (document : Document σ) (session : Session σ) :
    (session.findHeight document).1.crash? = (document.height session.host).crash? := by
  rw [findHeight_eq]
  cases crashes : (document.height session.host).crash? with
  | none => rfl
  | some note => rfl

theorem adds_findHeight (document : Document σ) (session : Session σ) :
    Adds session (session.findHeight document).2 [] := by
  rw [findHeight_eq]
  exact adds_of_trace_eq rfl rfl rfl

theorem adds_reportHeight (session : Session σ) (height : UInt32) :
    Adds session (session.reportHeight height) [.sent (.resize height)] :=
  (adds_log session _).trans (adds_send _ _)

theorem adds_checkHeight (document : Document σ) (session : Session σ) :
    Adds session (session.checkHeight document).2
      ((session.newHeight? document).toList.map fun height => .sent (.resize height)) := by
  have set : Adds session { session with
      shown := (session.newHeight? document).or session.shown } [] :=
    adds_of_trace_eq rfl rfl rfl
  unfold checkHeight
  rw [findHeight_eq]
  cases crashes : (document.height session.host).crash? with
  | some note =>
      rw [newHeight?_of_crash crashes] at set ⊢
      exact set
  | none =>
      cases found : session.newHeight? document with
      | none =>
          rw [found] at set
          exact set
      | some height =>
          rw [found] at set
          exact set.trans (adds_reportHeight _ height)

def memory (session : Session σ) : Bool × Option ReadyPreset :=
  (session.firstLoad, session.ready)

theorem firstLoad_of_memory (same : after.memory = before.memory) :
    after.firstLoad = before.firstLoad :=
  congrArg Prod.fst same

theorem ready_of_memory (same : after.memory = before.memory) : after.ready = before.ready :=
  congrArg Prod.snd same

@[simp] theorem memory_note (session : Session σ) (event : Event) :
    (session.note event).memory = session.memory := rfl

@[simp] theorem memory_send (session : Session σ) (message : Outbound) :
    (session.send message).memory = session.memory := rfl

@[simp] theorem memory_log (session : Session σ) (record : LogRecord) :
    (session.log record).memory = session.memory := by
  unfold log
  split <;> rfl

@[simp] theorem memory_logAll (session : Session σ) (records : List LogRecord) :
    (session.logAll records).memory = session.memory := by
  induction records generalizing session with
  | nil => rfl
  | cons record rest ih => exact (ih _).trans (memory_log session record)

@[simp] theorem memory_take (session : Session σ) (answer : Answer σ α) :
    (session.take answer).memory = session.memory :=
  memory_logAll _ _

@[simp] theorem memory_ask (session : Session σ) (call : Call) (answer : σ → Answer σ α) :
    (session.ask call answer).2.memory = session.memory :=
  memory_logAll _ _

@[simp] theorem memory_applyLevel (session : Session σ) (control : LogControl)
    (level : LogLevel) : (session.applyLevel control level).memory = session.memory :=
  memory_logAll _ _

@[simp] theorem memory_report (session : Session σ) (failure : Failure) :
    (session.report failure).memory = session.memory :=
  memory_log session _

@[simp] theorem memory_findHeight (document : Document σ) (session : Session σ) :
    (session.findHeight document).2.memory = session.memory := by
  rw [findHeight_eq]
  rfl

@[simp] theorem memory_reportHeight (session : Session σ) (height : UInt32) :
    (session.reportHeight height).memory = session.memory :=
  memory_log session _

@[simp] theorem memory_checkHeight (document : Document σ) (session : Session σ) :
    (session.checkHeight document).2.memory = session.memory := by
  simp only [checkHeight]
  split <;> simp

@[simp] theorem memory_raise (session : Session σ) (event : ProgramEvent) :
    (session.raise event).memory = session.memory := by
  unfold raise
  cases event with
  | error raised => exact memory_log session _
  | console log => cases log <;> rfl

end Session

end LivePreview
