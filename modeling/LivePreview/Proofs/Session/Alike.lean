import LivePreview.Proofs.Session.Said

namespace LivePreview

/-! Two sessions that only the clock tells apart, and the past, and the level perhaps.  What is done
to both of them alike leaves them alike, whatever heights their pollers report. -/

/-- Told to the host by what it asked for: no record, and no height. -/
def Event.isTold : Event → Bool
  | .logged _ | .sent (.resize _) => false
  | _ => true

def told (trace : List Stamped) : List (Nat × Event) :=
  trace.filterMap fun stamped =>
    if stamped.event.isTold then some (stamped.time, stamped.event) else none

@[simp] theorem told_append (first second : List Stamped) :
    told (first ++ second) = told first ++ told second := by
  simp [told]

theorem told_singleton (time : Nat) (part : Part) {event : Event} (isTold : event.isTold = true) :
    told [⟨time, part, event⟩] = [(time, event)] := by
  simp [told, isTold]

theorem told_untold (time : Nat) (part : Part) {event : Event} (untold : event.isTold = false) :
    told [⟨time, part, event⟩] = [] := by
  simp [told, untold]

theorem told_seen (trace : List Stamped) : told (seen trace) = told trace :=
  filterMap_seen (fun _ _ _ => rfl) trace

/-- How far apart two runs are: what the first has behind it when they are compared, and what the
second has. -/
structure Apart where
  delay : Nat
  /-- How many more values have been scheduled. -/
  offset : UInt64
  past : List (Nat × Event)
  first : List (Nat × Event)
  /-- Whether their levels are compared as well. -/
  levels : Prop

def Apart.later (apart : Apart) (events : List (Nat × Event)) : List (Nat × Event) :=
  events.map fun event => (event.1 + apart.delay, event.2)

namespace Session

variable {σ : Type u} {α : Type v} {apart : Apart} {before after old fresh : Session σ}

/-- Nothing has changed that a cycle depends on. -/
structure Quiet (before after : Session σ) : Prop where
  now : after.now = before.now
  host : after.host = before.host
  level : after.level = before.level
  firstLoad : after.firstLoad = before.firstLoad
  ready : after.ready = before.ready
  told : told after.trace = told before.trace

theorem quiet_refl (session : Session σ) : Quiet session session :=
  ⟨rfl, rfl, rfl, rfl, rfl, rfl⟩

theorem Quiet.trans {middle : Session σ} (first : Quiet before middle)
    (second : Quiet middle after) : Quiet before after where
  now := second.now.trans first.now
  host := second.host.trans first.host
  level := second.level.trans first.level
  firstLoad := second.firstLoad.trans first.firstLoad
  ready := second.ready.trans first.ready
  told := second.told.trans first.told

theorem quiet_note (session : Session σ) {event : Event} (untold : event.isTold = false) :
    Quiet session (session.note event) :=
  ⟨rfl, rfl, rfl, rfl, rfl, by
    rw [trace_note, told_append, told_untold _ _ untold, List.append_nil]⟩

theorem quiet_log (session : Session σ) (record : LogRecord) :
    Quiet session (session.log record) := by
  unfold log
  split
  · exact quiet_note session rfl
  · exact quiet_refl session

theorem quiet_logAll (session : Session σ) (records : List LogRecord) :
    Quiet session (session.logAll records) := by
  induction records generalizing session with
  | nil => exact quiet_refl session
  | cons record rest ih => exact (quiet_log session record).trans (ih _)

theorem quiet_handTo (session : Session σ) (part : Part) : Quiet session (session.handTo part) :=
  ⟨rfl, rfl, rfl, rfl, rfl, rfl⟩

theorem quiet_stopPolling (session : Session σ) : Quiet session session.stopPolling :=
  ⟨rfl, rfl, rfl, rfl, rfl, rfl⟩

theorem quiet_findHeight (document : Document σ) (session : Session σ) :
    Quiet session (session.findHeight document).2 := by
  rw [findHeight_eq]
  exact ⟨rfl, rfl, rfl, rfl, rfl, rfl⟩

theorem quiet_reportHeight (session : Session σ) (height : UInt32) :
    Quiet session (session.reportHeight height) :=
  (quiet_log session _).trans (quiet_note _ rfl)

theorem quiet_checkHeight (document : Document σ) (session : Session σ) :
    Quiet session (session.checkHeight document).2 := by
  have found := quiet_findHeight document session
  simp only [checkHeight]
  split
  · exact found
  · exact found
  · exact found
  · exact found.trans (quiet_reportHeight _ _)

theorem Polled.quiet {heights : List UInt32} (polled : Polled before after heights) :
    Quiet before after where
  now := polled.now
  host := polled.host
  level := polled.level
  firstLoad := firstLoad_of_memory polled.memory
  ready := ready_of_memory polled.memory
  told := by
    have untold : told (heights.map fun height =>
        (⟨before.now, .poller, .sent (.resize height)⟩ : Stamped)) = [] := by
      simp [told, Event.isTold]
    rw [← told_seen, polled.seen, told_append, untold, told_seen, List.append_nil]

/-- The first session is as far on as the second, and has told as much since they are compared. -/
structure Alike (apart : Apart) (old fresh : Session σ) : Prop where
  now : old.now = fresh.now + apart.delay
  host : old.host = fresh.host
  level : apart.levels → old.level = fresh.level
  firstLoad : old.firstLoad = fresh.firstLoad
  ready : old.ready = fresh.ready
  told : ∃ events, told old.trace = apart.past ++ apart.later events ∧
    told fresh.trace = apart.first ++ events

theorem Alike.quiet (alike : Alike apart old fresh) (left : Quiet old before)
    (right : Quiet fresh after) : Alike apart before after where
  now := by rw [left.now, right.now, alike.now]
  host := by rw [left.host, right.host, alike.host]
  level same := by rw [left.level, right.level, alike.level same]
  firstLoad := by rw [left.firstLoad, right.firstLoad, alike.firstLoad]
  ready := by rw [left.ready, right.ready, alike.ready]
  told := by
    obtain ⟨events, toldOld, toldFresh⟩ := alike.told
    exact ⟨events, left.told.trans toldOld, right.told.trans toldFresh⟩

theorem Alike.note (alike : Alike apart old fresh) (event : Event) :
    Alike apart (old.note event) (fresh.note event) where
  now := alike.now
  host := alike.host
  level := alike.level
  firstLoad := alike.firstLoad
  ready := alike.ready
  told := by
    obtain ⟨events, toldOld, toldFresh⟩ := alike.told
    cases isTold : event.isTold with
    | true =>
        refine ⟨events ++ [(fresh.now, event)], ?_, ?_⟩
        · simp only [trace_note, told_append, told_singleton _ _ isTold, toldOld, alike.now,
            Apart.later, List.map_append, List.map_cons, List.map_nil, List.append_assoc]
        · simp only [trace_note, told_append, told_singleton _ _ isTold, toldFresh,
            List.append_assoc]
    | false =>
        refine ⟨events, ?_, ?_⟩
        · rw [(quiet_note old isTold).told, toldOld]
        · rw [(quiet_note fresh isTold).told, toldFresh]

theorem Alike.send (alike : Alike apart old fresh) (message : Outbound) :
    Alike apart (old.send message) (fresh.send message) :=
  alike.note _

theorem Alike.log (alike : Alike apart old fresh) (record other : LogRecord) :
    Alike apart (old.log record) (fresh.log other) :=
  alike.quiet (quiet_log old record) (quiet_log fresh other)

theorem Alike.logAll (alike : Alike apart old fresh) (records others : List LogRecord) :
    Alike apart (old.logAll records) (fresh.logAll others) :=
  alike.quiet (quiet_logAll old records) (quiet_logAll fresh others)

theorem Alike.handTo (alike : Alike apart old fresh) (part other : Part) :
    Alike apart (old.handTo part) (fresh.handTo other) :=
  alike.quiet (quiet_handTo old part) (quiet_handTo fresh other)

theorem Alike.take (alike : Alike apart old fresh) (answer : Answer σ α) :
    Alike apart (old.take answer) (fresh.take answer) := by
  have moved : Alike apart { old with host := answer.host } { fresh with host := answer.host } :=
    ⟨alike.now, rfl, alike.level, alike.firstLoad, alike.ready, alike.told⟩
  exact moved.logAll answer.records answer.records

theorem Alike.applyLevel (alike : Alike apart old fresh) (control : LogControl) (level : LogLevel) :
    Alike apart (old.applyLevel control level) (fresh.applyLevel control level) := by
  have levelled : Alike apart { old with level := (control.apply old.level level).1 }
      { fresh with level := (control.apply fresh.level level).1 } := by
    refine ⟨alike.now, alike.host, fun same => ?_, alike.firstLoad, alike.ready, alike.told⟩
    exact congrArg (fun before => (control.apply before level).1) (alike.level same)
  exact levelled.logAll _ _

theorem Alike.ask (alike : Alike apart old fresh) (call : Call) (answer : σ → Answer σ α) :
    (old.ask call answer).1 = (fresh.ask call answer).1 ∧
      Alike apart (old.ask call answer).2 (fresh.ask call answer).2 := by
  simp only [Session.ask, alike.host]
  exact ⟨trivial, (alike.note _).take _⟩

theorem Alike.findHeight (alike : Alike apart old fresh) (document : Document σ) :
    (old.findHeight document).1.crash? = (fresh.findHeight document).1.crash? ∧
      Alike apart (old.findHeight document).2 (fresh.findHeight document).2 := by
  refine ⟨?_, alike.quiet (quiet_findHeight document old) (quiet_findHeight document fresh)⟩
  rw [crash?_findHeight, crash?_findHeight, alike.host]

theorem Alike.report (alike : Alike apart old fresh) (failure : Failure) :
    Alike apart (old.report failure) (fresh.report failure) :=
  (alike.log _ _).send _

theorem Alike.raise (alike : Alike apart old fresh) (event : ProgramEvent) :
    Alike apart (old.raise event) (fresh.raise event) := by
  unfold Session.raise
  cases event with
  | error raised => exact (alike.log _ _).send _
  | console log =>
      cases log with
      | nil => exact alike
      | cons entry rest => exact alike.send _

theorem Alike.tick (alike : Alike apart old fresh) : Alike apart old.tick fresh.tick :=
  ⟨by simp only [Session.tick, alike.now]; omega, alike.host, alike.level, alike.firstLoad,
    alike.ready, alike.told⟩

end Session

end LivePreview
