import LivePreview.Proofs.Session.Alike
import Mathlib.Data.List.Destutter

namespace LivePreview

/-! The heights that a host is told of.  A measurement sets down a height that is not the one set
down last, whoever has measured it reports it, and nothing else reports any. -/

section Changes

variable {α : Type u} [DecidableEq α]

theorem destutter'_concat (first last : α) (values : List α) :
    (values ++ [last]).destutter' (· ≠ ·) first =
      values.destutter' (· ≠ ·) first ++
        if (first :: values).getLast? = some last then [] else [last] := by
  induction values generalizing first with
  | nil => by_cases same : first = last <;> simp [same]
  | cons value rest ih =>
      by_cases same : first = value
      · subst same
        simp [ih]
      · simp [same, ih]

theorem destutter_concat (values : List α) (last : α) :
    (values ++ [last]).destutter (· ≠ ·) =
      values.destutter (· ≠ ·) ++ if values.getLast? = some last then [] else [last] := by
  cases values with
  | nil => simp
  | cons first rest => exact destutter'_concat first last rest

theorem getLast?_destutter (values : List α) :
    (values.destutter (· ≠ ·)).getLast? = values.getLast? := by
  induction values using List.reverseRecOn with
  | nil => rfl
  | append_singleton rest last ih =>
      rw [destutter_concat, List.getLast?_concat]
      split
      next same => rw [List.append_nil, ih, same]
      next => exact List.getLast?_concat ..

end Changes

def Event.height? : Event → Option UInt32
  | .sent (.resize height) => some height
  | _ => none

/-- The heights reported, in order. -/
def heights (trace : List Stamped) : List UInt32 :=
  trace.filterMap fun stamped => stamped.event.height?

@[simp] theorem heights_append (first second : List Stamped) :
    heights (first ++ second) = heights first ++ heights second :=
  List.filterMap_append ..

theorem heights_seen (trace : List Stamped) : heights (seen trace) = heights trace :=
  filterMap_seen (fun _ _ _ => rfl) trace

theorem heights_map (time : Nat) (part : Part) (values : List UInt32) :
    heights (values.map fun height => ⟨time, part, .sent (.resize height)⟩) = values := by
  rw [heights, List.filterMap_map]
  exact List.filterMap_some ..

/-- Where heights stand among what a worker does: right after the evaluation of a program, and right
before the success of that. -/
def Placed (events : List Event) : Prop :=
  ∀ before height after, events = before ++ .sent (.resize height) :: after →
    (∃ program earlier, before = earlier ++ [.called (.evaluate program)]) ∧
      ∃ later, after = .sent .success :: later

theorem placed_nil : Placed [] := by
  rintro before height after split
  cases before <;> cases split

theorem Placed.append {events others : List Event} (placed : Placed events)
    (silent : ∀ event ∈ others, event.height? = none) : Placed (events ++ others) := by
  intro before height after split
  rcases append_eq_append_cons split with ⟨within, _, rfl⟩ | ⟨within, rfl, rfl⟩
  · cases silent (.sent (.resize height)) (by simp)
  · obtain ⟨evaluated, later, rfl⟩ := placed before height within rfl
    exact ⟨evaluated, later ++ others, rfl⟩

theorem Placed.reports {events earlier rest : List Event} {program : Program}
    (placed : Placed events)
    (evaluated : events = earlier ++ [.called (.evaluate program)]) (height : UInt32)
    (silent : ∀ event ∈ rest, event.height? = none) :
    Placed (events ++ .sent (.resize height) :: .sent .success :: rest) := by
  intro before other after split
  rcases append_eq_append_cons split with ⟨within, rfl, there⟩ | ⟨within, rfl, rfl⟩
  · rcases within with _ | ⟨resize, _ | ⟨success, within⟩⟩
    · cases there
      exact ⟨⟨program, earlier, by simpa using evaluated⟩, rest, rfl⟩
    · cases there
    · cases there
      cases silent (.sent (.resize other)) (by simp)
  · obtain ⟨before, later, rfl⟩ := placed before other within rfl
    exact ⟨before, _, rfl⟩

/-- The height of the document, when it can be measured. -/
def Document.measured? (document : Document σ) (host : σ) : Option UInt32 :=
  match document.height host with
  | .ok height => height
  | .failed _ | .crashed _ => none

theorem Document.measured?_of_crash {document : Document σ} {host : σ} {note : Option String}
    (crashes : (document.height host).crash? = some note) : document.measured? host = none := by
  unfold Document.measured?
  cases height : document.height host with
  | ok measured => simp [height, Outcome.crash?] at crashes
  | failed failure => rfl
  | crashed note => rfl

/-- A height that has been found, unless it is the one set down already. -/
def newly (shown found : Option UInt32) : Option UInt32 :=
  found.filter fun height => shown ≠ some height

@[simp] theorem newly_none (shown : Option UInt32) : newly shown none = none := rfl

theorem or_newly (shown found : Option UInt32) : (newly shown found).or shown = found.or shown := by
  unfold newly
  cases found with
  | none => rfl
  | some height => by_cases same : shown = some height <;> simp [same, Option.filter]

theorem destutter_append_newly (values : List UInt32) (found : Option UInt32) :
    (values ++ found.toList).destutter (· ≠ ·) =
      values.destutter (· ≠ ·) ++ (newly values.getLast? found).toList := by
  cases found with
  | none => simp
  | some height =>
      rw [Option.toList_some, destutter_concat]
      by_cases same : values.getLast? = some height <;> simp [newly, same, Option.filter]

namespace Session

variable {σ : Type u} {α : Type v} {before middle after session : Session σ}

/-- The part that is running has had nothing to do with heights. -/
structure Silent (before after : Session σ) : Prop where
  adds : ∃ events, before.Adds after events ∧ ∀ event ∈ events, event.height? = none
  shown : after.shown = before.shown
  unreported : after.unreported = before.unreported
  poller : after.poller = before.poller

theorem Silent.trans (first : Silent before middle) (second : Silent middle after) :
    Silent before after where
  adds := by
    obtain ⟨events, adds, silent⟩ := first.adds
    obtain ⟨others, addsThen, silentThen⟩ := second.adds
    refine ⟨events ++ others, adds.trans addsThen, fun event member => ?_⟩
    exact (List.mem_append.mp member).elim (silent event) (silentThen event)
  shown := second.shown.trans first.shown
  unreported := second.unreported.trans first.unreported
  poller := second.poller.trans first.poller

theorem Silent.heights (silent : Silent before after) :
    heights after.trace = heights before.trace := by
  obtain ⟨events, adds, silent⟩ := silent.adds
  have none : LivePreview.heights (events.map before.stamp) = [] := by
    rw [LivePreview.heights, List.filterMap_map, List.filterMap_eq_nil_iff]
    exact silent
  rw [← heights_seen, adds.seen, heights_append, none, heights_seen, List.append_nil]

theorem silent_of_adds {events : List Event} (adds : before.Adds after events)
    (silent : ∀ event ∈ events, event.height? = none) (shown : after.shown = before.shown)
    (unreported : after.unreported = before.unreported) (poller : after.poller = before.poller) :
    Silent before after :=
  ⟨⟨events, adds, silent⟩, shown, unreported, poller⟩

theorem silent_refl (session : Session σ) : Silent session session :=
  silent_of_adds (adds_nil session) (by simp) rfl rfl rfl

theorem silent_note (session : Session σ) {event : Event} (visible : event.isSeen = true)
    (silent : event.height? = none) : Silent session (session.note event) :=
  silent_of_adds (adds_note session visible) (by simpa using silent) rfl rfl rfl

theorem silent_send (session : Session σ) (message : Outbound)
    (silent : (Event.sent message).height? = none) : Silent session (session.send message) :=
  silent_note session rfl silent

theorem silent_log (session : Session σ) (record : LogRecord) :
    Silent session (session.log record) := by
  refine silent_of_adds (adds_log session record) (by simp) ?_ ?_ ?_ <;>
    (unfold log; split <;> rfl)

theorem silent_logAll (session : Session σ) (records : List LogRecord) :
    Silent session (session.logAll records) := by
  induction records generalizing session with
  | nil => exact silent_refl session
  | cons record rest ih => exact (silent_log session record).trans (ih _)

theorem silent_take (session : Session σ) (answer : Answer σ α) :
    Silent session (session.take answer) := by
  have moved : Silent session { session with host := answer.host } :=
    silent_of_adds (adds_of_trace_eq rfl rfl rfl) (by simp) rfl rfl rfl
  exact moved.trans (silent_logAll _ answer.records)

theorem silent_ask (session : Session σ) (call : Call) (answer : σ → Answer σ α) :
    Silent session (session.ask call answer).2 :=
  (silent_note session rfl rfl).trans (silent_take _ _)

theorem host_ask (session : Session σ) (call : Call) (answer : σ → Answer σ α) :
    (session.ask call answer).2.host = (answer session.host).host :=
  (quiet_logAll _ _).host

theorem ask_of_host {entering : Session σ} (same : entering.host = session.host) (call : Call)
    (answer : σ → Answer σ α) :
    (entering.ask call answer).1 = (answer session.host).value ∧
      (entering.ask call answer).2.host = (answer session.host).host := by
  rw [← same]
  exact ⟨rfl, host_ask entering call answer⟩

theorem silent_applyLevel (session : Session σ) (control : LogControl) (level : LogLevel) :
    Silent session (session.applyLevel control level) := by
  have levelled : Silent session
      { session with level := (control.apply session.level level).1 } :=
    silent_of_adds (adds_of_trace_eq rfl rfl rfl) (by simp) rfl rfl rfl
  exact levelled.trans (silent_logAll _ _)

theorem silent_report (session : Session σ) (failure : Failure) :
    Silent session (session.report failure) :=
  (silent_log session _).trans (silent_send _ _ rfl)

theorem silent_raise (session : Session σ) (event : ProgramEvent) :
    Silent session (session.raise event) := by
  cases event with
  | error raised => exact (silent_log session _).trans (silent_send _ _ rfl)
  | console log =>
      cases log with
      | nil => exact silent_refl session
      | cons entry rest => exact silent_send session _ rfl

theorem newHeight?_eq (document : Document σ) (session : Session σ) :
    session.newHeight? document = newly session.shown (document.measured? session.host) := by
  unfold newHeight? newly Document.measured?
  cases document.height session.host with
  | crashed note => rfl
  | failed failure => rfl
  | ok measured =>
      cases measured with
      | none => rfl
      | some height => by_cases same : session.shown = some height <;> simp [same, Option.filter]

theorem shown_after (document : Document σ) (session : Session σ) :
    (session.newHeight? document).or session.shown =
      (document.measured? session.host).or session.shown := by
  rw [newHeight?_eq, or_newly]

end Session

end LivePreview
