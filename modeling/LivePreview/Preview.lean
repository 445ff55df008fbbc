import LivePreview.Cycle
import LivePreview.Debounce
import LivePreview.Settings

namespace LivePreview

/-! The running preview: one worker that compiles what the slot gives it, beside the poller and the
listener.  Each part goes on by steps of its own, and time passes millisecond by millisecond; in
what order is left open. -/

inductive Labour
  | waiting (watch : Watch)
  | busy (wake : Nat) (stage : Cycle.Stage)
  /-- A crash during a cycle was its end. -/
  | dead (note : Option String)
  | retired

def Labour.after : Cycle.Progress → Labour
  | .asleep wake stage => .busy wake stage
  | .ended => .waiting .looking
  | .crashed note => .dead note

structure Worker where
  /-- Tasks are numbered as they are started. -/
  task : Nat
  labour : Labour

namespace Worker

/-- What became of a worker that crashed, as a record tells it. -/
def crashText (worker : Worker) (note : Option String) : String :=
  "task " ++ decimal worker.task ++ " panicked" ++
    (match note with
    | some text => " with message " ++ Text.quoted text
    | none => "")

/-- The records of a worker's end, when the preview ends with it. -/
def obituary (worker : Worker) : List LogRecord :=
  match worker.labour with
  | .dead note => [.debug ("compile worker ended abnormally: " ++ worker.crashText note) []]
  | _ => []

/-- The record of a worker that another replaces. -/
def farewell (worker : Worker) : LogRecord :=
  match worker.labour with
  | .dead note => .warn ("compile worker had panicked: " ++ worker.crashText note) []
  | _ => .debug "compile worker cancelled" []

end Worker

inductive Life
  | serving
  /-- The worker has been told to end, and no more messages come. -/
  | closing
  | stopped
deriving DecidableEq, Repr

structure Listener where
  /-- The events that it has still to forward. -/
  queue : List ProgramEvent
  /-- Whether the source of events is still there. -/
  isOpen : Bool

structure Preview (σ : Type u) where
  session : Session σ
  slot : Debounce CompileRequest
  worker : Worker
  listener : Option Listener
  /-- Whether the poller fell asleep before the worker did.  Of two that wake at one time, the one
  that has slept longer goes first. -/
  pollsFirst : Bool
  life : Life
  tasks : Nat

inductive Input (σ : Type u)
  | message (message : Inbound)
  | raised (event : ProgramEvent)
  /-- The source of runtime events is gone. -/
  | eventsClosed
  /-- The host changes by itself. -/
  | hostChanged (change : σ → σ)
  /-- The worker is told to end; what is pending it compiles first, window or not. -/
  | shutdown

/-- What happens to a preview, one thing at a time and in any order. -/
inductive Move (σ : Type u)
  | input (input : Input σ)
  /-- The worker takes a step, if it has one to take. -/
  | work
  /-- So does the poller. -/
  | poll
  /-- The listener forwards an event, if there is one. -/
  | listen
  /-- A millisecond passes, whoever may have something to do. -/
  | tick
  /-- The worker goes on until it waits. -/
  | workOn
  | pollOn
  | listenOn
  /-- Every part goes on until it waits, and then time passes. -/
  | wait (milliseconds : Nat)

namespace Preview

variable {σ : Type u}

/-- Whether an event that the program raises now is queued. -/
def listening (preview : Preview σ) : Bool :=
  match preview.listener with
  | some listener => listener.isOpen
  | none => false

def onSession (preview : Preview σ) (change : Session σ → Session σ) : Preview σ :=
  { preview with session := change preview.session }

def log (preview : Preview σ) (record : LogRecord) : Preview σ :=
  preview.onSession fun session => (session.handTo .caller).log record

def workerSession (preview : Preview σ) : Session σ :=
  preview.session.handTo (.worker preview.worker.task)

/-- The worker goes over to something else.  Should it sleep now, it sleeps since now. -/
def become (preview : Preview σ) (labour : Labour) : Preview σ :=
  { preview with worker := { preview.worker with labour }, pollsFirst := true }

def continueWith (preview : Preview σ) (step : Cycle.Progress × Session σ) : Preview σ :=
  { preview.become (.after step.1) with session := step.2 }

@[simp] theorem session_continueWith (preview : Preview σ) (step : Cycle.Progress × Session σ) :
    (preview.continueWith step).session = step.2 := rfl

@[simp] theorem slot_continueWith (preview : Preview σ) (step : Cycle.Progress × Session σ) :
    (preview.continueWith step).slot = preview.slot := rfl

@[simp] theorem worker_continueWith (preview : Preview σ) (step : Cycle.Progress × Session σ) :
    (preview.continueWith step).worker = ⟨preview.worker.task, .after step.1⟩ := rfl

@[simp] theorem life_continueWith (preview : Preview σ) (step : Cycle.Progress × Session σ) :
    (preview.continueWith step).life = preview.life := rfl

@[simp] theorem tasks_continueWith (preview : Preview σ) (step : Cycle.Progress × Session σ) :
    (preview.continueWith step).tasks = preview.tasks := rfl

def takeUp (setup : Setup σ) (request : CompileRequest) (slot : Debounce CompileRequest)
    (preview : Preview σ) : Preview σ :=
  { preview with slot }.continueWith (Cycle.begin setup request preview.workerSession)

def attend? (setup : Setup σ) (watch : Watch) (preview : Preview σ) : Option (Preview σ) :=
  match preview.slot.turn preview.session.now watch with
  | .ready request slot => some (preview.takeUp setup request slot)
  | .moved slot watch => some ({ preview with slot }.become (.waiting watch))
  | .resting => none

/-- What the worker does when it has been told to end.  Should a request be due at this moment, it
makes no difference which of the two the worker hears of first. -/
def close (setup : Setup σ) (preview : Preview σ) : Preview σ :=
  match preview.slot.leave.flush with
  | (some request, slot) => preview.takeUp setup request slot
  | (none, slot) => { preview with slot }.become .retired

/-- The worker has ended, and with it ends everything else.  Events that are still queued are
lost. -/
def stop (preview : Preview σ) : Preview σ :=
  let preview := preview.onSession fun session =>
    ((session.handTo .caller).logAll preview.worker.obituary).stopPolling.log
      (.info "sandbox stopped" [])
  { preview with listener := none, life := .stopped }

/-- One thing that can be done at this moment, if there is one. -/
def advance? (setup : Setup σ) (preview : Preview σ) : Option (Preview σ) :=
  match preview.worker.labour, preview.life with
  | .waiting watch, .serving => preview.attend? setup watch
  | .waiting _, _ => some (preview.close setup)
  | .busy wake stage, _ =>
    if wake ≤ preview.session.now then
      some (preview.continueWith (Cycle.resume setup stage preview.workerSession))
    else none
  | .dead _, .closing => some preview.stop
  | .retired, .closing => some preview.stop
  | .dead _, _ => none
  | .retired, _ => none

/-- A bound on what can be done before the worker waits: the cycle it is in, the pending one after
it, its own end. -/
def effort (preview : Preview σ) : Nat :=
  (if preview.slot.hasPending then 12 else 0) + (if preview.life = .closing then 1 else 0) +
    match preview.worker.labour with
    | .waiting watch => preview.slot.effort watch + 1
    | .busy _ stage => preview.slot.signal.kept.toNat + 3 + stage.rank
    | .dead _ => 0
    | .retired => 0

def advanceUpTo (setup : Setup σ) : Nat → Preview σ → Preview σ
  | 0, preview => preview
  | count + 1, preview =>
    match preview.advance? setup with
    | some next => advanceUpTo setup count next
    | none => preview

/-- The worker goes on until it waits. -/
def workOn (setup : Setup σ) (preview : Preview σ) : Preview σ :=
  advanceUpTo setup preview.effort preview

def poll (setup : Setup σ) (preview : Preview σ) : Preview σ :=
  { preview with
    session := preview.session.poll setup.document
    pollsFirst := preview.pollsFirst && !preview.session.pollerStirs }

def pollOn (setup : Setup σ) (preview : Preview σ) : Preview σ :=
  { preview with
    session := preview.session.pollOn setup.document
    pollsFirst := preview.pollsFirst && !preview.session.pollerStirs }

def eventsClosedRecord : LogRecord :=
  .debug "runtime event source closed" []

/-- The listener forwards the event that has waited longest, or ends if no more will come. -/
def listen (preview : Preview σ) : Preview σ :=
  match preview.listener with
  | none | some ⟨[], true⟩ => preview
  | some ⟨[], false⟩ =>
    { preview with listener := none }.onSession fun session =>
      (session.handTo .listener).log eventsClosedRecord
  | some ⟨event :: queue, isOpen⟩ =>
    { preview with listener := some ⟨queue, isOpen⟩ }.onSession fun session =>
      (session.handTo .listener).raise event

def listenUpTo : Nat → Preview σ → Preview σ
  | 0, preview => preview
  | count + 1, preview => listenUpTo count preview.listen

/-- How much the listener can do before it waits. -/
def backlog (preview : Preview σ) : Nat :=
  match preview.listener with
  | none => 0
  | some listener => listener.queue.length + 1

def listenOn (preview : Preview σ) : Preview σ :=
  preview.listenUpTo preview.backlog

/-- Whether all that is left to do is to stop. -/
def isOver (preview : Preview σ) : Bool :=
  match preview.worker.labour, preview.life with
  | .dead _, .closing | .retired, .closing => true
  | _, _ => false

/-- Every part goes on until it waits, in the order in which they wake.  Nobody waits for a worker
that has ended. -/
def settle (setup : Setup σ) (preview : Preview σ) : Preview σ :=
  if preview.isOver then (preview.workOn setup).pollOn setup
  else
    let preview := preview.listenOn
    if preview.pollsFirst then (preview.pollOn setup).workOn setup
    else (preview.workOn setup).pollOn setup

def tick (preview : Preview σ) : Preview σ :=
  preview.onSession Session.tick

/-- Time passes once nothing can be done without it. -/
def pass (setup : Setup σ) (preview : Preview σ) : Nat → Preview σ
  | 0 => preview
  | count + 1 => pass setup (preview.tick.settle setup) count

def wait (setup : Setup σ) (preview : Preview σ) (milliseconds : Nat) : Preview σ :=
  (preview.settle setup).pass setup milliseconds

/-- A worker with nothing behind it. -/
def newWorker (preview : Preview σ) : Preview σ :=
  { preview with
    session := { preview.session with firstLoad := true, ready := none }
    worker := ⟨preview.tasks + 1, .waiting .looking⟩
    tasks := preview.tasks + 1 }

def restart (preview : Preview σ) : Preview σ :=
  let (dropped, slot) := preview.slot.cancel
  let records := if dropped then [.debug "dropped pending compile on refresh" []] else []
  let preview := preview.onSession fun session =>
    session.logAll (records ++ [preview.worker.farewell])
  let preview := { preview with slot := slot.leave }
  preview.newWorker.onSession fun session =>
    (session.log (.info "sandbox refreshed" [])).send .refresh

/-- Reloads the document and starts over.  If reloading crashes everything goes on as before. -/
def refresh (setup : Setup σ) (preview : Preview σ) : Preview σ :=
  let (outcome, session) :=
    (preview.session.handTo .caller).ask .reload setup.document.reload
  match outcome.crash? with
  | some _ => { preview with session }
  | none => { preview with session }.restart

/-- What the console shows for an evaluated command; nothing, if evaluating it crashed. -/
def consoleEntry? : Outcome Json → Option ConsoleEntry
  | .ok value => some ⟨"result", [value]⟩
  | .failed failure => some ⟨"error", [.string failure.message]⟩
  | .crashed _ => none

/-- Evaluates a command at once, whatever the worker does. -/
def evaluate (setup : Setup σ) (command : String) (preview : Preview σ) : Preview σ :=
  preview.onSession fun session =>
    let answer := setup.backend.command command session.host
    let session := (session.handTo .caller).take answer
    match consoleEntry? answer.value with
    | some entry => session.send (.console [entry])
    | none => session

def schedule (request : CompileRequest) (preview : Preview σ) : Preview σ :=
  let records := preview.slot.scheduleRecords
  let (_, slot) := preview.slot.schedule preview.session.now request
  { preview with slot }.onSession fun session =>
    ((session.handTo .caller).note (.accepted request)).logAll records

def receive (setup : Setup σ) (message : Inbound) (preview : Preview σ) : Preview σ :=
  match message with
  | .compile request => preview.schedule request
  | .refresh => preview.refresh setup
  | .evaluate command => preview.evaluate setup command

def enqueue (event : ProgramEvent) (preview : Preview σ) : Preview σ :=
  match preview.listener with
  | some ⟨queue, true⟩ => { preview with listener := some ⟨queue ++ [event], true⟩ }
  | some ⟨_, false⟩ | none => preview

def closeEvents (preview : Preview σ) : Preview σ :=
  { preview with
    listener := preview.listener.map fun listener => { listener with isOpen := false } }

/-- What an input does at once.  A preview that has been shut down takes no more messages. -/
def step (setup : Setup σ) (preview : Preview σ) (input : Input σ) : Preview σ :=
  match input with
  | .message message =>
    if preview.life = .serving then preview.receive setup message else preview
  | .raised event => preview.enqueue event
  | .eventsClosed => preview.closeEvents
  | .hostChanged change =>
    preview.onSession fun session => { session with host := change session.host }
  | .shutdown => if preview.life = .serving then { preview with life := .closing } else preview

/-- The crash, with its note, that comes back to whoever gives the input. -/
def crash? (setup : Setup σ) (preview : Preview σ) (input : Input σ) : Option (Option String) :=
  match input with
  | .message message =>
    if preview.life = .serving then
      match message with
      | .compile _ => none
      | .refresh => (setup.document.reload preview.session.host).value.crash?
      | .evaluate command => (setup.backend.command command preview.session.host).value.crash?
    else none
  | _ => none

/-- Lets the worker finish, at most `count` sleeps long. -/
def drain (setup : Setup σ) : Nat → Preview σ → Preview σ
  | 0, preview => preview
  | count + 1, preview =>
    match preview.worker.labour with
    | .busy wake _ => drain setup count (preview.pass setup (wake - preview.session.now))
    | _ => preview

/-- A shutdown from its call to its return.  The cycle the worker is in goes on at most four times,
and so does the pending one. -/
def shutdown (setup : Setup σ) (preview : Preview σ) : Preview σ :=
  drain setup 8 ((preview.step setup .shutdown).settle setup)

/-- A worker that is about to report a height is not cut off before it has. -/
def letReport (setup : Setup σ) (preview : Preview σ) (input : Input σ) : Preview σ :=
  match input, preview.worker.labour, preview.life with
  | .message .refresh, .busy _ (.reporting _), .serving => (preview.advance? setup).getD preview
  | _, _, _ => preview

/-- What one move comes to.  The parts may be given time in whatever order. -/
def move (setup : Setup σ) (preview : Preview σ) (move : Move σ) : Preview σ :=
  match move with
  | .input input => (preview.letReport setup input).step setup input
  | .work => (preview.advance? setup).getD preview
  | .poll => preview.poll setup
  | .listen => preview.listen
  | .tick => preview.tick
  | .workOn => preview.workOn setup
  | .pollOn => preview.pollOn setup
  | .listenOn => preview.listenOn
  | .wait milliseconds => preview.wait setup milliseconds

/-- Runs in which the parts go on in any order. -/
def play (setup : Setup σ) (preview : Preview σ) (moves : List (Move σ)) : Preview σ :=
  moves.foldl (move setup) preview

end Preview

/-- Settings name the preset that unknown templates fall back on. -/
def Settings.setup (settings : Settings) (backend : Backend σ) (document : Document σ)
    (control : LogControl) : Setup σ :=
  ⟨backend, document, settings.registry, control⟩

namespace Preview

variable {σ : Type u}

/-- A preview that has announced itself and waits for requests. -/
def start (settings : Settings) (listening : Bool) (level : LogLevel) (tasks : Nat) (host : σ) :
    Preview σ :=
  let session := (Session.start host level).send .initialized
  let session :=
    match settings.pollInterval with
    | some every => session.startPolling every
    | none => session
  let started := tasks + (if session.poller.isSome then 1 else 0) + (if listening then 1 else 0)
  let preview : Preview σ :=
    { session
      slot := .ofWindow settings.window
      worker := ⟨started, .retired⟩
      listener := if listening then some ⟨[], true⟩ else none
      pollsFirst := true
      life := .serving
      tasks := started }
  preview.newWorker.log
    (.info "sandbox started"
      [("debounce_ms", decimal settings.window), ("default_preset", settings.defaultPreset.name)])

end Preview

end LivePreview
