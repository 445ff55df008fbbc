import LivePreview.Host
import LivePreview.Message.ProgramEvent
import LivePreview.Registry

namespace LivePreview

/-! A session: the clock, the host's state, what outlives a cycle, and the trace of all that
happened. -/

inductive Event
  | sent (message : Outbound)
  | called (call : Call)
  | logged (record : LogRecord)
  | accepted (request : CompileRequest)
  | begun (request : CompileRequest)

inductive Part
  /-- Whoever gives the preview its messages. -/
  | caller
  /-- The worker that is task number `task`. -/
  | worker (task : Nat)
  | poller
  | listener
deriving DecidableEq, Repr

/-- An event with the millisecond it happened in and the part that made it happen. -/
structure Stamped where
  time : Nat
  part : Part
  event : Event

structure Poller where
  every : Nat
  next : Nat
deriving DecidableEq, Repr

/-- The poller after a tick.  It makes up for a tick that is a little late, and leaves out those
that it has missed by then. -/
def Poller.ticked (poller : Poller) (now : Nat) : Poller :=
  let next :=
    if poller.next + 5 < now then now + poller.every - (now - poller.next) % poller.every
    else poller.next + poller.every
  { poller with next }

structure Session (σ : Type u) where
  now : Nat
  part : Part
  host : σ
  /-- Records above this level are not kept. -/
  level : LogLevel
  /-- The height set down last, reported or about to be. -/
  shown : Option UInt32
  /-- The height that the poller has set down and is about to report. -/
  unreported : Option UInt32
  poller : Option Poller
  /-- Whether no compile has ended since the document was loaded. -/
  firstLoad : Bool
  ready : Option ReadyPreset
  trace : List Stamped

namespace Session

variable {σ : Type u}

def start (host : σ) (level : LogLevel) : Session σ where
  now := 0
  part := .caller
  host
  level
  shown := none
  unreported := none
  poller := none
  firstLoad := true
  ready := none
  trace := []

/-- From now on another part is running. -/
def handTo (session : Session σ) (part : Part) : Session σ :=
  { session with part }

def note (session : Session σ) (event : Event) : Session σ :=
  { session with trace := session.trace ++ [⟨session.now, session.part, event⟩] }

def send (session : Session σ) (message : Outbound) : Session σ :=
  session.note (.sent message)

/-- Keeps a record unless its level is above the one in force. -/
def log (session : Session σ) (record : LogRecord) : Session σ :=
  if session.level.admits record.severity then session.note (.logged record) else session

def logAll (session : Session σ) (records : List LogRecord) : Session σ :=
  records.foldl log session

/-- Takes over the state that an answer leaves the host in. -/
def take (session : Session σ) (answer : Answer σ α) : Session σ :=
  { session with host := answer.host }.logAll answer.records

def ask (session : Session σ) (call : Call) (answer : σ → Answer σ α) : α × Session σ :=
  let answer := answer session.host
  (answer.value, (session.note (.called call)).take answer)

def applyLevel (session : Session σ) (control : LogControl) (level : LogLevel) : Session σ :=
  let (level, records) := control.apply session.level level
  { session with level }.logAll records

def report (session : Session σ) (failure : Failure) : Session σ :=
  let report := Report.ofFailure failure
  (session.log (.error failure.message [("kind", report.kind.title)])).send (.action report.action)

def raise (session : Session σ) (event : ProgramEvent) : Session σ :=
  let session :=
    match event with
    | .error raised => session.log (.debug raised.message [])
    | .console _ => session
  match event.message? with
  | some message => session.send message
  | none => session

/-- Measures the height and sets it down, if it is another than the one set down last. -/
def findHeight (document : Document σ) (session : Session σ) :
    Outcome (Option UInt32) × Session σ :=
  match document.height session.host with
  | .crashed note => (.crashed note, session)
  | .failed _ | .ok none => (.ok none, session)
  | .ok (some height) =>
    if session.shown = some height then (.ok none, session)
    else (.ok (some height), { session with shown := some height })

def reportHeight (session : Session σ) (height : UInt32) : Session σ :=
  (session.log (.trace "document resized" [("height", decimal height.toNat)])).send
    (.resize height)

/-- Measures the height and reports it when it is another than the one set down last. -/
def checkHeight (document : Document σ) (session : Session σ) : Outcome Bool × Session σ :=
  let (found, session) := session.findHeight document
  match found with
  | .crashed note => (.crashed note, session)
  | .failed _ | .ok none => (.ok false, session)
  | .ok (some height) => (.ok true, session.reportHeight height)

/-- Measures now, and from now on every `every` milliseconds. -/
def startPolling (session : Session σ) (every : Nat) : Session σ :=
  { session with poller := some ⟨every, session.now⟩ }

/-- A poller that has found a height still reports it. -/
def stopPolling (session : Session σ) : Session σ :=
  { session with poller := none }

/-- Whether it is time to poll. -/
def polls (session : Session σ) : Bool :=
  match session.poller with
  | some poller => poller.next ≤ session.now
  | none => false

/-- Whether the poller has anything to do. -/
def pollerStirs (session : Session σ) : Bool :=
  session.unreported.isSome || session.polls

/-- Measures if it is time to, beside the part that is running.  A crash is the end of the poller,
and nobody hears of it. -/
def pollHeight (document : Document σ) (session : Session σ) : Session σ :=
  match session.poller with
  | none => session
  | some poller =>
    if session.now < poller.next then session
    else
      let polling := { session.handTo .poller with poller := some (poller.ticked session.now) }
      let (found, polled) := polling.findHeight document
      match found with
      | .crashed _ => polled.stopPolling.handTo session.part
      | .failed _ | .ok none => polled.handTo session.part
      | .ok (some height) => { polled with unreported := some height }.handTo session.part

/-- Reports what the poller has found, beside the part that is running. -/
def reportFound (session : Session σ) : Session σ :=
  match session.unreported with
  | none => session
  | some height =>
    ({ session.handTo .poller with unreported := none }.reportHeight height).handTo session.part

/-- A step of the poller.  Other parts may go on between its measuring and its reporting. -/
def poll (document : Document σ) (session : Session σ) : Session σ :=
  match session.unreported with
  | none => session.pollHeight document
  | some _ => session.reportFound

/-- The poller goes on until it waits. -/
def pollOn (document : Document σ) (session : Session σ) : Session σ :=
  (session.reportFound.pollHeight document).reportFound

def tick (session : Session σ) : Session σ :=
  { session with now := session.now + 1 }

/-- Time passes, and nobody but the poller does anything. -/
def pass (document : Document σ) (session : Session σ) : Nat → Session σ
  | 0 => session
  | count + 1 => pass document (session.tick.pollOn document) count

@[simp] theorem now_note (session : Session σ) (event : Event) :
    (session.note event).now = session.now := rfl

@[simp] theorem trace_note (session : Session σ) (event : Event) :
    (session.note event).trace = session.trace ++ [⟨session.now, session.part, event⟩] := rfl

@[simp] theorem host_note (session : Session σ) (event : Event) :
    (session.note event).host = session.host := rfl

@[simp] theorem pass_zero (document : Document σ) (session : Session σ) :
    session.pass document 0 = session := rfl

@[simp] theorem pass_succ (document : Document σ) (session : Session σ) (count : Nat) :
    session.pass document (count + 1) = (session.tick.pollOn document).pass document count := rfl

end Session

end LivePreview
