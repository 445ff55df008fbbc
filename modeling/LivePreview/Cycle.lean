import LivePreview.Loading

namespace LivePreview

/-! One cycle, from a compile request to the idle status.  A cycle may sleep three times: while the
developer tools load, while a preset loads and while the program is built.  What it will learn when
it wakes is settled when it falls asleep.  It may be held up once more, when it has found a new
height and is about to report it. -/

structure Setup (σ : Type u) where
  backend : Backend σ
  document : Document σ
  registry : Registry
  control : LogControl

inductive Phase
  | initializing
  | compiling
  | rendering
  | evaluating
  | idle
deriving DecidableEq, Repr

def Phase.name : Phase → String
  | .initializing => "initializing"
  | .compiling => "compiling"
  | .rendering => "rendering"
  | .evaluating => "evaluating"
  | .idle => "idle"

namespace Cycle

inductive Stage
  | devTools (request : CompileRequest) (kind : DevTools) (outcome : Outcome Unit)
  | loading (request : CompileRequest) (preset : Preset) (outcome : Outcome TransformerSet)
  | building (request : CompileRequest) (ready : ReadyPreset) (outcome : Outcome Program)
  /-- The program has run.  This takes no time, but other parts may go on meanwhile. -/
  | reporting (height : UInt32)

/-- How many times a cycle may still be asleep, or held up. -/
def Stage.rank : Stage → Nat
  | .devTools _ _ _ => 4
  | .loading _ _ _ => 3
  | .building _ _ _ => 2
  | .reporting _ => 1

inductive Progress
  | asleep (wake : Nat) (stage : Stage)
  | ended
  /-- A call crashed and took the cycle with it. -/
  | crashed (note : Option String)

variable {σ : Type u}

def enter (session : Session σ) (phase : Phase) : Session σ :=
  session.log (.debug "compile phase" [("phase", phase.name)])

/-- Makes a call and goes on after it, unless it crashes and takes the cycle with it. -/
def proceed (call : Call) (answer : σ → Answer σ (Outcome Unit))
    (next : Session σ → Progress × Session σ) (session : Session σ) : Progress × Session σ :=
  let (outcome, session) := session.ask call answer
  match outcome.crash? with
  | some note => (.crashed note, session)
  | none => next session

/-- The end of every cycle that does not crash. -/
def finish (session : Session σ) : Progress × Session σ :=
  (.ended, (enter session .idle).send (.status .idle))

/-- The end of a cycle whose program has run. -/
def succeed (session : Session σ) : Progress × Session σ :=
  finish ((session.send .success).log (.info "evaluation finished" []))

/-- Looks for a new height after the program has run. -/
def measure (setup : Setup σ) (session : Session σ) : Progress × Session σ :=
  let (found, session) := session.findHeight setup.document
  match found with
  | .crashed note => (.crashed note, session)
  | .failed _ | .ok none => succeed session
  | .ok (some height) => (.asleep session.now (.reporting height), session)

def evaluate (setup : Setup σ) (program : Program) (session : Session σ) : Progress × Session σ :=
  let session := (enter session .evaluating).send (.status .evaluating)
  let (outcome, session) := session.ask (.evaluate program) (setup.backend.evaluate program)
  match outcome.caught fun note => .evaluation note none with
  | .error failure => finish (session.report failure)
  | .ok () => measure setup session

def render (setup : Setup σ) (markup : Markup) (program : Option Program) (session : Session σ) :
    Progress × Session σ :=
  proceed (.replaceDocument markup) (setup.document.replace markup)
    (match program with
    | none => finish
    | some program => evaluate setup program)
    (enter session .rendering)

/-- Announces how the compile ended, and renders. -/
def compiled (setup : Setup σ) (request : CompileRequest) (ready : ReadyPreset)
    (result : Except Failure Program) (session : Session σ) : Progress × Session σ :=
  let session := { session with firstLoad := false }
  let markup := Markup.select request.sources ready.preset
  match result with
  | .ok program => render setup markup (some program) (session.send (.done false))
  | .error failure => render setup markup none ((session.report failure).send (.done true))

def compile (setup : Setup σ) (request : CompileRequest) (ready : ReadyPreset)
    (session : Session σ) : Progress × Session σ :=
  let session := enter session .compiling
  let session := session.logAll (Plan.records ready request.sources)
  match Plan.make ready request.sources with
  | .error failure => compiled setup request ready (.error failure) session
  | .ok plan =>
    let session := session.log plan.compilingRecord
    let (reply, session) := session.ask (.build plan) (setup.backend.build plan)
    (.asleep (session.now + reply.delay) (.building request ready reply.outcome), session)

/-- Goes on with a preset that is ready; only now does it replace the one before. -/
def activated (setup : Setup σ) (request : CompileRequest) (preset : Preset)
    (outcome : Outcome TransformerSet) (session : Session σ) : Progress × Session σ :=
  let (outcome, session) := session.endPreset preset outcome
  match outcome.caught fun note => .presetInit preset.name note with
  | .error failure => finish (session.report failure)
  | .ok ready => compile setup request ready { session with ready := some ready }

def activate (setup : Setup σ) (request : CompileRequest) (session : Session σ) :
    Progress × Session σ :=
  let preset := setup.registry.resolve request.template
  let session := session.logAll (setup.registry.resolveRecords request.template)
  match session.ready.filter fun ready => ready.preset = preset with
  | some ready =>
    compile setup request ready
      (session.log (.debug "reusing initialized preset" [("preset", preset.name)]))
  | none =>
    let (reply, session) := session.beginPreset setup.backend preset
    (.asleep (session.now + reply.delay) (.loading request preset reply.outcome), session)

/-- The tools may fail to load, which is put on record only. -/
def toolsLoaded (setup : Setup σ) (request : CompileRequest) (kind : DevTools)
    (outcome : Outcome Unit) (session : Session σ) : Progress × Session σ :=
  match outcome with
  | .crashed note => (.crashed note, session)
  | .ok () => activate setup request session
  | .failed failure =>
    activate setup request (session.log
      (.warn ("devtools integration failed to load: " ++ failure.message) [("kind", kind.label)]))

def levelled (setup : Setup σ) (request : CompileRequest) (session : Session σ) : Session σ :=
  match request.logLevel with
  | some level => session.applyLevel setup.control level
  | none => session

def loadTools (setup : Setup σ) (request : CompileRequest) (session : Session σ) :
    Progress × Session σ :=
  let session := enter session .initializing
  match request.devTools with
  | none => activate setup request session
  | some kind =>
    let (reply, session) :=
      session.ask (.loadDevTools kind) (setup.document.loadDevTools kind)
    (.asleep (session.now + reply.delay) (.devTools request kind reply.outcome), session)

/-- Announces the cycle.  The first after a load starts without modules. -/
def announce (setup : Setup σ) (request : CompileRequest) (session : Session σ) :
    Progress × Session σ :=
  let announced := (session.send (.start session.firstLoad)).send (.status .initializing)
  if session.firstLoad then
    proceed .resetModules setup.backend.resetModules (loadTools setup request)
      (announced.log (.debug "first load, resetting modules" []))
  else loadTools setup request announced

def begin (setup : Setup σ) (request : CompileRequest) (session : Session σ) :
    Progress × Session σ :=
  proceed (.configureFiles request.hasFileResolver)
    (setup.backend.configureFiles request.hasFileResolver) (announce setup request)
    (levelled setup request (session.note (.begun request)))

def resume (setup : Setup σ) (stage : Stage) (session : Session σ) : Progress × Session σ :=
  match stage with
  | .devTools request kind outcome => toolsLoaded setup request kind outcome session
  | .loading request preset outcome => activated setup request preset outcome session
  | .building request ready outcome =>
    compiled setup request ready (outcome.caught .build) session
  | .reporting height => succeed (session.reportHeight height)

/-- Sleeps through at most `count` sleeps. -/
def complete (setup : Setup σ) : Nat → Progress × Session σ → Progress × Session σ
  | 0, run => run
  | count + 1, (.asleep wake stage, session) =>
    complete setup count
      (resume setup stage (session.pass setup.document (wake - session.now)))
  | _ + 1, run => run

def run (setup : Setup σ) (request : CompileRequest) (session : Session σ) :
    Progress × Session σ :=
  complete setup 4 (begin setup request session)

end Cycle

end LivePreview
