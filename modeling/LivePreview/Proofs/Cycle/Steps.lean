import LivePreview.Cycle
import LivePreview.Headless
import LivePreview.Proofs.Session.Seen

namespace LivePreview

/-! Every step of a cycle brings about events from within a cycle; the idle status comes with the
step that ends it, and last.  A cycle sleeps less and less deeply, and only a crash can keep it
from its end. -/

def Outcome.Steady (outcome : Outcome α) : Prop :=
  outcome.crash? = none

theorem Outcome.Steady.crash?_ne {outcome : Outcome α} (steady : outcome.Steady)
    (note : Option String) : outcome.crash? ≠ some note := by
  rw [steady]
  simp

/-- Nothing that a cycle calls crashes, except that loads, builds and programs may. -/
structure Setup.Steady (setup : Setup σ) : Prop where
  configureFiles : ∀ hasResolver host, (setup.backend.configureFiles hasResolver host).value.Steady
  resetModules : ∀ host, (setup.backend.resetModules host).value.Steady
  replace : ∀ markup host, (setup.document.replace markup host).value.Steady
  height : ∀ host, (setup.document.height host).Steady
  loadDevTools : ∀ kind host, (setup.document.loadDevTools kind host).value.outcome.Steady

/-- Nothing that a cycle has the document do crashes. -/
structure Document.Steady (document : Document σ) : Prop where
  replace : ∀ markup host, (document.replace markup host).value.Steady
  height : ∀ host, (document.height host).Steady
  loadDevTools : ∀ kind host, (document.loadDevTools kind host).value.outcome.Steady

theorem Setup.Steady.document {setup : Setup σ} (steady : setup.Steady) :
    setup.document.Steady :=
  ⟨steady.replace, steady.height, steady.loadDevTools⟩

namespace Headless

def setup : Setup Headless :=
  ⟨backend, document, .builtin, .enabled⟩

theorem steady : setup.Steady where
  configureFiles _ _ := rfl
  resetModules _ := rfl
  replace _ _ := rfl
  height _ := rfl
  loadDevTools _ _ := rfl

end Headless

namespace Cycle

open Session

variable {σ : Type u} {setup : Setup σ} {session middle : Session σ}

/-- An event between the announcement of a cycle and its end. -/
def IsInner : Event → Prop
  | .called _ => True
  | .sent (.start _) | .sent (.status .idle) | .sent .refresh => False
  | .sent _ => True
  | _ => False

/-- An event of a cycle that has been announced, and has reset the modules if it was to. -/
def IsOnward (event : Event) : Prop :=
  IsInner event ∧ event ≠ .sent (.status .initializing) ∧ event ≠ .called .resetModules

/-- The end of a compile. -/
def EndsCompile : Event → Bool
  | .sent (.done _) => true
  | _ => false

/-- A sleep that no crash of the document ends. -/
def Stage.Steady : Stage → Prop
  | .devTools _ _ outcome => outcome.Steady
  | _ => True

theorem rank_pos (stage : Stage) : 0 < stage.rank := by
  cases stage <;> simp [Stage.rank]

/-- What a step of a cycle sends at its very end. -/
def Progress.closing : Progress → List Event
  | .ended => [.sent (.status .idle)]
  | _ => []

/-- How a step of a cycle may end.  If it is `safe`, nothing crashes. -/
structure Tame (safe : Prop) (bound : Nat) (progress : Progress) : Prop where
  sleeps : ∀ wake stage, progress = .asleep wake stage →
    stage.rank < bound ∧ (safe → stage.Steady)
  steady : safe → ∀ note, progress ≠ .crashed note

/-- A cycle comes from one session to the next.  The first load is over once a compile ends. -/
structure Goes (before after : Session σ) (events : List Event) : Prop where
  adds : before.Adds after events
  onward : ∀ event ∈ events, IsOnward event
  firstLoad : after.firstLoad = (before.firstLoad && !events.any EndsCompile)

theorem Goes.trans {before after : Session σ} (first : Goes before middle events)
    (second : Goes middle after others) : Goes before after (events ++ others) where
  adds := first.adds.trans second.adds
  onward := by
    intro event member
    exact (List.mem_append.mp member).elim (first.onward event) (second.onward event)
  firstLoad := by
    rw [second.firstLoad, first.firstLoad, List.any_append, Bool.not_or, Bool.and_assoc]

theorem goes_of_adds_nil {before after : Session σ} (adds : before.Adds after [])
    (firstLoad : after.firstLoad = before.firstLoad) : Goes before after [] where
  adds := adds
  onward := by simp
  firstLoad := by simpa using firstLoad

theorem goes_log (session : Session σ) (record : LogRecord) :
    Goes session (session.log record) [] :=
  goes_of_adds_nil (adds_log session record) (firstLoad_of_memory (memory_log session record))

theorem goes_logAll (session : Session σ) (records : List LogRecord) :
    Goes session (session.logAll records) [] :=
  goes_of_adds_nil (adds_logAll session records)
    (firstLoad_of_memory (memory_logAll session records))

theorem goes_send (session : Session σ) {message : Outbound} (onward : IsOnward (.sent message))
    (goesOn : EndsCompile (.sent message) = false) :
    Goes session (session.send message) [.sent message] where
  adds := adds_send session message
  onward := by simpa using onward
  firstLoad := by simp [firstLoad_of_memory (memory_send session message), goesOn]

theorem goes_ask (session : Session σ) {call : Call} (keeps : call ≠ .resetModules)
    (answer : σ → Answer σ α) : Goes session (session.ask call answer).2 [.called call] where
  adds := adds_ask session call answer
  onward := by simp [IsOnward, IsInner, keeps]
  firstLoad := by simp [firstLoad_of_memory (memory_ask session call answer), EndsCompile]

theorem goes_report (session : Session σ) (failure : Failure) :
    Goes session (session.report failure) [.sent (reportOf failure)] :=
  (goes_log session _).trans (goes_send _ (by simp [IsOnward, IsInner]) rfl)

/-- Any step of a cycle, from a session on. -/
structure Lawful (safe : Prop) (bound : Nat) (session : Session σ)
    (step : Progress × Session σ) : Prop extends Tame safe bound step.1 where
  goes : ∃ (inner : List Event) (last : Session σ),
    Goes session last inner ∧ last.Adds step.2 step.1.closing ∧ step.2.firstLoad = last.firstLoad

theorem Lawful.adds {step : Progress × Session σ} (lawful : Lawful safe bound session step) :
    ∃ inner, session.Adds step.2 (inner ++ step.1.closing) ∧ ∀ event ∈ inner, IsInner event := by
  obtain ⟨inner, last, goes, closes, _⟩ := lawful.goes
  exact ⟨inner, goes.adds.trans closes, fun event member => (goes.onward event member).1⟩

theorem Lawful.after {step : Progress × Session σ} {inner : List Event}
    (lawful : Lawful safe bound middle step) (goes : Goes session middle inner) :
    Lawful safe bound session step where
  toTame := lawful.toTame
  goes := by
    obtain ⟨later, last, goesOn, closes, firstLoad⟩ := lawful.goes
    exact ⟨inner ++ later, last, goes.trans goesOn, closes, firstLoad⟩

theorem Lawful.mono {step : Progress × Session σ} (lawful : Lawful safe bound session step)
    (safer : safest → safe) (le : bound ≤ larger) : Lawful safest larger session step where
  goes := lawful.goes
  sleeps := by
    intro wake stage asleep
    obtain ⟨deep, steady⟩ := lawful.sleeps wake stage asleep
    exact ⟨Nat.lt_of_lt_of_le deep le, fun safe => steady (safer safe)⟩
  steady := fun safe => lawful.steady (safer safe)

theorem lawful_asleep (session : Session σ) (wake : Nat) {stage : Stage} (deep : stage.rank < bound)
    (steady : safe → stage.Steady) : Lawful safe bound session (.asleep wake stage, session) where
  goes := ⟨[], session, goes_of_adds_nil (adds_nil session) rfl, adds_nil session, rfl⟩
  sleeps := by
    rintro _ _ ⟨⟩
    exact ⟨deep, steady⟩
  steady := by simp

theorem tame_crashed (note : Option String) (unsafely : ¬ safe) :
    Tame safe bound (.crashed note) where
  sleeps := by simp
  steady := fun safe => (unsafely safe).elim

theorem lawful_crashed (session : Session σ) (note : Option String) (unsafely : ¬ safe) :
    Lawful safe bound session (.crashed note, session) where
  toTame := tame_crashed note unsafely
  goes := ⟨[], session, goes_of_adds_nil (adds_nil session) rfl, adds_nil session, rfl⟩

theorem lawful_proceed {call : Call} {answer : σ → Answer σ (Outcome Unit)}
    {next : Session σ → Progress × Session σ}
    (keeps : call ≠ .resetModules) (steady : safe → (answer session.host).value.Steady)
    (lawful : ∀ session, Lawful safe bound session (next session)) :
    Lawful safe bound session (proceed call answer next session) := by
  have called := goes_ask session keeps answer
  simp only [proceed]
  split
  next note crashed =>
      have unsafely : ¬ safe := fun safely => (steady safely).crash?_ne note crashed
      exact (lawful_crashed _ note unsafely).after called
  next => exact (lawful _).after called

theorem adds_enter (session : Session σ) (phase : Phase) : session.Adds (enter session phase) [] :=
  adds_log session _

theorem adds_finish (session : Session σ) :
    session.Adds (finish session).2 [.sent (.status .idle)] :=
  (adds_enter session .idle).trans (adds_send _ _)

theorem goes_enter (session : Session σ) (phase : Phase) : Goes session (enter session phase) [] :=
  goes_log session _

@[simp] theorem memory_enter (session : Session σ) (phase : Phase) :
    (enter session phase).memory = session.memory :=
  memory_log session _

theorem lawful_finish (session : Session σ) : Lawful safe bound session (finish session) where
  goes := ⟨[], session, goes_of_adds_nil (adds_nil session) rfl, adds_finish session,
    firstLoad_of_memory (memory_enter session .idle)⟩
  sleeps := by simp [finish]
  steady := by simp [finish]

/-- The answer to the evaluation of a program, and the session after it. -/
def evaluated (setup : Setup σ) (program : Program) (session : Session σ) :
    Outcome Unit × Session σ :=
  ((enter session .evaluating).send (.status .evaluating)).ask (.evaluate program)
    (setup.backend.evaluate program)

theorem adds_evaluated (setup : Setup σ) (program : Program) (session : Session σ) :
    session.Adds (evaluated setup program session).2
      [.sent (.status .evaluating), .called (.evaluate program)] :=
  (adds_enter session .evaluating).trans ((adds_send _ _).trans (adds_ask _ _ _))

theorem goes_evaluated (setup : Setup σ) (program : Program) (session : Session σ) :
    Goes session (evaluated setup program session).2
      [.sent (.status .evaluating), .called (.evaluate program)] :=
  (goes_enter session .evaluating).trans
    ((goes_send _ (by simp [IsOnward, IsInner]) rfl).trans (goes_ask _ (by simp) _))

/-- How an evaluation ends; a crash of the program is a failure. -/
def evaluation (setup : Setup σ) (program : Program) (session : Session σ) : Except Failure Unit :=
  (evaluated setup program session).1.caught fun note => .evaluation note none

theorem evaluate_of_error {failure : Failure} {program : Program}
    (failed : evaluation setup program session = .error failure) :
    evaluate setup program session =
      finish ((evaluated setup program session).2.report failure) := by
  unfold evaluation at failed
  simp only [evaluate]
  rw [← evaluated, failed]

theorem evaluate_of_ok {program : Program} (shown : evaluation setup program session = .ok ()) :
    evaluate setup program session = measure setup (evaluated setup program session).2 := by
  unfold evaluation at shown
  simp only [evaluate]
  rw [← evaluated, shown]

theorem goes_findHeight (document : Document σ) (session : Session σ) :
    Goes session (session.findHeight document).2 [] :=
  goes_of_adds_nil (adds_findHeight document session)
    (firstLoad_of_memory (memory_findHeight document session))

theorem goes_reportHeight (session : Session σ) (height : UInt32) :
    Goes session (session.reportHeight height) [.sent (.resize height)] :=
  (goes_log session _).trans (goes_send _ (by simp [IsOnward, IsInner]) rfl)

theorem lawful_succeed (session : Session σ) : Lawful safe bound session (succeed session) :=
  (lawful_finish _).after ((goes_send _ (by simp [IsOnward, IsInner]) rfl).trans (goes_log _ _))

theorem lawful_measure (setup : Setup σ) (session : Session σ) :
    Lawful setup.document.Steady 2 session (measure setup session) := by
  have found := goes_findHeight setup.document session
  have crash := crash?_findHeight setup.document session
  simp only [measure]
  split
  next note crashed =>
      rw [crashed] at crash
      have unsteady : ¬ setup.document.Steady := fun steady =>
        (steady.height _).crash?_ne note crash.symm
      exact (lawful_crashed _ note unsteady).after found
  next => exact (lawful_succeed _).after found
  next => exact (lawful_succeed _).after found
  next => exact (lawful_asleep _ _ (by simp [Stage.rank]) fun _ => by trivial).after found

theorem lawful_evaluate (program : Program) (session : Session σ) :
    Lawful setup.document.Steady 2 session (evaluate setup program session) := by
  have called := goes_evaluated setup program session
  cases shown : evaluation setup program session with
  | error failure =>
      rw [evaluate_of_error shown]
      exact (lawful_finish _).after (called.trans (goes_report _ failure))
  | ok _ =>
      rw [evaluate_of_ok shown]
      exact (lawful_measure setup _).after called

theorem lawful_render (markup : Markup) (program : Option Program) (session : Session σ) :
    Lawful setup.document.Steady 2 session (render setup markup program session) := by
  refine Lawful.after ?_ (goes_enter session .rendering)
  refine lawful_proceed (by simp) (fun steady => steady.replace markup _) fun session => ?_
  cases program with
  | none => exact lawful_finish session
  | some program => exact lawful_evaluate program session

theorem adds_firstLoad (session : Session σ) (firstLoad : Bool) :
    session.Adds { session with firstLoad } [] :=
  adds_of_trace_eq rfl rfl rfl

theorem lawful_compiled (request : CompileRequest) (ready : ReadyPreset)
    (result : Except Failure Program) (session : Session σ) :
    Lawful setup.document.Steady 2 session (compiled setup request ready result session) := by
  have loaded := adds_firstLoad session false
  cases result with
  | error failure =>
      refine (lawful_render _ none _).after
        ⟨loaded.trans ((adds_report _ failure).trans (adds_send _ (.done true))), ?_, ?_⟩
      · simp [IsOnward, IsInner, reportOf]
      · refine (firstLoad_of_memory
          ((memory_send _ (.done true)).trans (memory_report _ failure))).trans ?_
        simp [EndsCompile]
  | ok program =>
      refine (lawful_render _ (some program) _).after
        ⟨loaded.trans (adds_send _ (.done false)), ?_, ?_⟩
      · simp [IsOnward, IsInner]
      · exact (firstLoad_of_memory (memory_send _ (.done false))).trans (by simp [EndsCompile])

theorem lawful_compile (request : CompileRequest) (ready : ReadyPreset) (session : Session σ) :
    Lawful setup.document.Steady 3 session (compile setup request ready session) := by
  have entered : Goes session
      ((enter session .compiling).logAll (Plan.records ready request.sources)) [] :=
    (goes_enter session .compiling).trans (goes_logAll _ _)
  simp only [compile]
  cases Plan.make ready request.sources with
  | error failure => exact ((lawful_compiled request ready _ _).mono id (by omega)).after entered
  | ok plan =>
      exact (lawful_asleep _ _ (by simp [Stage.rank]) fun _ => by trivial).after
        (entered.trans ((goes_log _ plan.compilingRecord).trans (goes_ask _ (by simp) _)))

theorem adds_endPreset (session : Session σ) (preset : Preset) (outcome : Outcome TransformerSet) :
    session.Adds (session.endPreset preset outcome).2 [] := by
  cases outcome with
  | ok transformers => exact adds_log session _
  | failed failure => exact adds_nil session
  | crashed note => exact adds_nil session

theorem goes_endPreset (session : Session σ) (preset : Preset) (outcome : Outcome TransformerSet) :
    Goes session (session.endPreset preset outcome).2 [] := by
  refine goes_of_adds_nil (adds_endPreset session preset outcome) ?_
  cases outcome with
  | ok transformers => exact firstLoad_of_memory (memory_log session _)
  | failed failure => rfl
  | crashed note => rfl

theorem adds_ready (session : Session σ) (ready : Option ReadyPreset) :
    session.Adds { session with ready } [] :=
  adds_of_trace_eq rfl rfl rfl

theorem lawful_activated (request : CompileRequest) (preset : Preset)
    (outcome : Outcome TransformerSet) (session : Session σ) :
    Lawful setup.document.Steady 3 session (activated setup request preset outcome session) := by
  have ended := goes_endPreset session preset outcome
  simp only [activated]
  cases (session.endPreset preset outcome).1.caught fun note => .presetInit preset.name note with
  | error failure => exact (lawful_finish _).after (ended.trans (goes_report _ failure))
  | ok ready =>
      exact (lawful_compile request ready _).after
        (ended.trans (goes_of_adds_nil (adds_ready _ (some ready)) rfl))

theorem goes_beginLoads (backend : Backend σ) (preset : Preset) (names : List String)
    (session : Session σ) :
    Goes session (session.beginLoads backend preset names).2
      ((session.beginLoads backend preset names).1.map fun load => .called (.load load.1)) := by
  induction names generalizing session with
  | nil => exact goes_of_adds_nil (adds_nil session) rfl
  | cons name rest ih =>
      simp only [beginLoads]
      generalize asked : ask _ (Call.load name) _ = answer
      have first : Goes session answer.2 [.called (.load name)] := by
        rw [← asked]
        exact (goes_log session _).trans (goes_ask _ (by simp) _)
      split
      · exact first
      · exact first.trans (ih answer.2)

theorem adds_beginLoads (backend : Backend σ) (preset : Preset) (names : List String)
    (session : Session σ) :
    session.Adds (session.beginLoads backend preset names).2
      ((session.beginLoads backend preset names).1.map fun load => .called (.load load.1)) :=
  (goes_beginLoads backend preset names session).adds

theorem lawful_activate (request : CompileRequest) (session : Session σ) :
    Lawful setup.document.Steady 4 session (activate setup request session) := by
  have resolved : Goes session
      (session.logAll (setup.registry.resolveRecords request.template)) [] :=
    goes_logAll session _
  simp only [activate]
  split
  · exact ((lawful_compile request _ _).mono id (by omega)).after (resolved.trans (goes_log _ _))
  · exact (lawful_asleep _ _ (by simp [Stage.rank]) fun _ => by trivial).after
      (resolved.trans (goes_beginLoads setup.backend _ _ _))

theorem lawful_toolsLoaded (request : CompileRequest) (kind : DevTools) (outcome : Outcome Unit)
    (session : Session σ) :
    Lawful (setup.document.Steady ∧ outcome.Steady) 4 session
      (toolsLoaded setup request kind outcome session) := by
  cases outcome with
  | crashed note => exact lawful_crashed session note fun safe => nomatch safe.2
  | ok _ => exact (lawful_activate request session).mono And.left (Nat.le_refl 4)
  | failed failure =>
      exact ((lawful_activate request _).mono And.left (Nat.le_refl 4)).after
        (goes_log session _)

theorem lawful_resume (setup : Setup σ) (stage : Stage) (session : Session σ) :
    Lawful (setup.document.Steady ∧ stage.Steady) stage.rank session
      (resume setup stage session) := by
  cases stage with
  | devTools request kind outcome => exact lawful_toolsLoaded request kind outcome session
  | loading request preset outcome =>
      exact (lawful_activated request preset outcome session).mono And.left (Nat.le_refl 3)
  | building request ready outcome =>
      exact (lawful_compiled request ready _ session).mono And.left (Nat.le_refl 2)
  | reporting height => exact (lawful_succeed _).after (goes_reportHeight session height)

theorem adds_levelled (setup : Setup σ) (request : CompileRequest) (session : Session σ) :
    session.Adds (levelled setup request session) [] := by
  unfold levelled
  cases request.logLevel with
  | none => exact adds_nil session
  | some level => exact adds_applyLevel session setup.control level

@[simp] theorem memory_levelled (setup : Setup σ) (request : CompileRequest)
    (session : Session σ) : (levelled setup request session).memory = session.memory := by
  unfold levelled
  cases request.logLevel <;> simp

/-- The answer to the configuration that a cycle begins with, and the session after it. -/
def configured (setup : Setup σ) (request : CompileRequest) (session : Session σ) :
    Outcome Unit × Session σ :=
  (levelled setup request (session.note (.begun request))).ask
    (.configureFiles request.hasFileResolver)
    (setup.backend.configureFiles request.hasFileResolver)

theorem adds_configured (setup : Setup σ) (request : CompileRequest) (session : Session σ) :
    session.Adds (configured setup request session).2
      [.begun request, .called (.configureFiles request.hasFileResolver)] :=
  (adds_note session rfl).trans ((adds_levelled setup request _).trans (adds_ask _ _ _))

@[simp] theorem memory_configured (setup : Setup σ) (request : CompileRequest)
    (session : Session σ) :
    (configured setup request session).2.memory = session.memory := by
  simp [configured]

theorem lawful_loadTools (setup : Setup σ) (request : CompileRequest) (session : Session σ) :
    Lawful setup.document.Steady 5 session (loadTools setup request session) := by
  have entered := goes_enter session .initializing
  simp only [loadTools]
  cases request.devTools with
  | none => exact ((lawful_activate request _).mono id (by omega)).after entered
  | some kind =>
      refine (lawful_asleep _ _ (by simp [Stage.rank]) fun steady => ?_).after
        (entered.trans (goes_ask _ (by simp) _))
      exact steady.loadDevTools kind _

/-- What announces a cycle; the first after a load resets the modules. -/
def announcement (firstLoad : Bool) : List Event :=
  [.sent (.start firstLoad), .sent (.status .initializing)] ++
    if firstLoad then [.called .resetModules] else []

/-- The session of a cycle that has been announced. -/
def announced (setup : Setup σ) (session : Session σ) : Session σ :=
  let announced := (session.send (.start session.firstLoad)).send (.status .initializing)
  if session.firstLoad then
    ((announced.log (.debug "first load, resetting modules" [])).ask .resetModules
      setup.backend.resetModules).2
  else announced

theorem adds_announced (setup : Setup σ) (session : Session σ) :
    session.Adds (announced setup session) (announcement session.firstLoad) := by
  have started := (adds_send session (.start session.firstLoad)).trans
    (adds_send _ (.status .initializing))
  cases first : session.firstLoad with
  | true =>
      simp only [announced, announcement, first, if_true] at started ⊢
      exact started.trans ((adds_log _ _).trans (adds_ask _ .resetModules _))
  | false =>
      simp only [announced, announcement, first] at started ⊢
      exact started

@[simp] theorem memory_announced (setup : Setup σ) (session : Session σ) :
    (announced setup session).memory = session.memory := by
  unfold announced
  split <;> simp

theorem lawful_announce (setup : Setup σ) (request : CompileRequest) (session : Session σ) :
    Lawful setup.Steady 5 (announced setup session) (announce setup request session) := by
  have tools := (lawful_loadTools setup request (announced setup session)).mono
    Setup.Steady.document (Nat.le_refl 5)
  cases firstLoad : session.firstLoad with
  | false =>
      simp only [announce, announced, firstLoad] at tools ⊢
      exact tools
  | true =>
      simp only [announce, announced, firstLoad, proceed, if_true] at tools ⊢
      split
      next note crashed =>
          exact lawful_crashed _ note fun steady => (steady.resetModules _).crash?_ne note crashed
      next => exact tools

theorem begin_cases (setup : Setup σ) (request : CompileRequest) (session : Session σ) :
    (∃ note, begin setup request session = (.crashed note, (configured setup request session).2) ∧
      ¬ setup.Steady) ∨
      begin setup request session =
        announce setup request (configured setup request session).2 := by
  simp only [begin, proceed]
  rw [← configured]
  split
  next note crashed =>
      exact .inl ⟨note, rfl, fun steady => (steady.configureFiles _ _).crash?_ne note crashed⟩
  next => exact .inr rfl

theorem exists_adds_begin (setup : Setup σ) (request : CompileRequest) (session : Session σ) :
    ∃ events, session.Adds (begin setup request session).2 events := by
  have configures := adds_configured setup request session
  rcases begin_cases setup request session with ⟨note, crashed, _⟩ | announced
  · rw [crashed]
    exact ⟨_, configures⟩
  · obtain ⟨_, announces, _⟩ :=
      (lawful_announce setup request (configured setup request session).2).adds
    rw [announced]
    exact ⟨_, configures.trans ((adds_announced setup _).trans announces)⟩

theorem tame_begin (setup : Setup σ) (request : CompileRequest) (session : Session σ) :
    Tame setup.Steady 5 (begin setup request session).1 := by
  rcases begin_cases setup request session with ⟨note, crashed, unsteady⟩ | announced
  · rw [crashed]
    exact tame_crashed note unsteady
  · rw [announced]
    exact (lawful_announce setup request _).toTame

end Cycle

end LivePreview
