import LivePreview.Proofs.Cycle.Steps
import LivePreview.Proofs.Session.Said

namespace LivePreview

/-! A cycle as a whole.  Taken in one go it makes its preset ready, builds, renders and evaluates;
what it brings about on the way is known beforehand.  How far it comes is its course, and the course
settles the messages that the cycle sends. -/

namespace Cycle

open Session

variable {σ : Type u} {setup : Setup σ} {request : CompileRequest} {session : Session σ}

/-- The cycle announced, and its modules reset if it is the first. -/
def opening (setup : Setup σ) (request : CompileRequest) (session : Session σ) : Session σ :=
  let session := (configured setup request session).2
  let announced := (session.send (.start session.firstLoad)).send (.status .initializing)
  if session.firstLoad then
    ((announced.log (.debug "first load, resetting modules" [])).ask .resetModules
      setup.backend.resetModules).2
  else announced

def opened (setup : Setup σ) (request : CompileRequest) (session : Session σ) : Session σ :=
  let session := enter (opening setup request session) .initializing
  match request.devTools with
  | none => session
  | some kind =>
    let (reply, session) := session.ask (.loadDevTools kind) (setup.document.loadDevTools kind)
    let session := session.pass setup.document reply.delay
    match reply.outcome with
    | .failed failure => session.log
      (.warn ("devtools integration failed to load: " ++ failure.message) [("kind", kind.label)])
    | .ok () | .crashed _ => session

/-- The preset of the request, loaded unless it is the one that is ready. -/
def readied (setup : Setup σ) (request : CompileRequest) (session : Session σ) :
    Except Failure ReadyPreset × Session σ :=
  let preset := setup.registry.resolve request.template
  let session := session.logAll (setup.registry.resolveRecords request.template)
  match session.ready.filter fun ready => ready.preset = preset with
  | some ready =>
    (.ok ready, session.log (.debug "reusing initialized preset" [("preset", preset.name)]))
  | none =>
    let (outcome, session) := session.loadPreset setup.backend setup.document preset
    match outcome.caught fun note => .presetInit preset.name note with
    | .error failure => (.error failure, session)
    | .ok ready => (.ok ready, { session with ready := some ready })

def built (setup : Setup σ) (request : CompileRequest) (ready : ReadyPreset) (session : Session σ) :
    Except Failure Program × Session σ :=
  let session := (enter session .compiling).logAll (Plan.records ready request.sources)
  match Plan.make ready request.sources with
  | .error failure => (.error failure, session)
  | .ok plan =>
    let (reply, session) := (session.log plan.compilingRecord).ask (.build plan)
      (setup.backend.build plan)
    (reply.outcome.caught .build, session.pass setup.document reply.delay)

def rendered (setup : Setup σ) (markup : Markup) (session : Session σ) : Session σ :=
  ((enter session .rendering).ask (.replaceDocument markup) (setup.document.replace markup)).2

/-- The session of a program that has been built and is about to be evaluated. -/
def shownPage (setup : Setup σ) (request : CompileRequest) (ready : ReadyPreset)
    (session : Session σ) : Session σ :=
  rendered setup (Markup.select request.sources ready.preset)
    ({ session with firstLoad := false }.send (.done false))

theorem complete_of_awake {step : Progress × Session σ}
    (awake : ∀ wake stage, step.1 ≠ .asleep wake stage) (count : Nat) :
    complete setup count step = step := by
  obtain ⟨progress, session⟩ := step
  cases count with
  | zero => rfl
  | succ count =>
      cases progress with
      | asleep wake stage => exact (awake wake stage rfl).elim
      | ended => rfl
      | crashed note => rfl

theorem complete_asleep (setup : Setup σ) (count delay : Nat) (stage : Stage)
    (session : Session σ) :
    complete setup (count + 1) (.asleep (session.now + delay) stage, session) =
      complete setup count (resume setup stage (session.pass setup.document delay)) := by
  simp only [complete, Nat.add_sub_cancel_left]

theorem complete_compiled (request : CompileRequest) (ready : ReadyPreset)
    (result : Except Failure Program) (session : Session σ) (count : Nat) :
    complete setup (count + 1) (compiled setup request ready result session) =
      complete setup 1 (compiled setup request ready result session) := by
  have lawful : Lawful setup.document.Steady 2 session
      (compiled setup request ready result session) :=
    lawful_compiled request ready result session
  generalize compiled setup request ready result session = step at lawful ⊢
  obtain ⟨progress, session⟩ := step
  cases progress with
  | ended => rfl
  | crashed note => rfl
  | asleep wake stage =>
      have shallow := (lawful.sleeps wake stage rfl).1
      cases stage with
      | reporting height => exact complete_of_awake (by simp [resume, succeed, finish]) count
      | devTools | loading | building => simp [Stage.rank] at shallow

theorem complete_compile (request : CompileRequest) (ready : ReadyPreset) (session : Session σ)
    (count : Nat) :
    complete setup (count + 2) (compile setup request ready session) =
      complete setup 1 (compiled setup request ready (built setup request ready session).1
        (built setup request ready session).2) := by
  simp only [compile, built]
  cases Plan.make ready request.sources with
  | error failure => exact complete_compiled request ready _ _ _
  | ok plan =>
      simp only [complete_asleep, resume]
      exact complete_compiled request ready _ _ _

theorem complete_activate (request : CompileRequest) (session : Session σ) (count : Nat) :
    complete setup (count + 3) (activate setup request session) =
      match readied setup request session with
      | (.error failure, session) => finish (session.report failure)
      | (.ok ready, session) =>
        complete setup 1 (compiled setup request ready (built setup request ready session).1
          (built setup request ready session).2) := by
  simp only [activate, readied, loadPreset]
  cases Option.filter _ (session.logAll (setup.registry.resolveRecords request.template)).ready with
  | some ready => exact complete_compile request ready _ (count + 1)
  | none =>
      simp only [complete_asleep, resume, activated]
      cases Outcome.caught _ _ with
      | error failure => exact complete_of_awake (by simp [finish]) _
      | ok ready => exact complete_compile request ready _ count

theorem complete_ended (steady : setup.document.Steady) {safe : Prop} (holds : safe) {count : Nat}
    {step : Progress × Session σ} (tame : Tame safe (count + 1) step.1) :
    (complete setup count step).1 = .ended := by
  obtain ⟨progress, session⟩ := step
  induction count generalizing progress session with
  | zero =>
      cases progress with
      | ended => rfl
      | crashed note => exact (tame.steady holds note rfl).elim
      | asleep wake stage =>
          have deep := (tame.sleeps wake stage rfl).1
          have positive := rank_pos stage
          omega
  | succ count ih =>
      cases progress with
      | ended => rfl
      | crashed note => exact (tame.steady holds note rfl).elim
      | asleep wake stage =>
          obtain ⟨deep, sound⟩ := tame.sleeps wake stage rfl
          have lawful := lawful_resume setup stage
            (session.pass setup.document (wake - session.now))
          exact ih _ _ (lawful.mono (fun holds => ⟨steady, sound holds⟩) (by omega)).toTame

theorem run_ended (steady : setup.Steady) (request : CompileRequest) (session : Session σ) :
    (run setup request session).1 = .ended :=
  complete_ended steady.document steady (tame_begin setup request session)

theorem uncrashed_of_complete {count : Nat} {step : Progress × Session σ}
    (uncrashed : ∀ note, (complete setup count step).1 ≠ .crashed note) (note : Option String) :
    step.1 ≠ .crashed note := by
  intro crashed
  refine uncrashed note ?_
  rw [complete_of_awake (by simp [crashed])]
  exact crashed

theorem proceed_of_uncrashed {call : Call} {answer : σ → Answer σ (Outcome Unit)}
    {next : Session σ → Progress × Session σ}
    (uncrashed : ∀ note, (proceed call answer next session).1 ≠ .crashed note) :
    proceed call answer next session = next (session.ask call answer).2 := by
  simp only [proceed] at uncrashed ⊢
  split
  next note crashed =>
      rw [crashed] at uncrashed
      exact (uncrashed note rfl).elim
  next => rfl

theorem begin_eq (uncrashed : ∀ note, (begin setup request session).1 ≠ .crashed note) :
    begin setup request session = loadTools setup request (opening setup request session) := by
  rcases begin_cases setup request session with ⟨note, crashed, _⟩ | announces
  · exact (uncrashed note (by rw [crashed])).elim
  · rw [announces] at uncrashed ⊢
    simp only [announce, opening] at uncrashed ⊢
    generalize (configured setup request session).2 = session at uncrashed ⊢
    cases firstLoad : session.firstLoad with
    | true =>
        rw [firstLoad] at uncrashed
        exact proceed_of_uncrashed uncrashed
    | false => rfl

theorem run_eq (uncrashed : ∀ note, (run setup request session).1 ≠ .crashed note) :
    run setup request session =
      match readied setup request (opened setup request session) with
      | (.error failure, session) => finish (session.report failure)
      | (.ok ready, session) =>
        complete setup 1 (compiled setup request ready (built setup request ready session).1
          (built setup request ready session).2) := by
  rw [run, begin_eq (uncrashed_of_complete uncrashed)]
  rw [run, begin_eq (uncrashed_of_complete uncrashed)] at uncrashed
  simp only [loadTools, opened] at uncrashed ⊢
  generalize enter (opening setup request session) .initializing = session at uncrashed ⊢
  cases devTools : request.devTools with
  | none => exact complete_activate request session 1
  | some kind =>
      simp only [devTools] at uncrashed ⊢
      generalize session.ask (.loadDevTools kind) (setup.document.loadDevTools kind) = answer
        at uncrashed ⊢
      obtain ⟨reply, session⟩ := answer
      simp only [complete_asleep, resume] at uncrashed ⊢
      cases outcome : reply.outcome with
      | ok _ => exact complete_activate request _ 0
      | failed failure => exact complete_activate request _ 0
      | crashed note =>
          rw [outcome] at uncrashed
          exact (uncrashed_of_complete uncrashed note rfl).elim

/-- Measuring and reporting, one after the other, are one check. -/
theorem complete_measure (uncrashed : ∀ note, (measure setup session).1 ≠ .crashed note)
    (count : Nat) :
    complete setup (count + 1) (measure setup session) =
      succeed (session.checkHeight setup.document).2 := by
  simp only [measure, checkHeight] at uncrashed ⊢
  generalize session.findHeight setup.document = step at uncrashed ⊢
  obtain ⟨found, session⟩ := step
  cases found with
  | crashed note => exact (uncrashed note rfl).elim
  | failed failure => exact complete_of_awake (by simp [succeed, finish]) _
  | ok found =>
      cases found with
      | none => exact complete_of_awake (by simp [succeed, finish]) _
      | some height =>
          simp only [complete, Nat.sub_self, pass_zero, resume]
          exact complete_of_awake (by simp [succeed, finish]) _

theorem render_eq {markup : Markup} {program : Option Program}
    (uncrashed : ∀ note, (render setup markup program session).1 ≠ .crashed note) :
    render setup markup program session =
      match program with
      | none => finish (rendered setup markup session)
      | some program => evaluate setup program (rendered setup markup session) := by
  unfold render at uncrashed ⊢
  rw [proceed_of_uncrashed uncrashed]
  cases program <;> rfl

def openedEvents (request : CompileRequest) (firstLoad : Bool) : List Event :=
  [.begun request, .called (.configureFiles request.hasFileResolver)] ++ announcement firstLoad ++
    request.devTools.toList.map fun kind => .called (.loadDevTools kind)

theorem brings_opening (setup : Setup σ) (request : CompileRequest) (session : Session σ) :
    Brings session (opening setup request session)
      ([.begun request, .called (.configureFiles request.hasFileResolver)] ++
        announcement session.firstLoad) := by
  have announces := adds_announced setup (configured setup request session).2
  rw [firstLoad_of_memory (memory_configured setup request session)] at announces
  exact ((adds_configured setup request session).trans announces).brings

theorem brings_opened (setup : Setup σ) (request : CompileRequest) (session : Session σ)
    (working : session.part ≠ .poller) :
    Brings session (opened setup request session) (openedEvents request session.firstLoad) := by
  have opens := (brings_opening setup request session).trans (adds_enter _ .initializing).brings
  simp only [opened, openedEvents]
  cases request.devTools with
  | none => exact opens
  | some kind =>
      rw [List.append_nil] at opens
      have asked := opens.trans (adds_ask _ (.loadDevTools kind)
        (setup.document.loadDevTools kind)).brings
      simp only
      generalize (enter (opening setup request session) .initializing).ask (.loadDevTools kind)
        (setup.document.loadDevTools kind) = answer at asked ⊢
      obtain ⟨reply, session⟩ := answer
      have passed := asked.trans_nil
        (brings_pass setup.document reply.delay _ (by rwa [asked.part]))
      split
      · exact passed.trans_nil (adds_log _ _).brings
      · exact passed
      · exact passed

def loadCalls (loads : List Load) : List Event :=
  loads.map fun load => .called (.load load.1)

theorem brings_loadPreset (backend : Backend σ) (document : Document σ) (preset : Preset)
    (session : Session σ) (working : session.part ≠ .poller) :
    Brings session (session.loadPreset backend document preset).2
      (loadCalls (session.beginLoads backend preset preset.transformerNames).1) := by
  have begun := (adds_beginLoads backend preset preset.transformerNames session).brings
  have passed := begun.trans_nil (brings_pass document
    (session.beginPreset backend preset).1.delay _ (by rwa [begun.part]))
  exact passed.trans_nil (adds_endPreset _ preset
    (session.beginPreset backend preset).1.outcome).brings

/-- The loads that a cycle begins to make its preset ready. -/
def loadsBegun (setup : Setup σ) (request : CompileRequest) (session : Session σ) : List Load :=
  let preset := setup.registry.resolve request.template
  let session := session.logAll (setup.registry.resolveRecords request.template)
  match session.ready.filter fun ready => ready.preset = preset with
  | some _ => []
  | none => (session.beginLoads setup.backend preset preset.transformerNames).1

theorem brings_readied (setup : Setup σ) (request : CompileRequest) (session : Session σ)
    (working : session.part ≠ .poller) :
    Brings session (readied setup request session).2
      (loadCalls (loadsBegun setup request session)) := by
  have resolved := (adds_logAll session (setup.registry.resolveRecords request.template)).brings
  simp only [readied, loadsBegun]
  split
  · exact resolved.trans (adds_log _ _).brings
  · have loaded := resolved.trans (brings_loadPreset setup.backend setup.document
      (setup.registry.resolve request.template) _ (by rwa [resolved.part]))
    split
    · exact loaded
    · exact loaded.trans_nil (adds_ready _ _).brings

def buildCalls (request : CompileRequest) (ready : ReadyPreset) : List Event :=
  match Plan.make ready request.sources with
  | .error _ => []
  | .ok plan => [.called (.build plan)]

theorem brings_built (setup : Setup σ) (request : CompileRequest) (ready : ReadyPreset)
    (session : Session σ) (working : session.part ≠ .poller) :
    Brings session (built setup request ready session).2 (buildCalls request ready) := by
  have entered := ((adds_enter session .compiling).trans
    (adds_logAll _ (Plan.records ready request.sources))).brings
  simp only [built, buildCalls]
  cases Plan.make ready request.sources with
  | error failure => exact entered
  | ok plan =>
      have asked := entered.trans ((adds_log _ plan.compilingRecord).trans
        (adds_ask _ (.build plan) (setup.backend.build plan))).brings
      exact asked.trans (brings_pass setup.document _ _ (by rwa [asked.part]))

theorem brings_rendered (setup : Setup σ) (markup : Markup) (session : Session σ) :
    Brings session (rendered setup markup session) [.called (.replaceDocument markup)] :=
  ((adds_enter session .rendering).trans
    (adds_ask _ (.replaceDocument markup) (setup.document.replace markup))).brings

theorem brings_shownPage (setup : Setup σ) (request : CompileRequest) (ready : ReadyPreset)
    (session : Session σ) :
    Brings session (shownPage setup request ready session)
      [.sent (.done false),
        .called (.replaceDocument (Markup.select request.sources ready.preset))] :=
  ((adds_firstLoad session false).trans (adds_send _ (.done false))).brings.trans
    (brings_rendered setup _ _)

theorem brings_finish_report (session : Session σ) (failure : Failure) :
    Brings session (finish (session.report failure)).2
      [.sent (reportOf failure), .sent (.status .idle)] :=
  ((adds_report session failure).trans (adds_finish _)).brings

/-- What a cycle brings about from the evaluation of its program on. -/
def evaluateEvents (setup : Setup σ) (program : Program) (session : Session σ) : List Event :=
  [.sent (.status .evaluating), .called (.evaluate program)] ++
    match evaluation setup program session with
    | .error failure => [.sent (reportOf failure), .sent (.status .idle)]
    | .ok () =>
      ((evaluated setup program session).2.newHeight? setup.document).toList.map
        (fun height => .sent (.resize height)) ++ [.sent .success, .sent (.status .idle)]

theorem brings_evaluate {program : Program}
    (uncrashed : ∀ note, (evaluate setup program session).1 ≠ .crashed note) :
    Brings session (complete setup 1 (evaluate setup program session)).2
      (evaluateEvents setup program session) := by
  have called := (adds_evaluated setup program session).brings
  unfold evaluateEvents
  cases shown : evaluation setup program session with
  | error failure =>
      rw [evaluate_of_error shown]
      exact called.trans (brings_finish_report _ failure)
  | ok _ =>
      rw [evaluate_of_ok shown] at uncrashed ⊢
      rw [complete_measure uncrashed 0]
      exact called.trans ((adds_checkHeight setup.document _).trans
        ((adds_send _ .success).trans ((adds_log _ (.info "evaluation finished" [])).trans
          (adds_finish _)))).brings

/-- What a cycle brings about from the end of its build on. -/
def compiledEvents (setup : Setup σ) (request : CompileRequest) (ready : ReadyPreset)
    (result : Except Failure Program) (session : Session σ) : List Event :=
  let replaced := .called (.replaceDocument (Markup.select request.sources ready.preset))
  match result with
  | .error failure =>
    [.sent (reportOf failure), .sent (.done true), replaced, .sent (.status .idle)]
  | .ok program =>
    [.sent (.done false), replaced] ++
      evaluateEvents setup program (shownPage setup request ready session)

theorem brings_compiled {request : CompileRequest} {ready : ReadyPreset}
    {result : Except Failure Program}
    (uncrashed : ∀ note, (compiled setup request ready result session).1 ≠ .crashed note) :
    Brings session (complete setup 1 (compiled setup request ready result session)).2
      (compiledEvents setup request ready result session) := by
  cases result with
  | error failure =>
      have announced := (adds_firstLoad session false).trans
        ((adds_report _ failure).trans (adds_send _ (.done true)))
      have page := announced.brings.trans
        (brings_rendered setup (Markup.select request.sources ready.preset) _)
      simp only [compiled] at uncrashed ⊢
      rw [render_eq uncrashed]
      exact page.trans (adds_finish _).brings
  | ok program =>
      simp only [compiled] at uncrashed ⊢
      have page := render_eq uncrashed
      rw [page] at uncrashed ⊢
      exact (brings_shownPage setup request ready session).trans (brings_evaluate uncrashed)

/-- What a cycle brings about once its preset is ready, or is not. -/
def readiedEvents (setup : Setup σ) (request : CompileRequest) :
    Except Failure ReadyPreset × Session σ → List Event
  | (.error failure, _) => [.sent (reportOf failure), .sent (.status .idle)]
  | (.ok ready, session) =>
    buildCalls request ready ++
      compiledEvents setup request ready (built setup request ready session).1
        (built setup request ready session).2

/-- What a cycle brings about that no crash takes with it. -/
def events (setup : Setup σ) (request : CompileRequest) (session : Session σ) : List Event :=
  openedEvents request session.firstLoad ++
    (loadCalls (loadsBegun setup request (opened setup request session)) ++
      readiedEvents setup request (readied setup request (opened setup request session)))

theorem brings_run (uncrashed : ∀ note, (run setup request session).1 ≠ .crashed note)
    (working : session.part ≠ .poller) :
    Brings session (run setup request session).2 (events setup request session) := by
  have opens := brings_opened setup request session working
  have readies := brings_readied setup request (opened setup request session)
    (by rwa [opens.part])
  have part := opens.part
  have phases := run_eq uncrashed
  rw [phases] at uncrashed ⊢
  refine opens.trans ?_
  generalize opened setup request session = session at *
  generalize loadsBegun setup request session = loads at *
  generalize readied setup request session = readiedStep at *
  obtain ⟨readiness, afterReadying⟩ := readiedStep
  cases readiness with
  | error failure => exact readies.trans (brings_finish_report _ failure)
  | ok ready =>
      have builds := brings_built setup request ready afterReadying (by
        rw [readies.part, part]
        exact working)
      exact readies.trans (builds.trans (brings_compiled (uncrashed_of_complete uncrashed)))

/-- How far a cycle comes. -/
inductive Course
  /-- The preset did not become ready. -/
  | unready (failure : Failure)
  /-- There was no plan, or the build failed. -/
  | unbuilt (failure : Failure)
  /-- The program threw. -/
  | unshown (failure : Failure)
  /-- The program ran, and changed the height if one is given. -/
  | shown (height : Option UInt32)

/-- The course of a cycle in which only loads, the build and the program may crash. -/
def course (setup : Setup σ) (request : CompileRequest) (session : Session σ) : Course :=
  match readied setup request (opened setup request session) with
  | (.error failure, _) => .unready failure
  | (.ok ready, session) =>
    match built setup request ready session with
    | (.error failure, _) => .unbuilt failure
    | (.ok program, session) =>
      let session := shownPage setup request ready session
      match evaluation setup program session with
      | .error failure => .unshown failure
      | .ok () => .shown ((evaluated setup program session).2.newHeight? setup.document)

namespace Course

def isReady : Course → Bool
  | .unready _ => false
  | _ => true

def isShown : Course → Bool
  | .shown _ => true
  | _ => false

/-- What a cycle sends, from its start to its end. -/
def messages (firstLoad : Bool) : Course → List Outbound
  | .unready failure =>
    [.start firstLoad, .status .initializing, reportOf failure, .status .idle]
  | .unbuilt failure =>
    [.start firstLoad, .status .initializing, reportOf failure, .done true, .status .idle]
  | .unshown failure =>
    [.start firstLoad, .status .initializing, .done false, .status .evaluating, reportOf failure,
      .status .idle]
  | .shown height =>
    [.start firstLoad, .status .initializing, .done false, .status .evaluating] ++
      height.toList.map .resize ++ [.success, .status .idle]

end Course

def IsAction (message : Outbound) : Bool :=
  match message with
  | .action _ => true
  | _ => false

/-- One action or one success, and one idle status, which comes last. -/
structure Closed (shown : Bool) (messages : List Outbound) : Prop where
  action : messages.countP IsAction = if shown then 0 else 1
  success : messages.count .success = if shown then 1 else 0
  idle : messages.count (.status .idle) = 1
  last : messages.getLast? = some (.status .idle)

theorem Course.closed (course : Course) (firstLoad : Bool) :
    Closed course.isShown (course.messages firstLoad) := by
  cases course with
  | unready failure => constructor <;> rfl
  | unbuilt failure => constructor <;> rfl
  | unshown failure => constructor <;> rfl
  | shown height =>
      cases height <;> constructor <;> rfl

theorem sentIn_openedEvents (request : CompileRequest) (firstLoad : Bool) :
    sentIn (openedEvents request firstLoad) = [.start firstLoad, .status .initializing] := by
  cases firstLoad <;> simp [openedEvents, announcement]

theorem sentIn_buildCalls (request : CompileRequest) (ready : ReadyPreset) :
    sentIn (buildCalls request ready) = [] := by
  unfold buildCalls
  split <;> rfl

/-- The messages among what a cycle brings about are those of its course. -/
theorem sentIn_events (setup : Setup σ) (request : CompileRequest) (session : Session σ) :
    sentIn (events setup request session) =
      (course setup request session).messages session.firstLoad := by
  simp only [events, course, sentIn_append, sentIn_openedEvents, loadCalls, sentIn_map_called,
    List.nil_append]
  generalize readied setup request (opened setup request session) = readiedStep
  obtain ⟨readiness, afterReadying⟩ := readiedStep
  cases readiness with
  | error failure => rfl
  | ok ready =>
      simp only [readiedEvents, sentIn_append, sentIn_buildCalls, List.nil_append]
      generalize built setup request ready afterReadying = builtStep
      obtain ⟨result, afterBuilding⟩ := builtStep
      cases result with
      | error failure => rfl
      | ok program =>
          simp only [compiledEvents, evaluateEvents]
          cases evaluation setup program (shownPage setup request ready afterBuilding) with
          | error failure => rfl
          | ok _ => simp [Course.messages]

theorem speaks_run (steady : setup.Steady) (request : CompileRequest)
    (session : Session σ) (working : session.part ≠ .poller) :
    (run setup request session).1 = .ended ∧
      saidBy session.part (run setup request session).2.trace =
        saidBy session.part session.trace ++
          (course setup request session).messages session.firstLoad := by
  have ended := run_ended steady request session
  refine ⟨ended, ?_⟩
  rw [← sentIn_events]
  exact (brings_run (by simp [ended]) working).said

/-- Whatever state a cycle finds and however its collaborators answer, it ends, and its worker sends
what its course says: one action or one success, and one idle status, which comes last. -/
theorem run_messages (steady : setup.Steady) (request : CompileRequest)
    (session : Session σ) (task : Nat) :
    let worker := session.handTo (.worker task)
    let cycle := run setup request worker
    let messages := (course setup request worker).messages session.firstLoad
    cycle.1 = .ended ∧
      saidBy (.worker task) cycle.2.trace = saidBy (.worker task) session.trace ++ messages ∧
      Closed (course setup request worker).isShown messages := by
  intro worker cycle messages
  obtain ⟨ended, spoken⟩ := speaks_run steady request worker (by simp [worker, handTo])
  exact ⟨ended, spoken, Course.closed _ _⟩

end Cycle

theorem Cycle.run_messages_headless :
    let request := CompileRequest.ofTemplate (some "react")
    let session := (Session.start Headless.fresh .info).handTo (.worker 1)
    let cycle := Cycle.run Headless.setup request session
    let course := Cycle.course Headless.setup request session
    Headless.setup.Steady ∧ cycle.1 = .ended ∧
      saidBy (.worker 1) cycle.2.trace = course.messages true ∧
      Cycle.Closed course.isShown (course.messages true) :=
  ⟨Headless.steady, Cycle.run_messages Headless.steady _ (Session.start Headless.fresh .info) 1⟩

end LivePreview
