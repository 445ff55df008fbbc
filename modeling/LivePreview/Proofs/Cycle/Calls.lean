import LivePreview.Proofs.Cycle.Activation
import LivePreview.Proofs.Session.Alike

namespace LivePreview

/-! What a cycle has its backend and its document do.  A build needs a plan and a plan needs a
preset; the page is replaced as soon as there is a preset, after the end of the compile has been
announced; and what is evaluated is what was built. -/

/-- A build, a page or an evaluation, or the end of a compile. -/
def Event.isWork : Event → Bool
  | .called (.build _) | .called (.replaceDocument _) | .called (.evaluate _) => true
  | .sent (.done _) => true
  | _ => false

def workOf (events : List Event) : List Event :=
  events.filter Event.isWork

@[simp] theorem workOf_append (first second : List Event) :
    workOf (first ++ second) = workOf first ++ workOf second := by
  simp [workOf]

def Outcome.value? : Outcome α → Option α
  | .ok value => some value
  | _ => none

theorem Outcome.toOption_caught (outcome : Outcome α) (failure : String → Failure) :
    (outcome.caught failure).toOption = outcome.value? := by
  cases outcome <;> rfl

namespace Cycle

open Session

variable {σ : Type u} {setup : Setup σ} {request : CompileRequest} {session : Session σ}

/-- Whether the files are configured, and the modules reset if they are to be, without a crash. -/
def starts (setup : Setup σ) (request : CompileRequest) (session : Session σ) : Bool :=
  let (outcome, configured) := configured setup request session
  outcome.crash?.isNone &&
    (!session.firstLoad || (setup.backend.resetModules configured.host).value.crash?.isNone)

/-- The preset of the request, if the last one fits or its loads succeed. -/
def activated? (setup : Setup σ) (request : CompileRequest) (session : Session σ) :
    Option ReadyPreset :=
  if starts setup request session then
    let opened := opened setup request session
    (fitting? setup request opened).or
      ((initialization setup request opened).value?.map
        (ReadyPreset.mk (setup.registry.resolve request.template)))
  else none

def planned? (setup : Setup σ) (request : CompileRequest) (session : Session σ) : Option Plan :=
  (activated? setup request session).bind fun ready =>
    (Plan.make ready request.sources).toOption

/-- The program that the backend makes of the plan, in the state that the loads leave it in. -/
def returned? (setup : Setup σ) (request : CompileRequest) (session : Session σ) :
    Option Program :=
  (planned? setup request session).bind fun plan =>
    (setup.backend.build plan
      (readied setup request (opened setup request session)).2.host).value.outcome.value?

/-- A build for a plan, a page for a preset, an evaluation for a program. -/
def work (request : CompileRequest) (ready? : Option ReadyPreset) (plan? : Option Plan)
    (program? : Option Program) : List Event :=
  plan?.toList.map (fun plan => .called (.build plan)) ++
    ready?.toList.flatMap (fun ready =>
      [.sent (.done program?.isNone),
        .called (.replaceDocument (Markup.select request.sources ready.preset))]) ++
    program?.toList.map fun program => .called (.evaluate program)

theorem proceed_of_none {call : Call} {answer : σ → Answer σ (Outcome Unit)}
    {next : Session σ → Progress × Session σ}
    (steady : (answer session.host).value.crash? = none) :
    proceed call answer next session = next (session.ask call answer).2 := by
  simp only [proceed, ask, steady]

theorem proceed_of_some {call : Call} {answer : σ → Answer σ (Outcome Unit)}
    {next : Session σ → Progress × Session σ} {note : Option String}
    (crashes : (answer session.host).value.crash? = some note) :
    proceed call answer next session = (.crashed note, (session.ask call answer).2) := by
  simp only [proceed, ask, crashes]

theorem begin_of_starts (does : starts setup request session = true) :
    begin setup request session = loadTools setup request (opening setup request session) := by
  have first := firstLoad_of_memory (memory_configured setup request session)
  simp only [starts, Bool.and_eq_true, Option.isNone_iff_eq_none] at does
  obtain ⟨configures, resets⟩ := does
  unfold begin opening
  rw [proceed_of_none configures]
  change announce setup request (configured setup request session).2 = _
  simp only [announce, first]
  cases firstLoad : session.firstLoad with
  | false => rfl
  | true =>
      simp only [firstLoad, Bool.not_true, Bool.false_or, Option.isNone_iff_eq_none] at resets
      refine proceed_of_none ?_
      rw [(quiet_log _ _).host]
      exact resets

theorem begin_of_not_starts (fails : starts setup request session = false) :
    ∃ note after events, begin setup request session = (.crashed note, after) ∧
      session.Adds after events ∧ workOf events = [] := by
  have first := firstLoad_of_memory (memory_configured setup request session)
  have configures := adds_configured setup request session
  cases crash : (configured setup request session).1.crash? with
  | some note => exact ⟨note, _, _, proceed_of_some crash, configures, rfl⟩
  | none =>
      have announces := configures.trans (adds_announced setup _)
      simp only [starts, crash, Option.isNone_none, Bool.true_and, Bool.or_eq_false_iff,
        Bool.not_eq_false', Option.isNone_eq_false_iff, Option.isSome_iff_exists] at fails
      obtain ⟨firstLoad, note, crashes⟩ := fails
      refine ⟨note, _, _, ?_, announces, ?_⟩
      · unfold begin
        rw [proceed_of_none crash]
        change announce setup request (configured setup request session).2 = _
        simp only [announce, announced, first, firstLoad, if_true]
        refine proceed_of_some ?_
        rw [(quiet_log _ _).host]
        exact crashes
      · simp [first, firstLoad, announcement, workOf, Event.isWork]

theorem workOf_openedEvents (request : CompileRequest) (firstLoad : Bool) :
    workOf (openedEvents request firstLoad) = [] := by
  cases firstLoad <;> simp [openedEvents, announcement, workOf, Event.isWork]

theorem workOf_loadCalls (loads : List Load) : workOf (loadCalls loads) = [] := by
  rw [workOf, List.filter_eq_nil_iff]
  intro event member
  obtain ⟨load, _, rfl⟩ := List.mem_map.mp member
  simp [Event.isWork]

theorem workOf_buildCalls (request : CompileRequest) (ready : ReadyPreset) :
    workOf (buildCalls request ready) =
      (Plan.make ready request.sources).toOption.toList.map fun plan => .called (.build plan) := by
  unfold buildCalls
  cases Plan.make ready request.sources <;> rfl

theorem workOf_evaluateEvents (setup : Setup σ) (program : Program) (session : Session σ) :
    workOf (evaluateEvents setup program session) = [.called (.evaluate program)] := by
  unfold evaluateEvents
  cases evaluation setup program session with
  | error failure => rfl
  | ok _ => cases newHeight? setup.document _ <;> rfl

theorem workOf_compiledEvents (setup : Setup σ) (request : CompileRequest) (ready : ReadyPreset)
    (result : Except Failure Program) (session : Session σ) :
    workOf (compiledEvents setup request ready result session) =
      [.sent (.done result.toOption.isNone),
        .called (.replaceDocument (Markup.select request.sources ready.preset))] ++
      result.toOption.toList.map fun program => .called (.evaluate program) := by
  cases result with
  | error failure => rfl
  | ok program =>
      simp only [compiledEvents, workOf_append, workOf_evaluateEvents]
      rfl

theorem built_value (setup : Setup σ) (request : CompileRequest) (ready : ReadyPreset)
    (session : Session σ) :
    (built setup request ready session).1.toOption =
      (Plan.make ready request.sources).toOption.bind fun plan =>
        (setup.backend.build plan session.host).value.outcome.value? := by
  have host : ((enter session .compiling).logAll (Plan.records ready request.sources)).host =
      session.host := ((quiet_log session _).trans (quiet_logAll _ _)).host
  simp only [built]
  cases Plan.make ready request.sources with
  | error failure => rfl
  | ok plan =>
      simp only [Outcome.toOption_caught, ask, (quiet_log _ _).host, host]
      rfl

theorem run_of_starts (steady : setup.document.Steady)
    (does : starts setup request session = true) :
    (run setup request session).1 = .ended := by
  unfold run
  rw [begin_of_starts does]
  exact complete_ended steady steady (lawful_loadTools setup request _).toTame

theorem activated?_of_starts (does : starts setup request session = true) :
    activated? setup request session =
      (readied setup request (opened setup request session)).1.toOption := by
  unfold activated?
  rw [if_pos does]
  generalize opened setup request session = opened
  simp only
  cases fits : fitting? setup request opened with
  | some ready =>
      rw [(readied_of_fitting fits).1]
      rfl
  | none =>
      cases loads : initialization setup request opened with
      | ok transformers =>
          rw [(readied_of_initialized fits loads).1]
          rfl
      | failed failure | crashed note =>
          obtain ⟨⟨failure, unready⟩, _⟩ := readied_of_uninitialized fits (by rw [loads]; rfl)
          rw [unready]
          rfl

theorem workOf_events (does : starts setup request session = true) :
    workOf (events setup request session) =
      work request (activated? setup request session) (planned? setup request session)
        (returned? setup request session) := by
  unfold returned? planned?
  rw [activated?_of_starts does, events, workOf_append, workOf_append, workOf_openedEvents,
    workOf_loadCalls, List.nil_append, List.nil_append]
  generalize readied setup request (opened setup request session) = readiedStep
  obtain ⟨readiness, afterReadying⟩ := readiedStep
  cases readiness with
  | error failure => rfl
  | ok ready =>
      simp only [readiedEvents, workOf_append, workOf_buildCalls, workOf_compiledEvents,
        built_value]
      exact (List.append_assoc _ _ _).symm

theorem work_of_not_starts (fails : starts setup request session = false) :
    work request (activated? setup request session) (planned? setup request session)
      (returned? setup request session) = [] := by
  have unready : activated? setup request session = none := by simp [activated?, fails]
  simp only [returned?, planned?, unready]
  rfl

theorem brings_work (steady : setup.document.Steady) (working : session.part ≠ .poller) :
    ∃ events, Brings session (run setup request session).2 events ∧
      workOf events =
        work request (activated? setup request session) (planned? setup request session)
          (returned? setup request session) := by
  cases does : starts setup request session with
  | false =>
      obtain ⟨note, after, events, crashes, adds, idle⟩ := begin_of_not_starts does
      refine ⟨events, ?_, idle.trans (work_of_not_starts does).symm⟩
      rw [run, crashes]
      exact adds.brings
  | true =>
      have ended := run_of_starts steady does
      exact ⟨_, brings_run (by simp [ended]) working, workOf_events does⟩

/-- Whatever the loads, the build and the program come to, a cycle builds what it planned, shows the
page of the preset it activated and evaluates what was returned to it, in this order. -/
theorem run_work (steady : setup.document.Steady) (request : CompileRequest)
    (session : Session σ) (task : Nat) :
    let worker := session.handTo (.worker task)
    let ready? := activated? setup request worker
    let plan? := planned? setup request worker
    let program? := returned? setup request worker
    workOf (doneBy (.worker task) (run setup request worker).2.trace) =
      workOf (doneBy (.worker task) session.trace) ++ work request ready? plan? program? := by
  intro worker ready? plan? program?
  have working : worker.part ≠ .poller := by simp [worker, handTo]
  obtain ⟨events, brings, works⟩ := brings_work steady working
  rw [← works, ← workOf_append]
  exact congrArg workOf brings.done

end Cycle

/-- A file that no rule of the preset claims keeps the project from its build, but not from its
page. -/
theorem Cycle.run_work_unclaimed :
    let setup := Headless.setup
    let request := (CompileRequest.ofTemplate (some "react")).addFile "/notes.txt" ""
    let session := Session.start Headless.fresh .off
    let worker := session.handTo (.worker 1)
    let ready? := Cycle.activated? setup request worker
    let plan? := Cycle.planned? setup request worker
    let program? := Cycle.returned? setup request worker
    setup.document.Steady ∧ ready?.isSome = true ∧ plan?.isSome = false ∧
      workOf (doneBy (.worker 1) (Cycle.run setup request worker).2.trace) =
        workOf (doneBy (.worker 1) session.trace) ++ Cycle.work request ready? plan? program? :=
  ⟨Headless.steady.document, rfl, rfl,
    Cycle.run_work Headless.steady.document _ (Session.start Headless.fresh .off) 1⟩

end LivePreview
