import LivePreview.Proofs.Cycle.Course

namespace LivePreview

/-! Presets from one cycle to the next.  A cycle loads a preset unless the one it needs is the last
that became ready, and it plans with what was loaded then. -/

def Event.load? : Event → Option String
  | .called (.load name) => some name
  | _ => none

def Event.plan? : Event → Option Plan
  | .called (.build plan) => some plan
  | _ => none

/-- The preset that a plan goes by, with its transformers. -/
def Plan.ready (plan : Plan) : ReadyPreset :=
  ⟨plan.preset, plan.transformers⟩

theorem Plan.ready_of_make {ready : ReadyPreset} {files : List SourceFile} {plan : Plan}
    (made : Plan.make ready files = .ok plan) : plan.ready = ready := by
  unfold Plan.make at made
  cases manifest : Manifest.ofFiles files with
  | error failure => simp [manifest, bind, Except.bind] at made
  | ok parsed =>
      cases resolved : ready.resolveAll (Plan.sources files) with
      | error failure => simp [manifest, resolved, bind, Except.bind] at made
      | ok chains =>
          simp only [manifest, resolved, bind, Except.bind, pure, Except.pure] at made
          cases made
          rfl

namespace Cycle

open Session

variable {σ : Type u} {setup : Setup σ} {request : CompileRequest} {session : Session σ}

theorem memory_opened (setup : Setup σ) (request : CompileRequest) (session : Session σ) :
    (opened setup request session).memory = session.memory := by
  have opens : (enter (opening setup request session) .initializing).memory = session.memory :=
    (memory_enter _ _).trans ((memory_announced setup _).trans (memory_configured setup _ _))
  simp only [opened]
  cases request.devTools with
  | none => exact opens
  | some kind =>
      simp only
      split <;> simp [opens]

theorem memory_built (setup : Setup σ) (request : CompileRequest) (ready : ReadyPreset)
    (session : Session σ) : (built setup request ready session).2.memory = session.memory := by
  simp only [built]
  cases Plan.make ready request.sources <;> simp

theorem memory_finish (session : Session σ) : (finish session).2.memory = session.memory :=
  memory_enter session .idle

theorem memory_rendered (setup : Setup σ) (markup : Markup) (session : Session σ) :
    (rendered setup markup session).memory = session.memory := by
  simp [rendered]

theorem memory_evaluate {program : Program}
    (uncrashed : ∀ note, (evaluate setup program session).1 ≠ .crashed note) :
    (complete setup 1 (evaluate setup program session)).2.memory = session.memory := by
  have called : (evaluated setup program session).2.memory = session.memory := by
    simp [evaluated]
  cases shown : evaluation setup program session with
  | error failure =>
      rw [evaluate_of_error shown, ← called]
      exact (memory_finish _).trans (memory_report _ failure)
  | ok _ =>
      rw [evaluate_of_ok shown] at uncrashed ⊢
      rw [complete_measure uncrashed 0, succeed, memory_finish, memory_log, memory_send,
        memory_checkHeight, called]

theorem ready_compiled {ready : ReadyPreset} {result : Except Failure Program}
    (uncrashed : ∀ note, (compiled setup request ready result session).1 ≠ .crashed note) :
    (complete setup 1 (compiled setup request ready result session)).2.ready = session.ready := by
  cases result with
  | error failure =>
      simp only [compiled] at uncrashed ⊢
      rw [render_eq uncrashed]
      refine (ready_of_memory ((memory_finish _).trans (memory_rendered setup _ _))).trans ?_
      refine (ready_of_memory
        ((memory_send _ (.done true)).trans (memory_report _ failure))).trans ?_
      rfl
  | ok program =>
      simp only [compiled] at uncrashed ⊢
      have page := render_eq uncrashed
      rw [page] at uncrashed ⊢
      refine (ready_of_memory
        ((memory_evaluate uncrashed).trans (memory_rendered setup _ _))).trans ?_
      rfl

/-- What the loads of a preset come to. -/
def initialization (setup : Setup σ) (request : CompileRequest) (session : Session σ) :
    Outcome TransformerSet :=
  ((session.logAll (setup.registry.resolveRecords request.template)).beginPreset setup.backend
    (setup.registry.resolve request.template)).1.outcome

/-- The preset that is ready, if it is the one that the request needs. -/
def fitting? (setup : Setup σ) (request : CompileRequest) (session : Session σ) :
    Option ReadyPreset :=
  session.ready.filter fun ready => ready.preset = setup.registry.resolve request.template

theorem fitting?_eq_some {ready : ReadyPreset} :
    fitting? setup request session = some ready ↔
      session.ready = some ready ∧ ready.preset = setup.registry.resolve request.template := by
  simp [fitting?, Option.filter_eq_some_iff]

theorem fitting?_logAll (records : List LogRecord) :
    fitting? setup request (session.logAll records) = fitting? setup request session := by
  rw [fitting?, ready_of_memory (memory_logAll session records), fitting?]

theorem readied_of_fitting {ready : ReadyPreset}
    (fits : fitting? setup request session = some ready) :
    (readied setup request session).1 = .ok ready ∧
      (readied setup request session).2.ready = session.ready := by
  rw [← fitting?_logAll (setup.registry.resolveRecords request.template)] at fits
  unfold fitting? at fits
  simp only [readied, fits, true_and]
  exact ready_of_memory ((memory_log _ _).trans (memory_logAll _ _))

theorem loadsBegun_of_fitting {ready : ReadyPreset}
    (fits : fitting? setup request session = some ready) :
    loadsBegun setup request session = [] := by
  rw [← fitting?_logAll (setup.registry.resolveRecords request.template)] at fits
  unfold fitting? at fits
  simp only [loadsBegun, fits]

theorem beginLoads_ne_nil (backend : Backend σ) (preset : Preset) {names : List String}
    (some : names ≠ []) (session : Session σ) :
    (session.beginLoads backend preset names).1 ≠ [] := by
  cases names with
  | nil => exact (some rfl).elim
  | cons name rest =>
      simp only [beginLoads]
      split <;> simp

theorem transformerNames_ne_nil (preset : Preset) : preset.transformerNames ≠ [] := by
  cases preset <;> simp [Preset.transformerNames]

theorem loadsBegun_of_unfit (unfit : fitting? setup request session = none) :
    loadsBegun setup request session ≠ [] := by
  rw [← fitting?_logAll (setup.registry.resolveRecords request.template)] at unfit
  unfold fitting? at unfit
  simp only [loadsBegun, unfit]
  exact beginLoads_ne_nil setup.backend _ (transformerNames_ne_nil _) _

theorem memory_beginLoads (backend : Backend σ) (preset : Preset) (names : List String)
    (session : Session σ) :
    (session.beginLoads backend preset names).2.memory = session.memory := by
  induction names generalizing session with
  | nil => rfl
  | cons name rest ih =>
      simp only [beginLoads]
      split
      · simp
      · simp [ih]

/-- The preset of the request, loaded, and the session after it. -/
def loaded (setup : Setup σ) (request : CompileRequest) (session : Session σ) :
    Outcome ReadyPreset × Session σ :=
  (session.logAll (setup.registry.resolveRecords request.template)).loadPreset setup.backend
    setup.document (setup.registry.resolve request.template)

theorem memory_loaded (setup : Setup σ) (request : CompileRequest) (session : Session σ) :
    (loaded setup request session).2.memory = session.memory := by
  simp only [loaded, loadPreset, endPreset]
  split <;> simp [beginPreset, memory_beginLoads]

theorem outcome_loaded (setup : Setup σ) (request : CompileRequest) (session : Session σ) :
    (loaded setup request session).1 = (initialization setup request session).bind fun set =>
      .ok ⟨setup.registry.resolve request.template, set⟩ := by
  simp only [loaded, loadPreset, endPreset]
  rw [← initialization]
  cases initialization setup request session <;> rfl

theorem readied_of_unfit (unfit : fitting? setup request session = none) :
    readied setup request session =
      match (loaded setup request session).1.caught fun note =>
        .presetInit (setup.registry.resolve request.template).name note with
      | .error failure => (.error failure, (loaded setup request session).2)
      | .ok ready =>
        (.ok ready, { (loaded setup request session).2 with ready := some ready }) := by
  rw [← fitting?_logAll (setup.registry.resolveRecords request.template)] at unfit
  unfold fitting? at unfit
  simp only [readied, unfit]
  rfl

theorem readied_of_initialized {transformers : TransformerSet}
    (unfit : fitting? setup request session = none)
    (initialized : initialization setup request session = .ok transformers) :
    let ready : ReadyPreset := ⟨setup.registry.resolve request.template, transformers⟩
    (readied setup request session).1 = .ok ready ∧
      (readied setup request session).2.ready = some ready := by
  rw [readied_of_unfit unfit, outcome_loaded, initialized]
  exact ⟨rfl, rfl⟩

theorem readied_of_uninitialized (unfit : fitting? setup request session = none)
    (failed : (initialization setup request session).isOk = false) :
    (∃ failure, (readied setup request session).1 = .error failure) ∧
      (readied setup request session).2.ready = session.ready := by
  rw [readied_of_unfit unfit, outcome_loaded]
  cases initialized : initialization setup request session with
  | ok transformers =>
      rw [initialized] at failed
      cases failed
  | failed failure => exact ⟨⟨_, rfl⟩, ready_of_memory (memory_loaded setup request session)⟩
  | crashed note => exact ⟨⟨_, rfl⟩, ready_of_memory (memory_loaded setup request session)⟩

theorem ready_run (uncrashed : ∀ note, (run setup request session).1 ≠ .crashed note) :
    (run setup request session).2.ready =
      (readied setup request (opened setup request session)).2.ready := by
  have phases := run_eq uncrashed
  rw [phases] at uncrashed ⊢
  generalize readied setup request (opened setup request session) = readiedStep at *
  obtain ⟨readiness, session⟩ := readiedStep
  cases readiness with
  | error failure => exact ready_of_memory ((memory_finish _).trans (memory_report _ _))
  | ok ready =>
      exact (ready_compiled (uncrashed_of_complete uncrashed)).trans
        (ready_of_memory (memory_built setup request ready _))

theorem isReady_course (setup : Setup σ) (request : CompileRequest) (session : Session σ) :
    (course setup request session).isReady =
      (readied setup request (opened setup request session)).1.isOk := by
  unfold course
  generalize readied setup request (opened setup request session) = readiedStep
  obtain ⟨readiness, session⟩ := readiedStep
  cases readiness with
  | error failure => rfl
  | ok ready =>
      simp only
      split
      · rfl
      · split <;> rfl

theorem idle_openedEvents (request : CompileRequest) (firstLoad : Bool) :
    ∀ event ∈ openedEvents request firstLoad, event.load? = none ∧ event.plan? = none := by
  cases firstLoad <;> simp [openedEvents, announcement, Event.load?, Event.plan?]

theorem idle_evaluateEvents (setup : Setup σ) (program : Program) (session : Session σ) :
    ∀ event ∈ evaluateEvents setup program session, event.load? = none ∧ event.plan? = none := by
  unfold evaluateEvents
  split <;> simp [or_imp, forall_and, Event.load?, Event.plan?]

theorem idle_compiledEvents (setup : Setup σ) (request : CompileRequest) (ready : ReadyPreset)
    (result : Except Failure Program) (session : Session σ) :
    ∀ event ∈ compiledEvents setup request ready result session,
      event.load? = none ∧ event.plan? = none := by
  cases result with
  | error failure => simp [compiledEvents, Event.load?, Event.plan?]
  | ok program =>
      simp only [compiledEvents, List.cons_append, List.nil_append, List.forall_mem_cons]
      exact ⟨⟨rfl, rfl⟩, ⟨rfl, rfl⟩, idle_evaluateEvents setup program _⟩

theorem load?_readiedEvents (setup : Setup σ) (request : CompileRequest)
    (step : Except Failure ReadyPreset × Session σ) :
    ∀ event ∈ readiedEvents setup request step, event.load? = none := by
  obtain ⟨readiness, session⟩ := step
  cases readiness with
  | error failure => simp [readiedEvents, Event.load?]
  | ok ready =>
      intro event member
      rcases List.mem_append.mp member with builds | shows
      · unfold buildCalls at builds
        split at builds
        · cases builds
        · cases List.mem_singleton.mp builds
          rfl
      · exact (idle_compiledEvents setup request ready _ _ event shows).1

theorem loads_events (setup : Setup σ) (request : CompileRequest) (session : Session σ) :
    (events setup request session).filterMap Event.load? =
      (loadsBegun setup request (opened setup request session)).map Prod.fst := by
  have opens := List.filterMap_eq_nil_iff.mpr fun event member =>
    (idle_openedEvents request session.firstLoad event member).1
  have closes := List.filterMap_eq_nil_iff.mpr
    (load?_readiedEvents setup request (readied setup request (opened setup request session)))
  have loads (begun : List Load) :
      (loadCalls begun).filterMap Event.load? = begun.map Prod.fst := by
    simp [loadCalls, List.filterMap_map, Function.comp_def, Event.load?]
  rw [events, List.filterMap_append, List.filterMap_append, opens, closes, loads, List.nil_append,
    List.append_nil]

theorem plan?_readiedEvents {step : Except Failure ReadyPreset × Session σ} {plan : Plan}
    (built : .called (.build plan) ∈ readiedEvents setup request step) :
    step.1 = .ok plan.ready := by
  obtain ⟨readiness, session⟩ := step
  cases readiness with
  | error failure => simp [readiedEvents] at built
  | ok ready =>
      rcases List.mem_append.mp built with builds | shows
      · unfold buildCalls at builds
        split at builds
        next => cases builds
        next made =>
            cases List.mem_singleton.mp builds
            rw [Plan.ready_of_make made]
      · cases (idle_compiledEvents setup request ready _ _ _ shows).2

theorem eq_of_plan? {event : Event} {plan : Plan} (is : event.plan? = some plan) :
    event = .called (.build plan) := by
  unfold Event.plan? at is
  split at is <;> cases is
  rfl

theorem plans_events {plan : Plan}
    (built : plan ∈ (events setup request session).filterMap Event.plan?) :
    (readied setup request (opened setup request session)).1 = .ok plan.ready := by
  obtain ⟨event, member, is⟩ := List.mem_filterMap.mp built
  cases eq_of_plan? is
  rcases List.mem_append.mp member with opens | later
  · cases (idle_openedEvents request session.firstLoad _ opens).2
  · rcases List.mem_append.mp later with loads | closes
    · simp [loadCalls] at loads
    · exact plan?_readiedEvents closes

end Cycle

end LivePreview
