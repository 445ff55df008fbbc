import LivePreview.Proofs.Cycle.Steps
import LivePreview.Proofs.Session.Heights

namespace LivePreview

namespace Cycle

open Session

variable {σ : Type u} {setup : Setup σ} {session middle : Session σ}

/-! A cycle measures the height once, when its program has run, and reports it in its next step. -/

/-- The height that a worker is about to report. -/
def Progress.reporting? : Progress → Option UInt32
  | .asleep _ (.reporting height) => some height
  | _ => none

/-- A step of a cycle finds a height, if any, and has it still to report unless it is the one set
down last. -/
structure Measures (session : Session σ) (step : Progress × Session σ) (found : Option UInt32) :
    Prop where
  adds : ∃ events, session.Adds step.2 events ∧ (∀ event ∈ events, event.height? = none) ∧
    (step.1.reporting?.isSome = true →
      ∃ program earlier, events = earlier ++ [.called (.evaluate program)])
  reporting : step.1.reporting? = newly session.shown found
  prompt : ∀ wake height, step.1 = .asleep wake (.reporting height) → wake = session.now
  shown : step.2.shown = found.or session.shown
  unreported : step.2.unreported = session.unreported
  poller : step.2.poller = session.poller

theorem Measures.after {step : Progress × Session σ} {found : Option UInt32}
    (measures : Measures middle step found) (silent : Silent session middle) :
    Measures session step found where
  adds := by
    obtain ⟨events, adds, nothing⟩ := silent.adds
    obtain ⟨others, addsThen, nothingThen, ends⟩ := measures.adds
    refine ⟨events ++ others, adds.trans addsThen, ?_, fun reports => ?_⟩
    · exact fun event member => (List.mem_append.mp member).elim (nothing event) (nothingThen event)
    · obtain ⟨program, earlier, rfl⟩ := ends reports
      exact ⟨program, events ++ earlier, (List.append_assoc ..).symm⟩
  reporting := by rw [measures.reporting, silent.shown]
  prompt := by
    intro wake height asleep
    obtain ⟨events, adds, _⟩ := silent.adds
    rw [measures.prompt wake height asleep, adds.now]
  shown := by rw [measures.shown, silent.shown]
  unreported := measures.unreported.trans silent.unreported
  poller := measures.poller.trans silent.poller

theorem measures_of_silent {progress : Progress} (silent : Silent session middle)
    (nothing : progress.reporting? = none) : Measures session (progress, middle) none where
  adds := by
    obtain ⟨events, adds, quiet⟩ := silent.adds
    exact ⟨events, adds, quiet, fun reports => by simp [nothing] at reports⟩
  reporting := nothing
  prompt := by
    rintro wake height rfl
    cases nothing
  shown := silent.shown
  unreported := silent.unreported
  poller := silent.poller

theorem silent_enter (session : Session σ) (phase : Phase) :
    Silent session (enter session phase) :=
  silent_log session _

theorem silent_finish (session : Session σ) : Silent session (finish session).2 :=
  (silent_enter session .idle).trans (silent_send _ _ rfl)

theorem measures_finish (session : Session σ) : Measures session (finish session) none :=
  measures_of_silent (silent_finish session) rfl

theorem measures_crashed (session : Session σ) (note : Option String) :
    Measures session (.crashed note, session) none :=
  measures_of_silent (silent_refl session) rfl

theorem silent_firstLoad (session : Session σ) (firstLoad : Bool) :
    Silent session { session with firstLoad } :=
  silent_of_adds (adds_firstLoad session firstLoad) (by simp) rfl rfl rfl

theorem silent_ready (session : Session σ) (ready : Option ReadyPreset) :
    Silent session { session with ready } :=
  silent_of_adds (adds_ready session ready) (by simp) rfl rfl rfl

theorem measures_proceed {call : Call} {answer : σ → Answer σ (Outcome Unit)}
    {next : Session σ → Progress × Session σ} (session : Session σ)
    (measures : ∀ session, Measures session (next session) none) :
    Measures session (proceed call answer next session) none := by
  have asked := silent_ask session call answer
  simp only [proceed]
  split
  · exact (measures_crashed _ _).after asked
  · exact (measures _).after asked

theorem measures_unbuilt (request : CompileRequest) (ready : ReadyPreset) (failure : Failure)
    (session : Session σ) :
    Measures session (compiled setup request ready (.error failure) session) none := by
  have told := (silent_firstLoad session false).trans
    ((silent_report _ failure).trans (silent_send _ (.done true) rfl))
  exact (measures_proceed _ measures_finish).after (told.trans (silent_enter _ .rendering))

theorem measures_compile (request : CompileRequest) (ready : ReadyPreset) (session : Session σ) :
    Measures session (compile setup request ready session) none := by
  have entered := (silent_enter session .compiling).trans
    (silent_logAll _ (Plan.records ready request.sources))
  simp only [compile]
  cases Plan.make ready request.sources with
  | error failure => exact (measures_unbuilt request ready failure _).after entered
  | ok plan =>
      exact measures_of_silent (entered.trans ((silent_log _ _).trans (silent_ask _ _ _))) rfl

theorem silent_endPreset (session : Session σ) (preset : Preset)
    (outcome : Outcome TransformerSet) : Silent session (session.endPreset preset outcome).2 := by
  cases outcome with
  | ok transformers => exact silent_log session _
  | failed failure => exact silent_refl session
  | crashed note => exact silent_refl session

theorem measures_activated (request : CompileRequest) (preset : Preset)
    (outcome : Outcome TransformerSet) (session : Session σ) :
    Measures session (activated setup request preset outcome session) none := by
  have ended := silent_endPreset session preset outcome
  simp only [activated]
  split
  · exact (measures_finish _).after (ended.trans (silent_report _ _))
  · exact (measures_compile request _ _).after (ended.trans (silent_ready _ _))

theorem silent_beginLoads (backend : Backend σ) (preset : Preset) (names : List String)
    (session : Session σ) : Silent session (session.beginLoads backend preset names).2 := by
  induction names generalizing session with
  | nil => exact silent_refl session
  | cons name rest ih =>
      have asked (session : Session σ) := silent_ask session (.load name) (backend.load name)
      simp only [beginLoads]
      split
      · exact (silent_log session _).trans (asked _)
      · exact (silent_log session _).trans ((asked _).trans (ih _))

theorem measures_activate (request : CompileRequest) (session : Session σ) :
    Measures session (activate setup request session) none := by
  have resolved := silent_logAll session (setup.registry.resolveRecords request.template)
  simp only [activate]
  split
  · exact (measures_compile request _ _).after (resolved.trans (silent_log _ _))
  · exact measures_of_silent (resolved.trans (silent_beginLoads setup.backend _ _ _)) rfl

theorem measures_toolsLoaded (request : CompileRequest) (kind : DevTools) (outcome : Outcome Unit)
    (session : Session σ) :
    Measures session (toolsLoaded setup request kind outcome session) none := by
  cases outcome with
  | crashed note => exact measures_crashed session note
  | ok _ => exact measures_activate request session
  | failed failure => exact (measures_activate request _).after (silent_log session _)

theorem measures_loadTools (setup : Setup σ) (request : CompileRequest) (session : Session σ) :
    Measures session (loadTools setup request session) none := by
  have entered := silent_enter session .initializing
  simp only [loadTools]
  cases request.devTools with
  | none => exact (measures_activate request _).after entered
  | some kind => exact measures_of_silent (entered.trans (silent_ask _ _ _)) rfl

theorem measures_announce (setup : Setup σ) (request : CompileRequest) (session : Session σ) :
    Measures session (announce setup request session) none := by
  have announced := (silent_send session (.start session.firstLoad) rfl).trans
    (silent_send _ (.status .initializing) rfl)
  simp only [announce]
  split
  · exact (measures_proceed _ (measures_loadTools setup request)).after
      (announced.trans (silent_log _ _))
  · exact (measures_loadTools setup request _).after announced

theorem silent_levelled (setup : Setup σ) (request : CompileRequest) (session : Session σ) :
    Silent session (levelled setup request session) := by
  unfold levelled
  cases request.logLevel with
  | none => exact silent_refl session
  | some level => exact silent_applyLevel session setup.control level

theorem measures_begin (setup : Setup σ) (request : CompileRequest) (session : Session σ) :
    Measures session (begin setup request session) none :=
  (measures_proceed _ (measures_announce setup request)).after
    ((silent_note session rfl rfl).trans (silent_levelled setup request _))

theorem Measures.known {step : Progress × Session σ} {found : Option UInt32}
    (measures : Measures session step none) (known : newly session.shown found = none) :
    Measures session step found where
  adds := measures.adds
  reporting := by rw [measures.reporting, known, newly_none]
  prompt := measures.prompt
  shown := by rw [measures.shown, ← or_newly session.shown found, known]
  unreported := measures.unreported
  poller := measures.poller

theorem silent_succeed (session : Session σ) : Silent session (succeed session).2 :=
  (silent_send session .success rfl).trans ((silent_log _ _).trans (silent_finish _))

theorem measures_measure {program : Program}
    (evaluated : session.Adds middle [.called (.evaluate program)])
    (silent : Silent session middle) :
    Measures session (measure setup middle) (setup.document.measured? middle.host) := by
  have found := newHeight?_eq setup.document middle
  rw [silent.shown] at found
  unfold measure
  rw [findHeight_eq]
  cases crashes : (setup.document.height middle.host).crash? with
  | some note =>
      rw [setup.document.measured?_of_crash crashes, newHeight?_of_crash crashes]
      exact (measures_crashed middle note).after silent
  | none =>
      cases new : middle.newHeight? setup.document with
      | none =>
          have succeeded : Measures session (succeed middle) none :=
            measures_of_silent (silent.trans (silent_succeed middle)) rfl
          exact succeeded.known (found.symm.trans new)
      | some height =>
          refine ⟨⟨_, evaluated.trans (adds_of_trace_eq rfl rfl rfl), ?_, ?_⟩, ?_, ?_, ?_, ?_, ?_⟩
          · simp [Event.height?]
          · exact fun _ => ⟨program, [], rfl⟩
          · exact new.symm.trans found
          · rintro _ _ ⟨⟩
            exact evaluated.now
          · rw [← or_newly session.shown, ← found, new]
            rfl
          · exact silent.unreported
          · exact silent.poller

/-- The host that a program leaves, if it runs. -/
def ran? (setup : Setup σ) (program : Program) (host : σ) : Option σ :=
  match (setup.backend.evaluate program host).value with
  | .ok () => some (setup.backend.evaluate program host).host
  | .failed _ | .crashed _ => none

theorem measures_evaluate (setup : Setup σ) (program : Program) (session : Session σ) :
    Measures session (evaluate setup program session)
      ((ran? setup program session.host).bind setup.document.measured?) := by
  have opens : Silent session ((enter session .evaluating).send (.status .evaluating)) :=
    (silent_enter session .evaluating).trans (silent_send _ _ rfl)
  have host : ((enter session .evaluating).send (.status .evaluating)).host = session.host :=
    (quiet_log session _).host
  simp only [evaluate]
  generalize (enter session .evaluating).send (.status .evaluating) = entering at *
  have asked := silent_ask entering (.evaluate program) (setup.backend.evaluate program)
  have called := adds_ask entering (.evaluate program) (setup.backend.evaluate program)
  obtain ⟨answer, left⟩ :=
    ask_of_host host (.evaluate program) (setup.backend.evaluate program)
  unfold ran?
  rw [answer]
  cases (setup.backend.evaluate program session.host).value with
  | ok _ =>
      rw [Option.bind_some, ← left]
      exact (measures_measure called asked).after opens
  | failed failure =>
      exact (measures_finish _).after (opens.trans (asked.trans (silent_report _ _)))
  | crashed note =>
      exact (measures_finish _).after (opens.trans (asked.trans (silent_report _ _)))

/-- The host once the page has been replaced and its program has run, if both go well. -/
def shownOn? (setup : Setup σ) (markup : Markup) (program : Program) (host : σ) : Option σ :=
  match (setup.document.replace markup host).value.crash? with
  | none => ran? setup program (setup.document.replace markup host).host
  | some _ => none

theorem measures_render (setup : Setup σ) (markup : Markup) (program : Program)
    (session : Session σ) :
    Measures session (render setup markup (some program) session)
      ((shownOn? setup markup program session.host).bind setup.document.measured?) := by
  have enters := silent_enter session .rendering
  have host : (enter session .rendering).host = session.host := (quiet_log session _).host
  simp only [render, proceed]
  generalize enter session .rendering = entering at *
  have asked := silent_ask entering (.replaceDocument markup) (setup.document.replace markup)
  obtain ⟨answer, left⟩ :=
    ask_of_host host (.replaceDocument markup) (setup.document.replace markup)
  rw [answer]
  unfold shownOn?
  cases (setup.document.replace markup session.host).value.crash? with
  | some note => exact (measures_crashed _ note).after (enters.trans asked)
  | none =>
      simp only [← left]
      exact (measures_evaluate setup program _).after (enters.trans asked)

/-- The host once the next step of a cycle has run a program, if it runs one and that goes well. -/
def Stage.ran? (setup : Setup σ) (stage : Stage) (host : σ) : Option σ :=
  match stage with
  | .building request ready (.ok program) =>
    shownOn? setup (Markup.select request.sources ready.preset) program host
  | _ => none

/-- Of all steps of a cycle only the one that runs its program measures the height. -/
theorem measures_resume (setup : Setup σ) (session : Session σ) {stage : Stage}
    (silent : ∀ height, stage ≠ .reporting height) :
    Measures session (resume setup stage session)
      ((stage.ran? setup session.host).bind setup.document.measured?) := by
  cases stage with
  | devTools request kind outcome => exact measures_toolsLoaded request kind outcome session
  | loading request preset outcome => exact measures_activated request preset outcome session
  | reporting height => exact (silent height rfl).elim
  | building request ready outcome =>
      cases outcome with
      | failed failure => exact measures_unbuilt request ready failure session
      | crashed note => exact measures_unbuilt request ready _ session
      | ok program =>
          have built := (silent_firstLoad session false).trans (silent_send _ (.done false) rfl)
          exact (measures_render setup (Markup.select request.sources ready.preset) program _).after
            built

/-- The step that reports a height. -/
structure Reports (before after : Session σ) (height : UInt32) : Prop where
  adds : before.Adds after
    [.sent (.resize height), .sent .success, .sent (.status .idle)]
  shown : after.shown = before.shown
  unreported : after.unreported = before.unreported
  poller : after.poller = before.poller

theorem reports_resume (setup : Setup σ) (session : Session σ) (height : UInt32) :
    Reports session (resume setup (.reporting height) session).2 height := by
  have told := silent_log session (.trace "document resized" [("height", decimal height.toNat)])
  have succeeded := silent_succeed (session.reportHeight height)
  refine ⟨(adds_reportHeight session height).trans ((adds_send _ .success).trans
    ((adds_log _ _).trans (adds_finish _))), ?_, ?_, ?_⟩
  · exact succeeded.shown.trans told.shown
  · exact succeeded.unreported.trans told.unreported
  · exact succeeded.poller.trans told.poller

end Cycle

end LivePreview
