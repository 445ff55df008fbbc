import LivePreview.Cycle
import LivePreview.Proofs.Session.Past

namespace LivePreview

namespace Cycle

open Session

variable {σ : Type u} (setup : Setup σ)

theorem enter_withPast (past : List Stamped) (session : Session σ) (phase : Phase) :
    enter (session.withPast past) phase = (enter session phase).withPast past :=
  log_withPast past session _

theorem forgetful_finish : Forgetful (finish (σ := σ)) := by
  intro past session
  simp only [finish, enter_withPast, send_withPast]

theorem forgetful_proceed {next : Session σ → Progress × Session σ} (call : Call)
    (answer : σ → Answer σ (Outcome Unit)) (forgets : Forgetful next) :
    Forgetful (proceed call answer next) := by
  intro past session
  simp only [proceed, ask_withPast]
  split
  next => rfl
  next => exact forgets past _

theorem forgetful_succeed : Forgetful (succeed (σ := σ)) := by
  intro past session
  simp only [succeed, send_withPast, log_withPast]
  exact forgetful_finish past _

theorem forgetful_measure : Forgetful (measure setup) := by
  intro past session
  simp only [measure, findHeight_withPast, now_withPast]
  split
  next => rfl
  next => exact forgetful_succeed past _
  next => exact forgetful_succeed past _
  next => rfl

theorem forgetful_evaluate (program : Program) : Forgetful (evaluate setup program) := by
  intro past session
  simp only [evaluate, enter_withPast, send_withPast, ask_withPast, report_withPast]
  cases Outcome.caught _ _ with
  | error failure => exact forgetful_finish past _
  | ok _ => exact forgetful_measure setup past _

theorem forgetful_render (markup : Markup) (program : Option Program) :
    Forgetful (render setup markup program) := by
  intro past session
  unfold render
  rw [enter_withPast]
  cases program with
  | none => exact forgetful_proceed _ _ forgetful_finish past _
  | some program => exact forgetful_proceed _ _ (forgetful_evaluate setup program) past _

theorem forgetful_compiled (request : CompileRequest) (ready : ReadyPreset)
    (result : Except Failure Program) : Forgetful (compiled setup request ready result) := by
  intro past session
  have loaded : { session.withPast past with firstLoad := false } =
      { session with firstLoad := false }.withPast past := rfl
  unfold compiled
  rw [loaded]
  cases result with
  | error failure =>
      simp only [report_withPast, send_withPast]
      exact forgetful_render setup _ none past _
  | ok program =>
      simp only [send_withPast]
      exact forgetful_render setup _ (some program) past _

theorem forgetful_compile (request : CompileRequest) (ready : ReadyPreset) :
    Forgetful (compile setup request ready) := by
  intro past session
  simp only [compile, enter_withPast, logAll_withPast]
  cases Plan.make ready request.sources with
  | error failure => exact forgetful_compiled setup request ready _ past _
  | ok plan => simp only [log_withPast, ask_withPast, now_withPast]

theorem forgetful_activated (request : CompileRequest) (preset : Preset)
    (outcome : Outcome TransformerSet) :
    Forgetful (activated setup request preset outcome) := by
  intro past session
  simp only [activated, forgetful_endPreset preset outcome past, report_withPast]
  cases Outcome.caught _ _ with
  | error failure => exact forgetful_finish past _
  | ok ready =>
      exact forgetful_compile setup request ready past
        { (session.endPreset preset outcome).2 with ready := some ready }

theorem forgetful_activate (request : CompileRequest) : Forgetful (activate setup request) := by
  intro past session
  simp only [activate, logAll_withPast, ready_withPast, log_withPast, beginPreset,
    forgetful_beginLoads _ _ _ past, now_withPast]
  split
  · exact forgetful_compile setup request _ past _
  · rfl

theorem forgetful_toolsLoaded (request : CompileRequest) (kind : DevTools)
    (outcome : Outcome Unit) : Forgetful (toolsLoaded setup request kind outcome) := by
  intro past session
  cases outcome with
  | crashed note => rfl
  | ok _ => exact forgetful_activate setup request past _
  | failed failure =>
      simp only [toolsLoaded, log_withPast]
      exact forgetful_activate setup request past _

theorem forgetful_resume (stage : Stage) : Forgetful (resume setup stage) := by
  cases stage with
  | devTools request kind outcome => exact forgetful_toolsLoaded setup request kind outcome
  | loading request preset outcome => exact forgetful_activated setup request preset outcome
  | building request ready outcome => exact forgetful_compiled setup request ready _
  | reporting height =>
      intro past session
      simp only [resume, reportHeight_withPast]
      exact forgetful_succeed past _

theorem levelled_withPast (request : CompileRequest) (past : List Stamped)
    (session : Session σ) :
    levelled setup request (session.withPast past) =
      (levelled setup request session).withPast past := by
  unfold levelled
  cases request.logLevel with
  | none => rfl
  | some level => exact applyLevel_withPast past session setup.control level

theorem forgetful_loadTools (request : CompileRequest) :
    Forgetful (loadTools setup request) := by
  intro past session
  simp only [loadTools, enter_withPast]
  cases request.devTools with
  | none => exact forgetful_activate setup request past _
  | some kind => simp only [ask_withPast, now_withPast]

theorem forgetful_announce (request : CompileRequest) : Forgetful (announce setup request) := by
  intro past session
  simp only [announce, firstLoad_withPast, send_withPast, log_withPast]
  split
  · exact forgetful_proceed _ _ (forgetful_loadTools setup request) past _
  · exact forgetful_loadTools setup request past _

theorem forgetful_begin (request : CompileRequest) : Forgetful (begin setup request) := by
  intro past session
  simp only [begin, note_withPast, levelled_withPast]
  exact forgetful_proceed _ _ (forgetful_announce setup request) past _

end Cycle

end LivePreview
