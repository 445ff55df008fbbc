import LivePreview.Proofs.Cycle.Steps
import LivePreview.Proofs.Session.Alike

namespace LivePreview

namespace Cycle

open Session

variable {σ : Type u} {setup : Setup σ} {apart : Apart} {old fresh : Session σ}

/-! From sessions alike every step of a cycle comes to the same, and leaves sessions alike; except
that one of the cycles may find a new height where the other does not.  They are compared when that
has been reported. -/

def Progress.later (delay : Nat) : Progress → Progress
  | .asleep wake stage => .asleep (wake + delay) stage
  | .ended => .ended
  | .crashed note => .crashed note

/-- A step, and what is left of the cycle should the step have held it up. -/
def reported (setup : Setup σ) : Progress × Session σ → Progress × Session σ
  | (.asleep _ (.reporting height), session) => resume setup (.reporting height) session
  | step => step

structure StepAlike (setup : Setup σ) (apart : Apart) (old fresh : Progress × Session σ) :
    Prop where
  progress : (reported setup old).1 = (reported setup fresh).1.later apart.delay
  session : (reported setup old).2.Alike apart (reported setup fresh).2

theorem alike_enter (alike : old.Alike apart fresh) (phase : Phase) :
    (enter old phase).Alike apart (enter fresh phase) :=
  alike.log _ _

theorem alike_finish (alike : old.Alike apart fresh) :
    StepAlike setup apart (finish old) (finish fresh) :=
  ⟨rfl, (alike_enter alike .idle).send _⟩

theorem alike_crashed (alike : old.Alike apart fresh) (note : Option String) :
    StepAlike setup apart (.crashed note, old) (.crashed note, fresh) :=
  ⟨rfl, alike⟩

theorem alike_succeed (alike : old.Alike apart fresh) :
    StepAlike setup apart (succeed old) (succeed fresh) :=
  alike_finish ((alike.send .success).log _ _)

theorem alike_reporting (alike : old.Alike apart fresh) (height other : UInt32) :
    StepAlike setup apart (succeed (old.reportHeight height))
      (succeed (fresh.reportHeight other)) :=
  alike_succeed (alike.quiet (quiet_reportHeight old height) (quiet_reportHeight fresh other))

theorem alike_asleep (alike : old.Alike apart fresh) (delay : Nat) (stage : Stage) :
    StepAlike setup apart (.asleep (old.now + delay) stage, old)
      (.asleep (fresh.now + delay) stage, fresh) := by
  have later : old.now + delay = fresh.now + delay + apart.delay := by
    rw [alike.now]
    omega
  cases stage with
  | reporting height =>
      have reports : StepAlike setup apart _ _ := alike_reporting alike height height
      exact ⟨reports.progress, reports.session⟩
  | devTools | loading | building =>
      exact ⟨by simp only [reported, Progress.later, later], alike⟩

theorem alike_proceed {call : Call} {answer : σ → Answer σ (Outcome Unit)}
    {next : Session σ → Progress × Session σ} (alike : old.Alike apart fresh)
    (goOn : ∀ {old fresh}, old.Alike apart fresh → StepAlike setup apart (next old) (next fresh)) :
    StepAlike setup apart (proceed call answer next old) (proceed call answer next fresh) := by
  obtain ⟨same, called⟩ := alike.ask call answer
  simp only [proceed, same]
  split
  next note _ => exact alike_crashed called note
  next => exact goOn called

theorem reported_measure (setup : Setup σ) (session : Session σ) :
    reported setup (measure setup session) =
      match (session.findHeight setup.document).1.crash? with
      | some note => (.crashed note, (session.findHeight setup.document).2)
      | none => succeed (session.checkHeight setup.document).2 := by
  simp only [measure, checkHeight]
  generalize session.findHeight setup.document = step
  obtain ⟨found, session⟩ := step
  cases found with
  | crashed note => rfl
  | failed failure => rfl
  | ok found => cases found <;> rfl

theorem alike_measure (alike : old.Alike apart fresh) :
    StepAlike setup apart (measure setup old) (measure setup fresh) := by
  obtain ⟨same, found⟩ := alike.findHeight setup.document
  have checked : (old.checkHeight setup.document).2.Alike apart
      (fresh.checkHeight setup.document).2 :=
    alike.quiet (quiet_checkHeight _ old) (quiet_checkHeight _ fresh)
  have succeeded : StepAlike setup apart _ _ := alike_succeed checked
  refine ⟨?_, ?_⟩ <;> rw [reported_measure, reported_measure, same] <;> split
  · rfl
  · rfl
  · exact found
  · exact succeeded.session

theorem alike_evaluate (alike : old.Alike apart fresh) (program : Program) :
    StepAlike setup apart (evaluate setup program old) (evaluate setup program fresh) := by
  have announced := (alike_enter alike .evaluating).send (.status .evaluating)
  obtain ⟨same, called⟩ := announced.ask (.evaluate program) (setup.backend.evaluate program)
  simp only [evaluate, same]
  cases Outcome.caught _ _ with
  | error failure => exact alike_finish (called.report failure)
  | ok _ => exact alike_measure called

theorem alike_render (alike : old.Alike apart fresh) (markup : Markup) (program : Option Program) :
    StepAlike setup apart (render setup markup program old)
      (render setup markup program fresh) := by
  refine alike_proceed (alike_enter alike .rendering) fun called => ?_
  cases program with
  | none => exact alike_finish called
  | some program => exact alike_evaluate called program

theorem alike_firstLoad (alike : old.Alike apart fresh) (firstLoad : Bool) :
    Session.Alike apart { old with firstLoad } { fresh with firstLoad } :=
  ⟨alike.now, alike.host, alike.level, rfl, alike.ready, alike.told⟩

theorem alike_ready (alike : old.Alike apart fresh) (ready : Option ReadyPreset) :
    Session.Alike apart { old with ready } { fresh with ready } :=
  ⟨alike.now, alike.host, alike.level, alike.firstLoad, rfl, alike.told⟩

theorem alike_compiled (alike : old.Alike apart fresh) (request : CompileRequest)
    (ready : ReadyPreset) (result : Except Failure Program) :
    StepAlike setup apart (compiled setup request ready result old)
      (compiled setup request ready result fresh) := by
  have loaded := alike_firstLoad alike false
  cases result with
  | error failure => exact alike_render ((loaded.report failure).send (.done true)) _ none
  | ok program => exact alike_render (loaded.send (.done false)) _ (some program)

theorem alike_compile (alike : old.Alike apart fresh) (request : CompileRequest)
    (ready : ReadyPreset) :
    StepAlike setup apart (compile setup request ready old)
      (compile setup request ready fresh) := by
  have entered := (alike_enter alike .compiling).logAll (Plan.records ready request.sources)
    (Plan.records ready request.sources)
  simp only [compile]
  cases Plan.make ready request.sources with
  | error failure => exact alike_compiled entered request ready _
  | ok plan =>
      obtain ⟨same, called⟩ := (entered.log plan.compilingRecord plan.compilingRecord).ask
        (.build plan) (setup.backend.build plan)
      simp only [same]
      exact alike_asleep called _ _

theorem alike_endPreset (alike : old.Alike apart fresh) (preset : Preset)
    (outcome : Outcome TransformerSet) :
    (old.endPreset preset outcome).1 = (fresh.endPreset preset outcome).1 ∧
      (old.endPreset preset outcome).2.Alike apart (fresh.endPreset preset outcome).2 := by
  cases outcome with
  | ok transformers => exact ⟨rfl, alike.log _ _⟩
  | failed failure => exact ⟨rfl, alike⟩
  | crashed note => exact ⟨rfl, alike⟩

theorem alike_activated (alike : old.Alike apart fresh) (request : CompileRequest)
    (preset : Preset) (outcome : Outcome TransformerSet) :
    StepAlike setup apart (activated setup request preset outcome old)
      (activated setup request preset outcome fresh) := by
  obtain ⟨same, ended⟩ := alike_endPreset alike preset outcome
  simp only [activated, same]
  cases Outcome.caught _ _ with
  | error failure => exact alike_finish (ended.report failure)
  | ok ready => exact alike_compile (alike_ready ended (some ready)) request ready

theorem alike_beginLoads (alike : old.Alike apart fresh) (backend : Backend σ) (preset : Preset)
    (names : List String) :
    (old.beginLoads backend preset names).1 = (fresh.beginLoads backend preset names).1 ∧
      (old.beginLoads backend preset names).2.Alike apart
        (fresh.beginLoads backend preset names).2 := by
  induction names generalizing old fresh with
  | nil => exact ⟨rfl, alike⟩
  | cons name rest ih =>
      have logged := alike.log
        (.debug "loading transformer" [("preset", preset.name), ("transformer", name)])
        (.debug "loading transformer" [("preset", preset.name), ("transformer", name)])
      obtain ⟨same, called⟩ := logged.ask (.load name) (backend.load name)
      obtain ⟨sameLater, calledLater⟩ := ih called
      simp only [beginLoads, same]
      split
      · exact ⟨rfl, called⟩
      · exact ⟨by simp only [sameLater], calledLater⟩

theorem alike_activate (alike : old.Alike apart fresh) (request : CompileRequest) :
    StepAlike setup apart (activate setup request old) (activate setup request fresh) := by
  have resolved := alike.logAll (setup.registry.resolveRecords request.template)
    (setup.registry.resolveRecords request.template)
  simp only [activate, resolved.ready]
  split
  · exact alike_compile (resolved.log _ _) request _
  · obtain ⟨same, begun⟩ := alike_beginLoads resolved setup.backend
      (setup.registry.resolve request.template)
      (setup.registry.resolve request.template).transformerNames
    simp only [beginPreset, same]
    exact alike_asleep begun _ _

theorem alike_toolsLoaded (alike : old.Alike apart fresh) (request : CompileRequest)
    (kind : DevTools) (outcome : Outcome Unit) :
    StepAlike setup apart (toolsLoaded setup request kind outcome old)
      (toolsLoaded setup request kind outcome fresh) := by
  cases outcome with
  | crashed note => exact alike_crashed alike note
  | ok _ => exact alike_activate alike request
  | failed failure => exact alike_activate (alike.log _ _) request

theorem alike_resume (alike : old.Alike apart fresh) (stage : Stage) :
    StepAlike setup apart (resume setup stage old) (resume setup stage fresh) := by
  cases stage with
  | devTools request kind outcome => exact alike_toolsLoaded alike request kind outcome
  | loading request preset outcome => exact alike_activated alike request preset outcome
  | building request ready outcome => exact alike_compiled alike request ready _
  | reporting height => exact alike_reporting alike height height

theorem alike_levelled (setup : Setup σ) (alike : old.Alike apart fresh)
    (request : CompileRequest) :
    (levelled setup request old).Alike apart (levelled setup request fresh) := by
  unfold levelled
  cases request.logLevel with
  | none => exact alike
  | some level => exact alike.applyLevel setup.control level

theorem alike_loadTools (alike : old.Alike apart fresh) (request : CompileRequest) :
    StepAlike setup apart (loadTools setup request old) (loadTools setup request fresh) := by
  have entered := alike_enter alike .initializing
  simp only [loadTools]
  cases request.devTools with
  | none => exact alike_activate entered request
  | some kind =>
      obtain ⟨same, called⟩ := entered.ask (.loadDevTools kind) (setup.document.loadDevTools kind)
      simp only [same]
      exact alike_asleep called _ _

theorem alike_announce (alike : old.Alike apart fresh) (request : CompileRequest) :
    StepAlike setup apart (announce setup request old) (announce setup request fresh) := by
  have announced := (alike.send (.start fresh.firstLoad)).send (.status .initializing)
  simp only [announce, alike.firstLoad]
  split
  · exact alike_proceed (announced.log _ _) fun called => alike_loadTools called request
  · exact alike_loadTools announced request

theorem alike_begin (alike : old.Alike apart fresh) (request : CompileRequest) :
    StepAlike setup apart (begin setup request old) (begin setup request fresh) :=
  alike_proceed (alike_levelled setup (alike.note (.begun request)) request) fun called =>
    alike_announce called request

end Cycle

end LivePreview
