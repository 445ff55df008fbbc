import LivePreview.Proofs.Cycle.Heights
import LivePreview.Proofs.Preview.Timely

namespace LivePreview

namespace Preview

open LivePreview.Cycle LivePreview.Session

variable {σ : Type u} {setup : Setup σ} {preview next : Preview σ} {found : Option UInt32}

/-! A worker whose program has run reports the height in a step of its own.  It is never late to do
so, and not cut off before. -/

/-- The height that the worker is about to report. -/
def reporting? (preview : Preview σ) : Option UInt32 :=
  match preview.worker.labour with
  | .busy _ (.reporting height) => some height
  | _ => none

theorem reporting?_eq_some {height : UInt32} :
    preview.reporting? = some height ↔
      ∃ wake, preview.worker.labour = .busy wake (.reporting height) := by
  unfold reporting?
  split
  next wake other busy => simp [busy]
  next silent =>
      simp only [reduceCtorEq, false_iff, not_exists]
      exact fun wake busy => silent wake height busy

theorem reporting?_of_not_busy (idle : ∀ wake stage, preview.worker.labour ≠ .busy wake stage) :
    preview.reporting? = none := by
  rw [Option.eq_none_iff_forall_not_mem]
  intro height reports
  obtain ⟨wake, busy⟩ := reporting?_eq_some.mp reports
  exact idle wake _ busy

theorem reporting?_continueWith (preview : Preview σ) (step : Progress × Session σ) :
    (preview.continueWith step).reporting? = step.1.reporting? := by
  obtain ⟨progress, session⟩ := step
  cases progress with
  | asleep wake stage => cases stage <;> rfl
  | ended | crashed => rfl

theorem Idled.silent (idled : Idled delay preview next) (silent : preview.reporting? = none) :
    next.reporting? = none := by
  unfold reporting? at silent ⊢
  rwa [idled.worker]

def Prompt (preview : Preview σ) : Prop :=
  ∀ wake height, preview.worker.labour = .busy wake (.reporting height) →
    wake ≤ preview.session.now

theorem prompt_of_none (none : preview.reporting? = none) : preview.Prompt := by
  intro wake height busy
  rw [reporting?_eq_some.mpr ⟨wake, busy⟩] at none
  cases none

theorem Idled.prompt (idled : Idled delay preview next) (prompt : preview.Prompt) :
    next.Prompt := by
  intro wake height busy
  rw [idled.worker] at busy
  rw [idled.now]
  exact Nat.le_trans (prompt wake height busy) (Nat.le_add_right _ _)

theorem prompt_continueWith {step : Progress × Session σ}
    (measures : Measures preview.workerSession step found) :
    (preview.continueWith step).Prompt := by
  intro wake height busy
  have asleep : step.1 = .asleep wake (.reporting height) := by
    obtain ⟨progress, session⟩ := step
    cases progress <;> cases busy
    rfl
  obtain ⟨events, adds, _⟩ := measures.adds
  have woken := measures.prompt wake height asleep
  have now : step.2.now = preview.session.now := adds.now
  change wake ≤ step.2.now
  rw [woken, now]
  exact Nat.le_refl _

theorem Advance.prompt (advance : Advance setup preview next) : next.Prompt := by
  cases advance with
  | moves | retires => exact prompt_of_none rfl
  | takes | takesLast => exact prompt_continueWith (measures_begin setup _ preview.workerSession)
  | @resumes wake stage busy awake =>
      cases stage with
      | reporting height => exact prompt_of_none rfl
      | devTools | loading | building =>
          exact prompt_continueWith (measures_resume setup preview.workerSession nofun)
  | stops idle => exact prompt_of_none (reporting?_of_not_busy
      (by rcases idle with retired | ⟨note, dead⟩ <;> simp [stop, onSession, *]))

theorem reporting?_of_rest (rest : preview.advance? setup = none) (prompt : preview.Prompt) :
    preview.reporting? = none := by
  rw [Option.eq_none_iff_forall_not_mem]
  intro height reports
  obtain ⟨wake, busy⟩ := reporting?_eq_some.mp reports
  rw [advance?_of_awake busy (prompt wake height busy)] at rest
  cases rest

theorem letReport_refresh (setup : Setup σ) (preview : Preview σ) :
    preview.letReport setup (.message .refresh) =
      if preview.life = .serving ∧ preview.reporting?.isSome = true then preview.move setup .work
      else preview := by
  unfold letReport reporting?
  cases preview.worker.labour with
  | busy wake stage => cases stage <;> cases preview.life <;> simp [move]
  | waiting | dead | retired => simp

theorem letReport_of_ne {input : Input σ} (lets : preview.letReport setup input ≠ preview) :
    input = .message .refresh ∧ preview.life = .serving ∧ preview.reporting?.isSome = true ∧
      preview.letReport setup input = preview.move setup .work := by
  cases input with
  | message message =>
      cases message with
      | compile | evaluate => exact (lets rfl).elim
      | refresh =>
          rw [letReport_refresh] at lets ⊢
          split at lets
          next reports => exact ⟨rfl, reports.1, reports.2, if_pos reports⟩
          next => exact (lets rfl).elim
  | raised | eventsClosed | hostChanged | shutdown => exact (lets rfl).elim

theorem reporting?_of_ready (prompt : preview.Prompt) (serving : preview.life = .serving)
    (ready : preview.letReport setup (.message .refresh) = preview) :
    preview.reporting? = none := by
  rw [Option.eq_none_iff_forall_not_mem]
  intro height reports
  obtain ⟨wake, busy⟩ := reporting?_eq_some.mp reports
  have advance := @advance?_of_awake _ setup _ _ _ busy (prompt wake height busy)
  simp only [letReport, busy, serving, advance, Option.getD_some] at ready
  have silent := reporting?_continueWith preview
    (resume setup (.reporting height) preview.workerSession)
  rw [ready, reports] at silent
  cases silent

theorem upheld_prompt (setup : Setup σ) : Upheld setup Prompt where
  advance _ advance := advance.prompt
  poll prompt := (idled_poll setup _).prompt prompt
  listen prompt := (idled_listen _).prompt prompt
  tick prompt := (idled_tick _).prompt prompt
  input := by
    intro preview input prompt _
    have now := now_input setup preview input
    have stirs := step_stirs setup preview input
    generalize preview.step setup input = next at now stirs ⊢
    cases stirs with
    | keeps | closes | schedules =>
        intro wake height busy
        rw [now]
        exact prompt wake height busy
    | restarts => exact prompt_of_none rfl

theorem prompt_start (settings : Settings) (listening : Bool) (level : LogLevel) (tasks : Nat)
    (host : σ) : (start settings listening level tasks host).Prompt :=
  prompt_of_none rfl

end Preview

end LivePreview
