import LivePreview.Proofs.Debounce.Dated
import LivePreview.Proofs.Preview.Deeds
import LivePreview.Proofs.Preview.Progress

namespace LivePreview

namespace Preview

open LivePreview.Cycle LivePreview.Session

variable {σ : Type u} {setup : Setup σ} {preview next : Preview σ} {base : UInt64}

theorem now_begin (setup : Setup σ) (request : CompileRequest) (session : Session σ) :
    (begin setup request session).2.now = session.now := by
  obtain ⟨_, adds⟩ := exists_adds_begin setup request session
  exact adds.now

theorem Advance.now (advance : Advance setup preview next) :
    next.session.now = preview.session.now := by
  cases advance with
  | moves | retires => rfl
  | takes | takesLast => exact now_begin setup _ preview.workerSession
  | @resumes wake stage busy awake =>
      obtain ⟨_, adds, _⟩ := (lawful_resume setup stage preview.workerSession).adds
      exact adds.now
  | stops idle closing =>
      exact (adds_stop preview).now

theorem now_receive (setup : Setup σ) (preview : Preview σ) (message : Inbound) :
    (preview.receive setup message).session.now = preview.session.now := by
  cases message with
  | compile request => exact (adds_logAll _ preview.slot.scheduleRecords).now
  | evaluate command =>
      obtain ⟨_, _, adds, _⟩ := adds_evaluate setup command preview
      exact adds.now
  | refresh =>
      have reloads := (adds_reloaded setup preview).now
      change (preview.refresh setup).session.now = preview.session.now
      cases crash : (preview.reloaded setup).1.crash? with
      | none =>
          rw [refresh_of_returns crash]
          exact (adds_restart _).now.trans reloads
      | some note =>
          rw [refresh_of_crash crash]
          exact reloads

theorem now_input (setup : Setup σ) (preview : Preview σ) (input : Input σ) :
    (preview.step setup input).session.now = preview.session.now := by
  cases input with
  | hostChanged change => rfl
  | message message =>
      simp only [step]
      split
      · exact now_receive setup preview message
      · rfl
  | raised event =>
      simp only [step, enqueue]
      split <;> rfl
  | eventsClosed => rfl
  | shutdown =>
      simp only [step]
      split <;> rfl

theorem watch_after_eq (progress : Progress) : (Labour.after progress).watch = .looking := by
  cases progress <;> rfl

structure Poised (preview : Preview σ) : Prop where
  near : preview.slot.deadline ≤ preview.session.now + preview.slot.window
  awake : preview.life = .serving → preview.slot.pending = none →
    ∀ generation deadline, preview.worker.labour.watch ≠ .sleeping generation deadline

theorem Advance.poised (advance : Advance setup preview next) (poised : preview.Poised) :
    next.Poised := by
  have near := poised.near
  rw [← advance.now] at near
  cases advance with
  | @moves watch next slot waiting serving turn =>
      rw [Debounce.slot_of_moved turn]
      refine ⟨near, fun _ empty generation deadline asleep => ?_⟩
      change next = _ at asleep
      cases Debounce.moves_of_turn turn with
      | sees pending => cases empty.symm.trans pending
      | awaits => split at asleep <;> cases asleep
      | hears | misses => cases asleep
  | takes waiting serving turn =>
      obtain ⟨_, rfl, _⟩ := Debounce.turn_ready turn
      exact ⟨near, fun _ _ => by simp [takeUp, watch_after_eq]⟩
  | takesLast | resumes => exact ⟨near, fun _ _ => by simp [takeUp, watch_after_eq]⟩
  | retires => exact ⟨near, fun _ _ => by simp [become, Labour.watch]⟩
  | stops => exact ⟨near, by rintro ⟨⟩⟩

theorem Idled.poised (idled : Idled delay preview next) (poised : preview.Poised) :
    next.Poised := by
  constructor
  · have near := poised.near
    rw [idled.slot, idled.now]
    omega
  · rw [idled.slot, idled.worker, idled.life]
    exact poised.awake

theorem upheld_poised (setup : Setup σ) : Upheld setup Poised where
  advance poised advance := advance.poised poised
  poll poised := (idled_poll setup _).poised poised
  listen poised := (idled_listen _).poised poised
  tick poised := (idled_tick _).poised poised
  input := by
    intro preview input poised _
    have near := poised.near
    have now := now_input setup preview input
    have stirs := step_stirs setup preview input
    generalize preview.step setup input = next at stirs now ⊢
    rw [← now] at near
    cases stirs with
    | keeps => exact ⟨near, poised.awake⟩
    | schedules request session =>
        exact ⟨Nat.add_le_add_right (Nat.le_of_eq now.symm) _, by rintro _ ⟨⟩⟩
    | restarts => exact ⟨near, fun _ _ => by simp [restart, newWorker, onSession, Labour.watch]⟩
    | closes => exact ⟨near, by rintro ⟨⟩⟩

theorem poised_start (settings : Settings) (listening : Bool) (level : LogLevel)
    (tasks : Nat) (host : σ) : (start settings listening level tasks host).Poised :=
  ⟨Nat.zero_le _, fun _ _ => by simp [start, newWorker, log, onSession, Labour.watch]⟩

structure Timely (base : UInt64) (bound : Nat) (preview : Preview σ) : Prop
    extends Alert preview where
  dated : ∃ count ≤ bound,
    preview.slot.Dated base count preview.session.now preview.worker.labour.watch

theorem timely_of_poised (alert : preview.Alert) (poised : preview.Poised)
    (awake : ∀ generation deadline, preview.worker.labour.watch ≠ .sleeping generation deadline) :
    preview.Timely preview.slot.generation 0 :=
  ⟨alert, 0, Nat.le_refl 0, Debounce.dated_of_awake poised.near awake⟩

theorem Idled.timely (idled : Idled delay preview next) (timely : preview.Timely base bound) :
    next.Timely base bound := by
  obtain ⟨alert, count, few, dated⟩ := timely
  refine ⟨idled.alert alert, count, few, ?_⟩
  rw [idled.slot, idled.worker, idled.now]
  exact dated.later (Nat.le_add_right _ _)

theorem lasting_timely (setup : Setup σ) (base : UInt64) (bound : Nat) :
    Lasting setup (Timely base bound) where
  poll timely := (idled_poll setup _).timely timely
  listen timely := (idled_listen _).timely timely
  tick timely := (idled_tick _).timely timely
  advance := by
    rintro preview next ⟨alert, count, few, dated⟩ advance
    have awake (progress : Progress) (generation : UInt64) (deadline : Nat) :
        (Labour.after progress).watch ≠ .sleeping generation deadline := by
      simp [watch_after_eq]
    refine ⟨advance.alert alert, count, few, ?_⟩
    rw [advance.now]
    cases advance with
    | moves waiting serving turn =>
        rw [waiting] at dated
        exact dated.moved turn
    | takes waiting serving turn =>
        obtain ⟨_, rfl, _⟩ := Debounce.turn_ready turn
        exact (dated.congr none preview.slot.signal).awake (awake _)
    | takesLast => exact (dated.congr none preview.slot.signal.leave).awake (awake _)
    | resumes => exact dated.awake (awake _)
    | retires =>
        exact (dated.congr none preview.slot.signal.leave).awake
          (by simp [become, Labour.watch])
    | stops => exact dated

theorem Timely.input (timely : preview.Timely base bound) (setup : Setup σ) (input : Input σ)
    (ready : preview.letReport setup input = preview) :
    (preview.step setup input).Timely base (bound + input.request?.toList.length) := by
  obtain ⟨alert, count, few, dated⟩ := timely
  refine ⟨(upheld_alert setup).input alert ready, ?_⟩
  have now := now_input setup preview input
  have stirs := step_stirs setup preview input
  generalize preview.step setup input = next at stirs now ⊢
  rw [now]
  cases stirs with
  | keeps | closes => exact ⟨count, by omega, dated⟩
  | schedules request session =>
      exact ⟨count + 1, Nat.add_le_add_right few 1, dated.schedule request⟩
  | restarts session =>
      exact ⟨count, by omega, (dated.congr none preview.slot.signal.leave).awake
        (by simp [restart, newWorker, onSession, Labour.watch])⟩

end Preview

end LivePreview
