import LivePreview.Proofs.Preview.Coalescing

namespace LivePreview

/-- A command to be evaluated, or an event of the program. -/
def Move.isRuntime : Move σ → Bool
  | .input (.message (.evaluate _)) | .input (.raised _) => true
  | _ => false

namespace Preview

open LivePreview.Cycle LivePreview.Session

variable {σ : Type u} {setup : Setup σ} {kept spared preview next : Preview σ}
variable {one other : List Stamped}

/-- The events that have been raised and not been forwarded yet. -/
def queued (preview : Preview σ) : List ProgramEvent :=
  match preview.listener with
  | some listener => listener.queue
  | none => []

theorem queued_congr (same : next.listener = preview.listener) : next.queued = preview.queued := by
  rw [queued, same, queued]

theorem listening_congr (same : next.listener = preview.listener) :
    next.listening = preview.listening := by
  rw [listening, same, listening]

theorem listener_receive (setup : Setup σ) (preview : Preview σ) (message : Inbound) :
    (preview.receive setup message).listener = preview.listener := by
  cases message with
  | compile | evaluate => rfl
  | refresh =>
      simp only [receive, refresh]
      split <;> rfl

theorem enqueue_eq (event : ProgramEvent) (preview : Preview σ) :
    preview.enqueue event = { preview with listener := (preview.enqueue event).listener } := by
  unfold enqueue
  split <;> rfl

@[simp] theorem listening_enqueue (event : ProgramEvent) (preview : Preview σ) :
    (preview.enqueue event).listening = preview.listening := by
  unfold enqueue
  split
  next hears => simp [listening, hears]
  next => rfl
  next => rfl

theorem queued_enqueue (event : ProgramEvent) (preview : Preview σ) :
    (preview.enqueue event).queued =
      preview.queued ++ if preview.listening then [event] else [] := by
  unfold enqueue
  split
  next hears => simp [queued, listening, hears]
  next deaf => simp [listening, deaf]
  next deaf => simp [listening, deaf]

@[simp] theorem listening_closeEvents (preview : Preview σ) :
    preview.closeEvents.listening = false := by
  unfold listening closeEvents
  cases preview.listener <;> rfl

@[simp] theorem queued_closeEvents (preview : Preview σ) :
    preview.closeEvents.queued = preview.queued := by
  unfold queued closeEvents
  cases preview.listener <;> rfl

/-! Two previews that only the pasts of their sessions tell apart, and the events that the first has
still to forward.  What is done to both alike leaves them so. -/

inductive Alongside (one other : List Stamped) (kept : Preview σ) : Preview σ → Prop
  | intro {session : Session σ} {listener : Option Listener}
      (sessions : kept.session.Abreast one other session)
      (listening : { kept with listener }.listening = kept.listening)
      (idle : { kept with listener }.queued = []) :
      Alongside one other kept { kept with session, listener }

theorem abreast_of_present {first second : Session σ} (present : first.present = second.present) :
    first.Abreast (seen first.trace) (seen second.trace) second :=
  ⟨present, [], (List.append_nil _).symm, (List.append_nil _).symm⟩

theorem alongside_of (sessions : kept.session.Abreast one other spared.session)
    (same : spared = { kept with session := spared.session, listener := spared.listener })
    (listening : spared.listening = kept.listening) (idle : spared.queued = []) :
    Alongside one other kept spared := by
  rw [same] at listening idle ⊢
  exact .intro sessions listening idle

section

variable (alongside : Alongside one other kept spared)

include alongside

theorem Alongside.sessions : kept.session.Abreast one other spared.session := by
  cases alongside with
  | intro sessions => exact sessions

theorem Alongside.same :
    spared = { kept with session := spared.session, listener := spared.listener } := by
  cases alongside
  rfl

theorem Alongside.slot : spared.slot = kept.slot := by
  rw [alongside.same]

theorem Alongside.worker : spared.worker = kept.worker := by
  rw [alongside.same]

theorem Alongside.life : spared.life = kept.life := by
  rw [alongside.same]

theorem Alongside.pollsFirst : spared.pollsFirst = kept.pollsFirst := by
  rw [alongside.same]

theorem Alongside.effort : spared.effort = kept.effort := by
  rw [alongside.same]
  rfl

theorem Alongside.isOver : spared.isOver = kept.isOver := by
  rw [alongside.same]
  rfl

theorem Alongside.reporting? : spared.reporting? = kept.reporting? := by
  rw [alongside.same]
  rfl

theorem Alongside.now : spared.session.now = kept.session.now :=
  alongside.sessions.now.symm

theorem Alongside.listening : spared.listening = kept.listening := by
  cases alongside with
  | intro sessions listening idle => exact listening

theorem Alongside.idle : spared.queued = [] := by
  cases alongside with
  | intro sessions listening idle => exact idle

theorem Alongside.renew :
    Alongside (seen kept.session.trace) (seen spared.session.trace) kept spared :=
  alongside_of (abreast_of_present alongside.sessions.present) alongside.same alongside.listening
    alongside.idle

theorem alongside_onSession {late early : List Stamped} {first second : Session σ}
    (sessions : first.Abreast late early second) :
    Alongside late early { kept with session := first } { spared with session := second } := by
  cases alongside with
  | intro _ listening idle => exact .intro sessions listening idle

theorem alongside_slot (slot : Debounce CompileRequest) :
    Alongside one other { kept with slot } { spared with slot } := by
  cases alongside with
  | intro sessions listening idle => exact .intro sessions listening idle

theorem alongside_become (labour : Labour) :
    Alongside one other (kept.become labour) (spared.become labour) := by
  cases alongside with
  | intro sessions listening idle => exact .intro sessions listening idle

theorem alongside_continueWith {step : Session σ → Progress × Session σ}
    (forgetful : Forgetful step) :
    Alongside one other (kept.continueWith (step kept.workerSession))
      (spared.continueWith (step spared.workerSession)) := by
  have working := alongside.sessions.handTo (.worker kept.worker.task) (.worker kept.worker.task)
  obtain ⟨same, sessions⟩ := working.step step rfl forgetful
  have became := alongside_become alongside (.after (step kept.workerSession).1)
  have continues := alongside_onSession became sessions
  simp only [continueWith, workerSession, alongside.worker] at continues ⊢
  rw [← same]
  exact continues

theorem alongside_takeUp (setup : Setup σ) (request : CompileRequest)
    (slot : Debounce CompileRequest) :
    Alongside one other (kept.takeUp setup request slot) (spared.takeUp setup request slot) :=
  alongside_continueWith (alongside_slot alongside slot) (forgetful_begin setup request)

theorem alongside_close (setup : Setup σ) :
    Alongside one other (kept.close setup) (spared.close setup) := by
  unfold close
  rw [alongside.slot]
  split
  next request slot pending => exact alongside_takeUp alongside setup request slot
  next slot pending => exact alongside_become (alongside_slot alongside slot) .retired

theorem alongside_stop : Alongside one other kept.stop spared.stop := by
  cases alongside with
  | intro sessions => exact .intro (abreast_stop sessions) rfl rfl

theorem alongside_attend? (setup : Setup σ) (watch : Watch) :
    Option.Rel (Alongside one other) (kept.attend? setup watch) (spared.attend? setup watch) := by
  unfold attend?
  rw [alongside.slot, alongside.now]
  cases kept.slot.turn kept.session.now watch with
  | ready request slot => exact .some (alongside_takeUp alongside setup request slot)
  | moved slot watch =>
      exact .some (alongside_become (alongside_slot alongside slot) (.waiting watch))
  | resting => exact .none

theorem alongside_idle (setup : Setup σ)
    (idle : kept.worker.labour = .retired ∨ ∃ note, kept.worker.labour = .dead note) :
    Option.Rel (Alongside one other) (kept.advance? setup) (spared.advance? setup) := by
  rw [advance?_idle idle, advance?_idle (alongside.worker ▸ idle), alongside.life]
  split
  · exact .some (alongside_stop alongside)
  · exact .none

theorem alongside_advance? (setup : Setup σ) :
    Option.Rel (Alongside one other) (kept.advance? setup) (spared.advance? setup) := by
  have worker := alongside.worker
  cases doing : kept.worker.labour with
  | waiting watch =>
      rw [advance?_waiting doing, advance?_waiting (worker ▸ doing), alongside.life]
      split
      · exact alongside_attend? alongside setup watch
      · exact .some (alongside_close alongside setup)
  | busy wake stage =>
      rw [advance?_busy doing, advance?_busy (worker ▸ doing), alongside.now]
      split
      · exact .some (alongside_continueWith alongside (forgetful_resume setup stage))
      · exact .none
  | dead note => exact alongside_idle alongside setup (.inr ⟨note, doing⟩)
  | retired => exact alongside_idle alongside setup (.inl doing)

theorem alongside_poll (setup : Setup σ) :
    Alongside one other (kept.poll setup) (spared.poll setup) := by
  cases alongside with
  | @intro session listener sessions listening idle =>
      have stirs : kept.session.present.pollerStirs = session.present.pollerStirs :=
        congrArg Session.pollerStirs sessions.present
      have stirs : kept.session.pollerStirs = session.pollerStirs := stirs
      unfold poll
      rw [stirs]
      exact .intro (sessions.poll setup.document) listening idle

theorem alongside_tick : Alongside one other kept.tick spared.tick :=
  alongside_onSession alongside alongside.sessions.tick

theorem alongside_restart (part : kept.session.part = spared.session.part) :
    Alongside one other kept.restart spared.restart := by
  have restarts := abreast_restart alongside.sessions part
  cases alongside with
  | intro sessions listening idle => exact .intro restarts listening idle

theorem alongside_refresh (setup : Setup σ) :
    Alongside one other (kept.refresh setup) (spared.refresh setup) := by
  obtain ⟨same, sessions⟩ := abreast_reloaded setup alongside.sessions
  have reloaded := alongside_onSession alongside sessions
  cases crash : (spared.reloaded setup).1.crash? with
  | some note =>
      rw [refresh_of_crash ((congrArg Outcome.crash? same).trans crash), refresh_of_crash crash]
      exact reloaded
  | none =>
      rw [refresh_of_returns ((congrArg Outcome.crash? same).trans crash),
        refresh_of_returns crash]
      exact alongside_restart reloaded (part_reloaded setup kept spared)

theorem alongside_schedule (request : CompileRequest) :
    Alongside one other (kept.schedule request) (spared.schedule request) := by
  have sessions := abreast_schedule request alongside.sessions
  have scheduled := alongside_onSession
    (alongside_slot alongside (kept.slot.schedule kept.session.now request).2) sessions
  simp only [schedule, onSession, alongside.slot, alongside.now] at scheduled ⊢
  exact scheduled

theorem alongside_closeEvents : Alongside one other kept.closeEvents spared.closeEvents := by
  have listening : spared.closeEvents.listening = kept.closeEvents.listening := by
    rw [listening_closeEvents, listening_closeEvents]
  have idle : spared.closeEvents.queued = [] := by rw [queued_closeEvents, alongside.idle]
  cases alongside with
  | intro sessions => exact .intro sessions listening idle

theorem alongside_input (setup : Setup σ) {input : Input σ}
    (lasts : (Move.input input).isRuntime = false) :
    Alongside one other (kept.step setup input) (spared.step setup input) := by
  cases input with
  | message message =>
      simp only [step, alongside.life]
      split
      · cases message with
        | compile request => exact alongside_schedule alongside request
        | refresh => exact alongside_refresh alongside setup
        | evaluate => cases lasts
      · exact alongside
  | raised => cases lasts
  | eventsClosed => exact alongside_closeEvents alongside
  | hostChanged change =>
      have changed := congrArg
        (fun session : Session σ => { session with host := change session.host })
        alongside.sessions.present
      exact alongside_onSession alongside ⟨changed, alongside.sessions.told⟩
  | shutdown =>
      simp only [step, alongside.life]
      split
      · cases alongside with
        | intro sessions listening idle => exact .intro sessions listening idle
      · exact alongside

end

theorem alongside_self (preview : Preview σ) (idle : preview.queued = []) :
    Alongside (seen preview.session.trace) (seen preview.session.trace) preview preview :=
  alongside_of (abreast_of_present rfl) rfl rfl idle

end Preview

end LivePreview
