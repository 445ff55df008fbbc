import LivePreview.Proofs.Cycle.Alike
import LivePreview.Proofs.Debounce.Alike
import LivePreview.Proofs.Preview.Reporting

namespace LivePreview

def Labour.later (apart : Apart) : Labour → Labour
  | .waiting watch => .waiting (watch.later apart)
  | .busy wake stage => .busy (wake + apart.delay) stage
  | .dead note => .dead note
  | .retired => .retired

theorem Labour.after_later (apart : Apart) (progress : Cycle.Progress) :
    after (progress.later apart.delay) = (after progress).later apart := by
  cases progress <;> rfl

namespace Preview

open LivePreview.Cycle LivePreview.Session

variable {σ : Type u} {setup : Setup σ} {apart : Apart} {preview old fresh next : Preview σ}

/-! Two previews that go on alike, the first as far behind in time as the second is ahead of it in
what it has seen.  What tells them apart is the numbers they count with, the levels of their records
perhaps, all that has to do with heights, and a signal that one of them may have kept. -/

structure Alike (apart : Apart) (old fresh : Preview σ) : Prop where
  session : old.session.Alike apart fresh.session
  slot : old.slot.Alike apart fresh.slot
  labour : old.worker.labour = fresh.worker.labour.later apart
  listener : old.listener = fresh.listener
  life : old.life = fresh.life

/-- The preview once its worker has reported a height, if it is about to report any. -/
def relayed (setup : Setup σ) (preview : Preview σ) : Preview σ :=
  match preview.worker.labour with
  | .busy _ (.reporting height) =>
    preview.continueWith (resume setup (.reporting height) preview.workerSession)
  | _ => preview

theorem relayed_of_silent (silent : preview.reporting? = none) :
    preview.relayed setup = preview := by
  unfold relayed
  split
  next wake height busy =>
      rw [reporting?_eq_some.mpr ⟨wake, busy⟩] at silent
      cases silent
  next => rfl

theorem relayed_continueWith {step : Progress × Session σ}
    (part : step.2.part = .worker preview.worker.task) :
    (preview.continueWith step).relayed setup = preview.continueWith (reported setup step) := by
  obtain ⟨progress, session⟩ := step
  have same : session.handTo (.worker preview.worker.task) = session := by
    rw [← part]
    rfl
  cases progress with
  | ended | crashed => rfl
  | asleep wake stage =>
      cases stage with
      | devTools | loading | building => rfl
      | reporting height =>
          change preview.continueWith (resume setup (.reporting height)
            (session.handTo (.worker preview.worker.task))) = _
          rw [same]
          rfl

/-- To go on until one waits is to report first. -/
theorem workOn_relayed (attended : preview.Attended) (prompt : preview.Prompt) :
    preview.workOn setup = (preview.relayed setup).workOn setup ∧
      (preview.relayed setup).Attended ∧ (preview.relayed setup).effort ≤ preview.effort := by
  cases reporting : preview.reporting? with
  | none =>
      rw [relayed_of_silent reporting]
      exact ⟨rfl, attended, Nat.le_refl _⟩
  | some height =>
      obtain ⟨wake, busy⟩ := reporting?_eq_some.mp reporting
      have reports : preview.advance? setup = some (preview.relayed setup) := by
        rw [advance?_of_awake busy (prompt wake height busy)]
        simp only [relayed, busy]
      obtain ⟨stays, less⟩ := (advance?_cases reports).settles attended
      exact ⟨workOn_advance attended reports, stays, Nat.le_of_lt less⟩

/-- The two are compared when both have reported what they have found. -/
def Near (setup : Setup σ) (apart : Apart) (old fresh : Preview σ) : Prop :=
  Alike apart (old.relayed setup) (fresh.relayed setup)

theorem near_continueWith (alike : Alike apart old fresh) {late early : Progress × Session σ}
    (steps : StepAlike setup apart late early) (partOld : late.2.part = .worker old.worker.task)
    (partFresh : early.2.part = .worker fresh.worker.task) :
    Near setup apart (old.continueWith late) (fresh.continueWith early) := by
  unfold Near
  rw [relayed_continueWith partOld, relayed_continueWith partFresh]
  refine ⟨steps.session, alike.slot, ?_, alike.listener, alike.life⟩
  rw [worker_continueWith, worker_continueWith, steps.progress]
  exact Labour.after_later apart _

theorem Alike.near (alike : Alike apart old fresh) (silentOld : old.reporting? = none)
    (silentFresh : fresh.reporting? = none) : Near setup apart old fresh := by
  unfold Near
  rwa [relayed_of_silent silentOld, relayed_of_silent silentFresh]

theorem alike_slot (alike : Alike apart old fresh) {late early : Debounce CompileRequest}
    (slots : late.Alike apart early) :
    Alike apart { old with slot := late } { fresh with slot := early } :=
  ⟨alike.session, slots, alike.labour, alike.listener, alike.life⟩

theorem near_takeUp (alike : Alike apart old fresh) (request : CompileRequest)
    {late early : Debounce CompileRequest} (slots : late.Alike apart early) :
    Near setup apart (old.takeUp setup request late) (fresh.takeUp setup request early) := by
  obtain ⟨_, addsOld⟩ := exists_adds_begin setup request old.workerSession
  obtain ⟨_, addsFresh⟩ := exists_adds_begin setup request fresh.workerSession
  exact near_continueWith (alike_slot alike slots) (alike_begin (alike.session.handTo _ _) request)
    addsOld.part addsFresh.part

theorem alike_become (alike : Alike apart old fresh) (labour : Labour) :
    Alike apart (old.become (labour.later apart)) (fresh.become labour) :=
  ⟨alike.session, alike.slot, rfl, alike.listener, alike.life⟩

theorem alike_stop (alike : Alike apart old fresh) : Alike apart old.stop fresh.stop := by
  have ended := alike.session.handTo .caller .caller
  have recorded := ended.logAll old.worker.obituary fresh.worker.obituary
  have silenced := recorded.quiet (quiet_stopPolling _) (quiet_stopPolling _)
  exact ⟨silenced.log _ _, alike.slot, alike.labour, rfl, rfl⟩

/-- No signal has been kept for a worker that looks for a request where there is none. -/
def Calm (preview : Preview σ) : Prop :=
  preview.life = .serving → preview.worker.labour = .waiting .looking →
    preview.slot.pending = none → preview.slot.signal.kept = false

theorem near_attend (alike : Alike apart old fresh) {watch : Watch}
    (attended : fresh.slot.Attended watch)
    (calm : watch = .looking → fresh.slot.pending = none →
      old.slot.signal.kept = false ∧ fresh.slot.signal.kept = false) :
    Option.Rel (Near setup apart) (old.attend? setup (watch.later apart))
      (fresh.attend? setup watch) := by
  have turns := Debounce.alike_turn alike.slot fresh.session.now attended calm
  unfold attend?
  rw [alike.session.now]
  generalize old.slot.turn _ _ = late at turns ⊢
  generalize fresh.slot.turn _ _ = early at turns ⊢
  cases turns with
  | ready request slots => exact .some (near_takeUp alike request slots)
  | moved next slots =>
      exact .some ((alike_become (alike_slot alike slots) (.waiting next)).near rfl rfl)
  | resting => exact .none

theorem near_close (alike : Alike apart old fresh) :
    Near setup apart (old.close setup) (fresh.close setup) := by
  have emptied := alike.slot.leave.cancel
  have same : old.slot.leave.pending = fresh.slot.leave.pending := alike.slot.pending
  unfold close
  simp only [Debounce.flush, same]
  cases fresh.slot.leave.pending with
  | some request => exact near_takeUp alike request emptied
  | none => exact (alike_become (alike_slot alike emptied) .retired).near rfl rfl

theorem advance?_waiting {preview : Preview σ} {watch : Watch}
    (waiting : preview.worker.labour = .waiting watch) :
    preview.advance? setup =
      if preview.life = .serving then preview.attend? setup watch
      else some (preview.close setup) := by
  unfold advance?
  rw [waiting]
  cases preview.life <;> rfl

theorem advance?_busy {preview : Preview σ} {wake : Nat} {stage : Stage}
    (busy : preview.worker.labour = .busy wake stage) :
    preview.advance? setup =
      if wake ≤ preview.session.now then
        some (preview.continueWith (resume setup stage preview.workerSession))
      else none := by
  unfold advance?
  rw [busy]

theorem advance?_idle {preview : Preview σ}
    (idle : preview.worker.labour = .retired ∨ ∃ note, preview.worker.labour = .dead note) :
    preview.advance? setup = if preview.life = .closing then some preview.stop else none := by
  unfold advance?
  rcases idle with retired | ⟨note, dead⟩
  · rw [retired]
    cases preview.life <;> rfl
  · rw [dead]
    cases preview.life <;> rfl

theorem reporting?_stop {preview : Preview σ}
    (idle : preview.worker.labour = .retired ∨ ∃ note, preview.worker.labour = .dead note) :
    preview.stop.reporting? = none :=
  reporting?_of_not_busy (by rcases idle with retired | ⟨note, dead⟩ <;> simp [stop, onSession, *])

theorem near_idle (alike : Alike apart old fresh)
    (idleOld : old.worker.labour = .retired ∨ ∃ note, old.worker.labour = .dead note)
    (idleFresh : fresh.worker.labour = .retired ∨ ∃ note, fresh.worker.labour = .dead note) :
    Option.Rel (Near setup apart) (old.advance? setup) (fresh.advance? setup) := by
  rw [advance?_idle idleOld, advance?_idle idleFresh, alike.life]
  split
  · exact .some ((alike_stop alike).near (reporting?_stop idleOld) (reporting?_stop idleFresh))
  · exact .none

theorem near_resume (alike : Alike apart old fresh) (stage : Stage) :
    Near setup apart (old.continueWith (resume setup stage old.workerSession))
      (fresh.continueWith (resume setup stage fresh.workerSession)) := by
  obtain ⟨_, addsOld, _⟩ := (lawful_resume setup stage old.workerSession).adds
  obtain ⟨_, addsFresh, _⟩ := (lawful_resume setup stage fresh.workerSession).adds
  exact near_continueWith alike (alike_resume (alike.session.handTo _ _) stage) addsOld.part
    addsFresh.part

theorem near_advance (setup : Setup σ) (alike : Alike apart old fresh) (attended : fresh.Attended)
    (calmOld : old.Calm) (calmFresh : fresh.Calm) :
    Option.Rel (Near setup apart) (old.advance? setup) (fresh.advance? setup) := by
  have labour := alike.labour
  cases doing : fresh.worker.labour with
  | waiting watch =>
      rw [doing] at labour
      rw [advance?_waiting labour, advance?_waiting doing, alike.life]
      split
      next serving =>
          unfold Attended at attended
          rw [doing] at attended
          refine near_attend alike attended fun looking pending => ?_
          subst looking
          exact ⟨calmOld (alike.life.trans serving) labour (alike.slot.pending.trans pending),
            calmFresh serving doing pending⟩
      next => exact .some (near_close alike)
  | busy wake stage =>
      rw [doing] at labour
      have awake : wake + apart.delay ≤ old.session.now ↔ wake ≤ fresh.session.now := by
        rw [alike.session.now]
        omega
      rw [advance?_busy labour, advance?_busy doing]
      simp only [awake]
      split
      · exact .some (near_resume alike stage)
      · exact .none
  | dead note =>
      rw [doing] at labour
      exact near_idle alike (.inr ⟨note, labour⟩) (.inr ⟨note, doing⟩)
  | retired =>
      rw [doing] at labour
      exact near_idle alike (.inl labour) (.inl doing)

/-- The preview once its worker has heard the signal that it has kept. -/
def silenced (preview : Preview σ) : Preview σ :=
  { preview with slot := { preview.slot with signal := .silent }, pollsFirst := true }

/-- A kept signal costs a preview one step, which changes nothing else. -/
theorem calm_or_advance (setup : Setup σ) {preview : Preview σ} (attended : preview.Attended) :
    preview.Calm ∨
      preview.slot.signal.waiter = .absent ∧ preview.advance? setup = some preview.silenced := by
  by_cases calm : preview.Calm
  · exact .inl calm
  · simp only [Calm, Classical.not_imp] at calm
    obtain ⟨serving, looking, pending, kept⟩ := calm
    have absent := attended.absent (by simp [looking, Labour.watch])
    refine .inr ⟨absent, ?_⟩
    rw [advance?_waiting looking, if_pos serving]
    unfold attend?
    rw [Debounce.turn_kept pending absent (by simpa using kept)]
    simp only [become, silenced, ← looking]

/-- A kept signal costs one of them a step that the other does not take, and so does a new height,
so the induction is on what is left to both together. -/
theorem alike_workOn (alike : Alike apart old fresh) (attendedOld : old.Attended)
    (attendedFresh : fresh.Attended) : Alike apart (old.workOn setup) (fresh.workOn setup) := by
  generalize effort : old.effort + fresh.effort = count
  induction count using Nat.strongRecOn generalizing old fresh with
  | _ count ih =>
      rcases calm_or_advance setup attendedOld with calmOld | ⟨absent, advance⟩
      · rcases calm_or_advance setup attendedFresh with calmFresh | ⟨absent, advance⟩
        · have steps := near_advance setup alike attendedFresh calmOld calmFresh
          generalize advanceOld : old.advance? setup = late,
            advanceFresh : fresh.advance? setup = early at steps
          cases steps with
          | none => rwa [workOn_of_rest advanceOld, workOn_of_rest advanceFresh]
          | @some late early near =>
              have goesOld := advance?_cases advanceOld
              have goesFresh := advance?_cases advanceFresh
              obtain ⟨staysOld, lessOld⟩ := goesOld.settles attendedOld
              obtain ⟨staysFresh, lessFresh⟩ := goesFresh.settles attendedFresh
              obtain ⟨onOld, relaysOld, noMoreOld⟩ :=
                @workOn_relayed _ setup _ staysOld goesOld.prompt
              obtain ⟨onFresh, relaysFresh, noMoreFresh⟩ :=
                @workOn_relayed _ setup _ staysFresh goesFresh.prompt
              rw [workOn_advance attendedOld advanceOld, workOn_advance attendedFresh advanceFresh,
                onOld, onFresh]
              exact ih _ (by omega) near relaysOld relaysFresh rfl
        · obtain ⟨stays, less⟩ := (advance?_cases advance).settles attendedFresh
          have slots : old.slot.Alike apart fresh.silenced.slot :=
            alike.slot.signal (alike.slot.waiter.trans absent)
          have silent : Alike apart old fresh.silenced :=
            ⟨alike.session, slots, alike.labour, alike.listener, alike.life⟩
          rw [workOn_advance attendedFresh advance]
          exact ih _ (by omega) silent attendedOld stays rfl
      · obtain ⟨stays, less⟩ := (advance?_cases advance).settles attendedOld
        have slots : old.silenced.slot.Alike apart fresh.slot :=
          alike.slot.signal (absent.symm.trans alike.slot.waiter)
        have silent : Alike apart old.silenced fresh :=
          ⟨alike.session, slots, alike.labour, alike.listener, alike.life⟩
        rw [workOn_advance attendedOld advance]
        exact ih _ (by omega) silent stays attendedFresh rfl

/-- Two previews that go on alike, whatever is put in. -/
structure Twins (apart : Apart) (old fresh : Preview σ) : Prop where
  alike : Alike apart old fresh
  attendedOld : old.Attended
  attendedFresh : fresh.Attended

theorem twins_workOn (setup : Setup σ) (twins : Twins apart old fresh) :
    Twins apart (old.workOn setup) (fresh.workOn setup) where
  alike := alike_workOn twins.alike twins.attendedOld twins.attendedFresh
  attendedOld := (workOn_rests setup twins.attendedOld).2
  attendedFresh := (workOn_rests setup twins.attendedFresh).2

theorem alike_onSession (alike : Alike apart old fresh) {late early : Session σ}
    (sessions : late.Alike apart early) :
    Alike apart { old with session := late } { fresh with session := early } :=
  ⟨sessions, alike.slot, alike.labour, alike.listener, alike.life⟩

theorem twins_poll_old (setup : Setup σ) (twins : Twins apart old fresh) :
    Twins apart (old.poll setup) fresh := by
  have alike := twins.alike
  have polled := (polled_poll setup.document old.session).quiet
  exact ⟨⟨alike.session.quiet polled (quiet_refl _), alike.slot, alike.labour, alike.listener,
    alike.life⟩, twins.attendedOld, twins.attendedFresh⟩

theorem twins_poll_fresh (setup : Setup σ) (twins : Twins apart old fresh) :
    Twins apart old (fresh.poll setup) := by
  have alike := twins.alike
  have polled := (polled_poll setup.document fresh.session).quiet
  exact ⟨⟨alike.session.quiet (quiet_refl _) polled, alike.slot, alike.labour, alike.listener,
    alike.life⟩, twins.attendedOld, twins.attendedFresh⟩

theorem twins_pollOn_old (setup : Setup σ) (twins : Twins apart old fresh) :
    Twins apart (old.pollOn setup) fresh := by
  obtain ⟨_, polled⟩ := polled_pollOn setup.document old.session
  have alike := twins.alike
  exact ⟨⟨alike.session.quiet polled.quiet (quiet_refl _), alike.slot, alike.labour, alike.listener,
    alike.life⟩, twins.attendedOld, twins.attendedFresh⟩

theorem twins_pollOn_fresh (setup : Setup σ) (twins : Twins apart old fresh) :
    Twins apart old (fresh.pollOn setup) := by
  obtain ⟨_, polled⟩ := polled_pollOn setup.document fresh.session
  have alike := twins.alike
  exact ⟨⟨alike.session.quiet (quiet_refl _) polled.quiet, alike.slot, alike.labour, alike.listener,
    alike.life⟩, twins.attendedOld, twins.attendedFresh⟩

theorem twins_listen (twins : Twins apart old fresh) : Twins apart old.listen fresh.listen := by
  have alike := twins.alike
  have ready := alike.session.handTo .listener .listener
  unfold listen
  rw [alike.listener]
  split
  · exact twins
  · exact twins
  · exact ⟨⟨ready.log _ _, alike.slot, alike.labour, rfl, alike.life⟩, twins.attendedOld,
      twins.attendedFresh⟩
  · exact ⟨⟨ready.raise _, alike.slot, alike.labour, rfl, alike.life⟩, twins.attendedOld,
      twins.attendedFresh⟩

theorem twins_listenUpTo (twins : Twins apart old fresh) (count : Nat) :
    Twins apart (old.listenUpTo count) (fresh.listenUpTo count) := by
  induction count generalizing old fresh with
  | zero => exact twins
  | succ count ih => exact ih (twins_listen twins)

theorem twins_listenOn (twins : Twins apart old fresh) :
    Twins apart old.listenOn fresh.listenOn := by
  have same : old.backlog = fresh.backlog := by
    unfold backlog
    rw [twins.alike.listener]
  unfold listenOn
  rw [same]
  exact twins_listenUpTo twins _

theorem isOver_eq (alike : Alike apart old fresh) : old.isOver = fresh.isOver := by
  unfold isOver
  rw [alike.labour, alike.life]
  cases fresh.worker.labour <;> rfl

theorem twins_turns (setup : Setup σ) (twins : Twins apart old fresh) (first second : Bool) :
    Twins apart
      (if first then (old.pollOn setup).workOn setup else (old.workOn setup).pollOn setup)
      (if second then (fresh.pollOn setup).workOn setup
        else (fresh.workOn setup).pollOn setup) := by
  cases first with
  | true =>
      have polled := twins_pollOn_old setup twins
      cases second with
      | true => exact twins_workOn setup (twins_pollOn_fresh setup polled)
      | false => exact twins_pollOn_fresh setup (twins_workOn setup polled)
  | false =>
      cases second with
      | true => exact twins_pollOn_old setup (twins_workOn setup (twins_pollOn_fresh setup twins))
      | false =>
          exact twins_pollOn_old setup (twins_pollOn_fresh setup (twins_workOn setup twins))

theorem twins_settle (setup : Setup σ) (twins : Twins apart old fresh) :
    Twins apart (old.settle setup) (fresh.settle setup) := by
  unfold settle
  rw [isOver_eq twins.alike]
  split
  · exact twins_turns setup twins false false
  · exact twins_turns setup (twins_listenOn twins) _ _

theorem twins_tick (twins : Twins apart old fresh) : Twins apart old.tick fresh.tick :=
  ⟨alike_onSession twins.alike twins.alike.session.tick, twins.attendedOld, twins.attendedFresh⟩

theorem twins_pass (setup : Setup σ) (twins : Twins apart old fresh) (count : Nat) :
    Twins apart (old.pass setup count) (fresh.pass setup count) := by
  induction count generalizing old fresh with
  | zero => exact twins
  | succ count ih => exact ih (twins_settle setup (twins_tick twins))

theorem alike_restart (alike : Alike apart old fresh) : Alike apart old.restart fresh.restart := by
  have recorded := alike.session.logAll
    ((if old.slot.hasPending then [.debug "dropped pending compile on refresh" []] else []) ++
      [old.worker.farewell])
    ((if fresh.slot.hasPending then [.debug "dropped pending compile on refresh" []] else []) ++
      [fresh.worker.farewell])
  have renewed := alike_ready (alike_firstLoad recorded true) none
  exact ⟨(renewed.log _ _).send .refresh, alike.slot.cancel.leave, rfl, alike.listener, alike.life⟩

theorem alike_refresh (alike : Alike apart old fresh) :
    Alike apart (old.refresh setup) (fresh.refresh setup) := by
  obtain ⟨same, called⟩ :=
    (alike.session.handTo .caller .caller).ask .reload setup.document.reload
  have reloaded := alike_onSession alike called
  simp only [refresh, same]
  split
  · exact reloaded
  · exact alike_restart reloaded

theorem alike_evaluate_command (alike : Alike apart old fresh) (command : String) :
    Alike apart (old.evaluate setup command) (fresh.evaluate setup command) := by
  refine alike_onSession alike ?_
  have answered := (alike.session.handTo .caller .caller).take
    (setup.backend.command command fresh.session.host)
  simp only [alike.session.host]
  cases consoleEntry? (setup.backend.command command fresh.session.host).value with
  | none => exact answered
  | some entry => exact answered.send _

theorem alike_schedule (alike : Alike apart old fresh) (request : CompileRequest) :
    Alike apart (old.schedule request) (fresh.schedule request) := by
  have slots := alike.slot.schedule fresh.session.now request
  have noted := ((alike.session.handTo .caller .caller).note (.accepted request)).logAll
    old.slot.scheduleRecords fresh.slot.scheduleRecords
  rw [← alike.session.now] at slots
  exact ⟨noted, slots, alike.labour, alike.listener, alike.life⟩

theorem alike_receive (alike : Alike apart old fresh) (message : Inbound) :
    Alike apart (old.receive setup message) (fresh.receive setup message) := by
  cases message with
  | compile request => exact alike_schedule alike request
  | refresh => exact alike_refresh alike
  | evaluate command => exact alike_evaluate_command alike command

theorem reporting?_eq (alike : Alike apart old fresh) : old.reporting? = fresh.reporting? := by
  unfold reporting?
  rw [alike.labour]
  cases fresh.worker.labour with
  | busy wake stage => cases stage <;> rfl
  | waiting | dead | retired => rfl

theorem alike_report (alike : Alike apart old fresh) {height : UInt32}
    (reports : fresh.reporting? = some height) :
    Alike apart (old.move setup .work) (fresh.move setup .work) := by
  obtain ⟨wake, busy⟩ := reporting?_eq_some.mp reports
  have labour := alike.labour
  rw [busy] at labour
  have awake : wake + apart.delay ≤ old.session.now ↔ wake ≤ fresh.session.now := by
    rw [alike.session.now]
    omega
  simp only [move]
  rw [advance?_busy labour, advance?_busy busy]
  simp only [awake]
  split
  · have near : Near setup apart _ _ := near_resume alike (.reporting height)
    exact near
  · exact alike

theorem alike_letReport (alike : Alike apart old fresh) (input : Input σ) :
    Alike apart (old.letReport setup input) (fresh.letReport setup input) := by
  cases input with
  | message message =>
      cases message with
      | compile | evaluate => exact alike
      | refresh =>
          rw [letReport_refresh, letReport_refresh, alike.life, reporting?_eq alike]
          split
          next reports =>
              obtain ⟨height, reports⟩ := Option.isSome_iff_exists.mp reports.2
              exact alike_report alike reports
          next => exact alike
  | raised | eventsClosed | hostChanged | shutdown => exact alike

theorem alike_step (setup : Setup σ) (alike : Alike apart old fresh) (input : Input σ) :
    Alike apart (old.step setup input) (fresh.step setup input) := by
  cases input with
  | message message =>
      simp only [step, alike.life]
      split
      · exact alike_receive alike message
      · exact alike
  | raised event =>
      simp only [step, enqueue, alike.listener]
      split
      · exact ⟨alike.session, alike.slot, alike.labour, rfl, alike.life⟩
      · exact alike
      · exact alike
  | eventsClosed =>
      exact ⟨alike.session, alike.slot, alike.labour, congrArg (Option.map _) alike.listener,
        alike.life⟩
  | hostChanged change =>
      have session := alike.session
      refine alike_onSession alike ⟨session.now, ?_, session.level, session.firstLoad,
        session.ready, session.told⟩
      exact congrArg change session.host
  | shutdown =>
      simp only [step, alike.life]
      split
      · exact ⟨alike.session, alike.slot, alike.labour, alike.listener, rfl⟩
      · exact alike

theorem twins_input (setup : Setup σ) (twins : Twins apart old fresh) (input : Input σ) :
    Twins apart (old.move setup (.input input)) (fresh.move setup (.input input)) :=
  ⟨alike_step setup (alike_letReport twins.alike input) input,
    (upheld_attended setup).move twins.attendedOld (.input input),
    (upheld_attended setup).move twins.attendedFresh (.input input)⟩

/-- Whatever is done, but for single steps of their workers. -/
theorem twins_move (setup : Setup σ) (twins : Twins apart old fresh) {move : Move σ}
    (steady : move ≠ .work) : Twins apart (old.move setup move) (fresh.move setup move) := by
  cases move with
  | input input => exact twins_input setup twins input
  | work => exact (steady rfl).elim
  | poll => exact twins_poll_old setup (twins_poll_fresh setup twins)
  | listen => exact twins_listen twins
  | tick => exact twins_tick twins
  | workOn => exact twins_workOn setup twins
  | pollOn => exact twins_pollOn_old setup (twins_pollOn_fresh setup twins)
  | listenOn => exact twins_listenOn twins
  | wait milliseconds => exact twins_pass setup (twins_settle setup twins) milliseconds

theorem twins_play (setup : Setup σ) (twins : Twins apart old fresh) {moves : List (Move σ)}
    (steady : ∀ move ∈ moves, move ≠ .work) :
    Twins apart (old.play setup moves) (fresh.play setup moves) := by
  induction moves generalizing old fresh with
  | nil => exact twins
  | cons move rest ih =>
      exact ih (twins_move setup twins (steady move (by simp)))
        fun move among => steady move (by simp [among])

theorem upheld_window (setup : Setup σ) (window : Nat) :
    Upheld setup fun preview => preview.slot.window = window where
  poll same := same
  listen same := by rwa [(idled_listen _).slot]
  tick same := same
  advance := by
    intro preview next same advance
    cases advance with
    | moves waiting serving turn =>
        rw [Debounce.slot_of_moved turn]
        exact same
    | takes waiting serving turn =>
        obtain ⟨_, rfl, _⟩ := Debounce.turn_ready turn
        exact same
    | takesLast | retires | resumes | stops => exact same
  input := by
    intro preview input same _
    have stirs := step_stirs setup preview input
    generalize preview.step setup input = next at stirs ⊢
    cases stirs with
    | keeps | schedules | restarts | closes => exact same

theorem told_restart (preview : Preview σ) :
    told preview.restart.session.trace =
      told preview.session.trace ++ [(preview.session.now, .sent .refresh)] := by
  rw [← told_seen, (adds_restart preview).seen, told_append, told_seen]
  rfl

theorem told_reloaded (setup : Setup σ) (preview : Preview σ) :
    told (preview.reloaded setup).2.trace =
      told preview.session.trace ++ [(preview.session.now, .called .reload)] := by
  rw [← told_seen, (adds_reloaded setup preview).seen, told_append, told_seen]
  rfl

/-- How far apart a preview that starts over and a new one are. -/
def apartBy (preview : Preview σ) : Apart where
  delay := preview.session.now
  offset := preview.slot.generation
  past := told preview.restart.session.trace
  first := [(0, .sent .initialized)]
  levels := False

theorem alike_unbegun (preview : Preview σ) (settings : Settings) (listening : Bool)
    (level : LogLevel) (tasks : Nat) :
    preview.restart.session.Alike (apartBy preview)
      (start settings listening level tasks preview.restart.session.host).session := by
  rw [session_start]
  refine Alike.quiet ?_ (quiet_refl _) (quiet_log _ _)
  have adds := adds_restart preview
  exact ⟨adds.now.trans (Nat.zero_add _).symm, rfl, nofun,
    congrArg Prod.fst (memory_restart preview), congrArg Prod.snd (memory_restart preview), [],
    (List.append_nil _).symm, rfl⟩

/-- A new preview whose listener has events to forward already, if it has one. -/
def startWith (settings : Settings) (listener : Option Listener) (level : LogLevel) (tasks : Nat)
    (host : σ) : Preview σ :=
  { start settings listener.isSome level tasks host with listener }

theorem twins_restart {preview : Preview σ} {settings : Settings}
    (serving : preview.life = .serving)
    (window : preview.slot.window = min settings.window Debounce.longestWindow)
    (level : LogLevel) (tasks : Nat) :
    Twins (apartBy preview) preview.restart
      (startWith settings preview.restart.listener level tasks preview.restart.session.host) where
  alike :=
    { session := alike_unbegun preview settings _ level tasks
      slot := ⟨window, rfl, (UInt64.zero_add _).symm, nofun, Signal.waiter_leave _⟩
      labour := rfl
      listener := rfl
      life := serving }
  attendedOld := Debounce.attended_leave _
  attendedFresh := attended_start settings _ level tasks _

/-- After a refresh whose reload returns, whatever came before, a preview goes on as a new one
would that has the same events still to forward: it sends the same messages, heights apart, and
makes the same calls, at the same times since then. -/
theorem run_refresh (setup : Setup σ) (settings : Settings) (listening : Bool) (level : LogLevel)
    (tasks : Nat) (host : σ) (moves : List (Move σ)) (laterLevel : LogLevel) (laterTasks : Nat)
    (later : List (Move σ)) :
    let old := ((start settings listening level tasks host).play setup moves).letReport setup
      (.message .refresh)
    let refreshed := old.step setup (.message .refresh)
    let fresh :=
      startWith settings refreshed.listener laterLevel laterTasks refreshed.session.host
    let now := old.session.now
    old.life = .serving → (setup.document.reload old.session.host).value.Steady →
    (∀ move ∈ later, move ≠ .work) →
      ∃ events,
        told (fresh.play setup later).session.trace = (0, .sent .initialized) :: events ∧
          told (refreshed.play setup later).session.trace =
            told old.session.trace ++ (now, .called .reload) :: (now, .sent .refresh) ::
              events.map fun event => (event.1 + now, event.2) := by
  intro old refreshed fresh now serving returns steady
  let reloaded : Preview σ := { old with session := (old.reloaded setup).2 }
  have restarted : refreshed = reloaded.restart := by
    simp only [refreshed, step, if_pos serving]
    exact refresh_of_returns returns
  have serving : reloaded.life = .serving := serving
  have window : reloaded.slot.window = min settings.window Debounce.longestWindow :=
    (upheld_window setup _).letReport ((upheld_window setup _).play rfl moves) _
  have same : reloaded.session.now = now := (adds_reloaded setup old).now
  have twins := twins_restart serving window laterLevel laterTasks
  rw [← restarted] at twins
  obtain ⟨events, toldOld, toldFresh⟩ := (twins_play setup twins steady).alike.session.told
  refine ⟨events, toldFresh, toldOld.trans ?_⟩
  change told reloaded.restart.session.trace ++ _ = _
  have later :
      reloaded.apartBy.later events = events.map fun event => (event.1 + now, event.2) := by
    simp only [Apart.later, apartBy, same]
  rw [told_restart, told_reloaded, same, later, List.append_assoc, List.append_assoc]
  rfl

theorem run_refresh_headless :
    let moves : List (Move Headless) :=
      [.input (.message (.compile (.ofTemplate none))), .input (.raised (.console [])), .work,
        .tick]
    let later : List (Move Headless) :=
      [.wait 20, .input (.message (.compile (.ofTemplate (some "react")))), .poll, .wait 100,
        .input .shutdown, .wait 1]
    let old := ((start .default true .info 0 Headless.fresh).play Headless.setup moves).letReport
      Headless.setup (.message .refresh)
    let refreshed := old.step Headless.setup (.message .refresh)
    let fresh := startWith .default refreshed.listener .off 7 refreshed.session.host
    let now := old.session.now
    old.life = .serving ∧ (Headless.setup.document.reload old.session.host).value.Steady ∧
      (∀ move ∈ later, move ≠ .work) ∧ ∃ events,
        told (fresh.play Headless.setup later).session.trace = (0, .sent .initialized) :: events ∧
          told (refreshed.play Headless.setup later).session.trace =
            told old.session.trace ++ (now, .called .reload) :: (now, .sent .refresh) ::
              events.map fun event => (event.1 + now, event.2) :=
  ⟨rfl, rfl, by simp, run_refresh Headless.setup .default true .info 0 Headless.fresh
    [.input (.message (.compile (.ofTemplate none))), .input (.raised (.console [])), .work, .tick]
    .off 7
    [.wait 20, .input (.message (.compile (.ofTemplate (some "react")))), .poll, .wait 100,
      .input .shutdown, .wait 1] rfl rfl (by simp)⟩

end Preview

end LivePreview
