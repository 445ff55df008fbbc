import LivePreview.Proofs.Preview.Runs

namespace LivePreview

namespace Preview

open LivePreview.Cycle

variable {σ : Type u} {setup : Setup σ} {preview next : Preview σ}

structure Alert (preview : Preview σ) : Prop where
  attended : preview.Attended
  heard : preview.slot.Heard preview.worker.labour.watch

theorem alert_of_deaf (attended : preview.Attended)
    (deaf : preview.worker.labour.watch ≠ .listening) : preview.Alert :=
  ⟨attended, Debounce.heard_of_deaf deaf⟩

theorem Advance.alert (advance : Advance setup preview next) (alert : preview.Alert) :
    next.Alert := by
  have attended := (advance.settles alert.attended).1
  cases advance with
  | moves waiting serving turn => exact ⟨attended, Debounce.heard_of_moved turn⟩
  | takes | takesLast | resumes => exact alert_of_deaf attended (watch_after _)
  | retires => exact alert_of_deaf attended (by simp [become, Labour.watch])
  | stops => exact ⟨attended, alert.heard⟩

theorem Idled.alert {delay : Nat} (idled : Idled delay preview next) (alert : preview.Alert) :
    next.Alert := by
  refine ⟨idled.attended alert.attended, ?_⟩
  rw [idled.slot, idled.worker]
  exact alert.heard

theorem upheld_alert (setup : Setup σ) : Upheld setup Alert where
  advance alert advance := advance.alert alert
  poll alert := (idled_poll setup _).alert alert
  listen alert := (idled_listen _).alert alert
  tick alert := ⟨alert.attended, alert.heard⟩
  input := by
    intro preview input alert ready
    have attended := (upheld_attended setup).input alert.attended ready
    have stirs := step_stirs setup preview input
    generalize preview.step setup input = next at stirs attended ⊢
    cases stirs with
    | keeps | closes => exact ⟨attended, alert.heard⟩
    | schedules request => exact ⟨attended, Debounce.heard_schedule alert.attended _ request⟩
    | restarts =>
        exact alert_of_deaf attended (by simp [restart, newWorker, Labour.watch, onSession])

theorem alert_start (settings : Settings) (listening : Bool) (level : LogLevel) (tasks : Nat)
    (host : σ) : (start settings listening level tasks host).Alert :=
  alert_of_deaf (attended_start settings listening level tasks host)
    (by simp [start, newWorker, log, onSession, Labour.watch])

def staleness (slot : Debounce CompileRequest) : Labour → Nat
  | .waiting (.sleeping generation _) => if slot.generation = generation then 0 else 1
  | _ => 0

def ahead (preview : Preview σ) : Nat :=
  2 * ((if preview.slot.hasPending then 5 else 0) + sleepsAhead preview.worker.labour) +
    staleness preview.slot preview.worker.labour

theorem staleness_after (slot : Debounce CompileRequest) (progress : Progress) :
    staleness slot (.after progress) = 0 := by
  cases progress <;> rfl

theorem staleness_of_moved {slot after : Debounce CompileRequest} {watch next : Watch}
    (turn : slot.turn now watch = .moved after next) : staleness after (.waiting next) = 0 := by
  cases Debounce.moves_of_turn turn with
  | sees => simp [staleness]
  | awaits => split <;> rfl
  | hears | misses => rfl

theorem ahead_takeUp {request : CompileRequest} {slot : Debounce CompileRequest}
    (pending : preview.slot.pending = some request) (empty : slot.pending = none) :
    (preview.takeUp setup request slot).ahead < preview.ahead := by
  have few := sleepsAhead_after (tame_begin setup request preview.workerSession) (by omega)
  have taken : slot.hasPending = false := by simp [Debounce.hasPending, empty]
  have full : preview.slot.hasPending = true := by simp [Debounce.hasPending, pending]
  change 2 * ((if slot.hasPending then 5 else 0) +
    sleepsAhead (.after (begin setup request preview.workerSession).1)) +
      staleness slot (.after (begin setup request preview.workerSession).1) < _
  rw [staleness_after]
  simp only [ahead, taken, full, Bool.false_eq_true, if_false, if_true]
  omega

theorem ahead_resume {wake : Nat} {stage : Stage}
    (busy : preview.worker.labour = .busy wake stage) :
    (preview.continueWith (resume setup stage preview.workerSession)).ahead < preview.ahead := by
  have fewer := sleepsAhead_after (lawful_resume setup stage preview.workerSession).toTame
    (rank_pos stage)
  change 2 * ((if preview.slot.hasPending then 5 else 0) +
    sleepsAhead (.after (resume setup stage preview.workerSession).1)) +
      staleness preview.slot (.after (resume setup stage preview.workerSession).1) < _
  have fresh : staleness preview.slot preview.worker.labour = 0 := by rw [busy]; rfl
  have sleeping : sleepsAhead preview.worker.labour = stage.rank := by rw [busy]; rfl
  rw [staleness_after, ahead, fresh, sleeping]
  omega

theorem ahead_of_moved {watch next : Watch} {slot : Debounce CompileRequest}
    (waiting : preview.worker.labour = .waiting watch)
    (turn : preview.slot.turn preview.session.now watch = .moved slot next) :
    ({ preview with slot }.become (.waiting next)).ahead + staleness preview.slot (.waiting watch) =
      preview.ahead := by
  have same : slot.hasPending = preview.slot.hasPending := by
    rw [Debounce.slot_of_moved turn]
    rfl
  simp only [ahead, become, waiting, sleepsAhead, staleness_of_moved turn, same]
  omega

theorem Advance.ahead_le (advance : Advance setup preview next) : next.ahead ≤ preview.ahead := by
  cases advance with
  | moves waiting serving turn =>
      have fewer := ahead_of_moved waiting turn
      omega
  | takes waiting serving turn =>
      obtain ⟨pending, rfl, _⟩ := Debounce.turn_ready turn
      exact Nat.le_of_lt (ahead_takeUp pending rfl)
  | takesLast waiting ending pending => exact Nat.le_of_lt (ahead_takeUp pending rfl)
  | retires => exact Nat.zero_le _
  | resumes busy awake => exact Nat.le_of_lt (ahead_resume busy)
  | stops => exact Nat.le_refl _

theorem Idled.ahead_eq {delay : Nat} (idled : Idled delay preview next) :
    next.ahead = preview.ahead := by
  unfold ahead
  rw [idled.slot, idled.worker]

theorem lasting_ahead (setup : Setup σ) (bound : Nat) :
    Lasting setup fun preview => preview.Alert ∧ preview.ahead ≤ bound where
  advance := fun ⟨alert, few⟩ advance =>
    ⟨advance.alert alert, Nat.le_trans advance.ahead_le few⟩
  poll := fun ⟨alert, few⟩ =>
    ⟨(upheld_alert setup).poll alert, Nat.le_trans (Nat.le_of_eq (idled_poll setup _).ahead_eq) few⟩
  listen := fun ⟨alert, few⟩ =>
    ⟨(upheld_alert setup).listen alert, Nat.le_trans (Nat.le_of_eq (idled_listen _).ahead_eq) few⟩
  tick := fun ⟨alert, few⟩ => ⟨(upheld_alert setup).tick alert, few⟩

def AtEase (preview : Preview σ) : Prop :=
  match preview.worker.labour with
  | .waiting _ => preview.slot.pending = none
  | .busy _ _ => False
  | .dead _ | .retired => True

theorem Idled.atEase {delay : Nat} (idled : Idled delay preview next) (ease : preview.AtEase) :
    next.AtEase := by
  unfold AtEase
  rw [idled.slot, idled.worker]
  exact ease

theorem lasting_atEase (setup : Setup σ) : Lasting setup AtEase where
  poll ease := (idled_poll setup _).atEase ease
  listen ease := (idled_listen _).atEase ease
  tick ease := ease
  advance := by
    intro preview next ease advance
    unfold AtEase at ease
    cases advance with
    | @moves watch next slot waiting serving turn =>
        rw [waiting] at ease
        change slot.pending = none
        rw [Debounce.slot_of_moved turn]
        exact ease
    | takes waiting serving turn =>
        rw [waiting] at ease
        have pending := (Debounce.turn_ready turn).1
        rw [ease] at pending
        cases pending
    | takesLast waiting ending pending =>
        rw [waiting] at ease
        rw [ease] at pending
        cases pending
    | retires => trivial
    | resumes busy =>
        rw [busy] at ease
        exact ease.elim
    | stops => exact ease

theorem pass_add (setup : Setup σ) (preview : Preview σ) (first second : Nat) :
    preview.pass setup (first + second) = (preview.pass setup first).pass setup second := by
  induction first generalizing preview with
  | zero => rw [Nat.zero_add, pass]
  | succ first ih => rw [Nat.add_right_comm, pass, ih, pass]

/-- Nothing can be done before the time, and then there is something that leaves less ahead. -/
structure Sleeps (setup : Setup σ) (preview : Preview σ) (wake : Nat) : Prop where
  asleep : preview.session.now < wake
  rests : ∀ {delay later}, Idled delay preview later → later.session.now < wake →
    later.advance? setup = none
  wakes : ∀ {delay later}, Idled delay preview later → later.session.now = wake →
    ∃ next, later.advance? setup = some next ∧ next.ahead < later.ahead

theorem sleeps_of_busy {wake : Nat} {stage : Stage}
    (busy : preview.worker.labour = .busy wake stage) (asleep : preview.session.now < wake) :
    preview.Sleeps setup wake where
  asleep := asleep
  rests := by
    intro delay later idled early
    simp [advance?, idled.worker, busy, Nat.not_le_of_lt early]
  wakes := by
    intro delay later idled now
    rw [← idled.worker] at busy
    exact ⟨_, advance?_of_awake busy (Nat.le_of_eq now.symm), ahead_resume busy⟩

theorem sleeps_of_sleeping {generation : UInt64} {deadline : Nat} {request : CompileRequest}
    (waiting : preview.worker.labour = .waiting (.sleeping generation deadline))
    (serving : preview.life = .serving) (pending : preview.slot.pending = some request)
    (asleep : preview.session.now < deadline) : preview.Sleeps setup deadline where
  asleep := asleep
  rests := by
    intro delay later idled early
    simp [advance?, idled.worker, idled.life, waiting, serving, attend?, Debounce.turn, early]
  wakes := by
    intro delay later idled now
    rw [← idled.worker] at waiting
    rw [← idled.life] at serving
    rw [← idled.slot] at pending
    have due : ¬ later.session.now < deadline := by omega
    by_cases fresh : later.slot.generation = generation
    · have turn : later.slot.turn later.session.now (.sleeping generation deadline) =
          .ready request { later.slot with pending := none } := by
        simp only [Debounce.turn, if_neg due, pending, if_pos fresh]
      exact ⟨_, advance?_of_ready waiting serving turn, ahead_takeUp pending rfl⟩
    · have turn : later.slot.turn later.session.now (.sleeping generation deadline) =
          .moved later.slot .looking := by
        simp only [Debounce.turn, if_neg due, pending, if_neg fresh]
      have fewer := ahead_of_moved waiting turn
      simp only [staleness, if_neg fresh] at fewer
      exact ⟨_, advance?_of_moved waiting serving turn, Nat.lt_of_succ_le (Nat.le_of_eq fewer)⟩

theorem atEase_or_sleeps (alert : preview.Alert) (rest : preview.advance? setup = none) :
    preview.AtEase ∨ ∃ wake, preview.Sleeps setup wake := by
  cases labour : preview.worker.labour with
  | retired => exact .inl (by simp [AtEase, labour])
  | dead note => exact .inl (by simp [AtEase, labour])
  | busy wake stage =>
      refine .inr ⟨wake, sleeps_of_busy labour (Nat.lt_of_not_le fun awake => ?_)⟩
      simp [advance?, labour, awake] at rest
  | waiting watch =>
      cases pending : preview.slot.pending with
      | none => exact .inl (by simp [AtEase, labour, pending])
      | some request =>
          have serving : preview.life = .serving := by
            cases life : preview.life <;> simp_all [advance?]
          have resting : preview.slot.turn preview.session.now watch = .resting := by
            simp only [advance?, labour, serving, attend?] at rest
            split at rest
            · cases rest
            · cases rest
            · assumption
          have heard := alert.heard
          rw [labour] at heard
          obtain ⟨generation, deadline, rfl, asleep⟩ :=
            Debounce.sleeping_of_resting heard (by simp [Debounce.hasPending, pending]) resting
          exact .inr ⟨deadline, sleeps_of_sleeping labour serving pending asleep⟩

theorem Sleeps.pass {wake : Nat} (sleeps : preview.Sleeps setup wake) (alert : preview.Alert) :
    ∃ milliseconds, (preview.pass setup milliseconds).advance? setup = none ∧
      (preview.pass setup milliseconds).Alert ∧
      (preview.pass setup milliseconds).ahead < preview.ahead := by
  obtain ⟨delay, wakes⟩ := Nat.exists_eq_add_of_lt sleeps.asleep
  have asleep {spent : Nat} {later : Preview σ} (early : spent < delay + 1)
      (idled : Idled spent preview later) : later.advance? setup = none := by
    have now := idled.now
    exact sleeps.rests idled (by omega)
  obtain ⟨woken, idled, passed⟩ := exists_pass_eq_settle asleep
  obtain ⟨middle, before, after⟩ := exists_settle setup woken
  have slept := idled.trans before
  obtain ⟨next, advance, fewer⟩ := sleeps.wakes slept (by rw [slept.now]; omega)
  have stays : next.Alert := (advance?_cases advance).alert (slept.alert alert)
  have attended := (slept.alert alert).attended
  rw [workOn_advance attended advance] at after
  obtain ⟨alertThen, fewerThen⟩ :=
    (lasting_ahead setup next.ahead).turns.workOn ⟨stays, Nat.le_refl _⟩
  refine ⟨delay + 1, ?_⟩
  rw [passed, after.ahead_eq, ← slept.ahead_eq]
  exact ⟨after.rests (workOn_rests setup stays.attended).1, after.alert alertThen,
    Nat.lt_of_le_of_lt fewerThen fewer⟩

theorem exists_pass_atEase (alert : preview.Alert) (rest : preview.advance? setup = none) :
    ∃ milliseconds, (preview.pass setup milliseconds).AtEase := by
  induction ahead : preview.ahead using Nat.strongRecOn generalizing preview with
  | ind bound ih =>
      rcases atEase_or_sleeps alert rest with ease | ⟨wake, sleeps⟩
      · exact ⟨0, ease⟩
      · obtain ⟨first, restThen, alertThen, fewer⟩ := sleeps.pass alert
        obtain ⟨second, ease⟩ := ih _ (ahead ▸ fewer) alertThen restThen rfl
        refine ⟨first + second, ?_⟩
        rw [pass_add]
        exact ease

/-- Given time, a worker gets to the end of what it has to do, and stays there. -/
theorem exists_wait_atEase (setup : Setup σ) (alert : preview.Alert) :
    ∃ enough, ∀ more, (preview.wait setup (enough + more)).AtEase := by
  have settled : (preview.settle setup).Alert := (upheld_alert setup).turns.settle alert
  obtain ⟨enough, ease⟩ :=
    exists_pass_atEase settled (settle_rests setup alert.attended).1
  refine ⟨enough, fun more => ?_⟩
  change ((preview.settle setup).pass setup (enough + more)).AtEase
  rw [pass_add]
  exact (lasting_atEase setup).turns.pass ease more

end Preview

end LivePreview
