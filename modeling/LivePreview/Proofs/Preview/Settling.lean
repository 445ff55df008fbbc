import LivePreview.Preview
import LivePreview.Proofs.Cycle.Steps
import LivePreview.Proofs.Debounce.Turns
import LivePreview.Proofs.Session.Said

namespace LivePreview

/-- How a worker watches the slot, or would when it comes back to it. -/
def Labour.watch : Labour → Watch
  | .waiting watch => watch
  | _ => .looking

namespace Preview

open LivePreview.Cycle

variable {σ : Type u} {setup : Setup σ} {preview next : Preview σ}

/-! The ways in which a preview goes on without time passing. -/

inductive Advance (setup : Setup σ) (preview : Preview σ) : Preview σ → Prop
  | moves {watch next : Watch} {slot : Debounce CompileRequest}
      (waiting : preview.worker.labour = .waiting watch) (serving : preview.life = .serving)
      (turn : preview.slot.turn preview.session.now watch = .moved slot next) :
      Advance setup preview ({ preview with slot }.become (.waiting next))
  | takes {watch : Watch} {request : CompileRequest} {slot : Debounce CompileRequest}
      (waiting : preview.worker.labour = .waiting watch) (serving : preview.life = .serving)
      (turn : preview.slot.turn preview.session.now watch = .ready request slot) :
      Advance setup preview (preview.takeUp setup request slot)
  | takesLast {watch : Watch} {request : CompileRequest}
      (waiting : preview.worker.labour = .waiting watch) (ending : preview.life ≠ .serving)
      (pending : preview.slot.pending = some request) :
      Advance setup preview (preview.takeUp setup request preview.slot.leave.flush.2)
  | retires {watch : Watch}
      (waiting : preview.worker.labour = .waiting watch) (ending : preview.life ≠ .serving)
      (pending : preview.slot.pending = none) :
      Advance setup preview ({ preview with slot := preview.slot.leave.flush.2 }.become .retired)
  | resumes {wake : Nat} {stage : Stage}
      (busy : preview.worker.labour = .busy wake stage) (awake : wake ≤ preview.session.now) :
      Advance setup preview (preview.continueWith (resume setup stage preview.workerSession))
  | stops (idle : preview.worker.labour = .retired ∨ ∃ note, preview.worker.labour = .dead note)
      (closing : preview.life = .closing) :
      Advance setup preview preview.stop

theorem attend?_cases {watch : Watch} (waiting : preview.worker.labour = .waiting watch)
    (serving : preview.life = .serving) (advance : preview.attend? setup watch = some next) :
    Advance setup preview next := by
  unfold attend? at advance
  split at advance
  next request slot turn =>
      cases advance
      exact .takes waiting serving turn
  next slot watch turn =>
      cases advance
      exact .moves waiting serving turn
  next => cases advance

theorem close_cases {watch : Watch} (waiting : preview.worker.labour = .waiting watch)
    (ending : preview.life ≠ .serving) : Advance setup preview (preview.close setup) := by
  cases pending : preview.slot.pending with
  | some request =>
      have closed : preview.close setup =
          preview.takeUp setup request preview.slot.leave.flush.2 := by
        simp [close, Debounce.flush, Debounce.leave, pending]
      rw [closed]
      exact .takesLast waiting ending pending
  | none =>
      have closed : preview.close setup =
          { preview with slot := preview.slot.leave.flush.2 }.become .retired := by
        simp [close, Debounce.flush, Debounce.leave, pending]
      rw [closed]
      exact .retires waiting ending pending

theorem advance?_cases (advance : preview.advance? setup = some next) :
    Advance setup preview next := by
  unfold advance? at advance
  split at advance
  next watch waiting serving => exact attend?_cases waiting serving advance
  next watch life waiting ending =>
      cases advance
      exact close_cases waiting ending
  next wake stage life busy =>
      split at advance
      next awake =>
          cases advance
          exact .resumes busy awake
      next => cases advance
  next note dead closing =>
      cases advance
      exact .stops (.inr ⟨note, dead⟩) closing
  next retired closing =>
      cases advance
      exact .stops (.inl retired) closing
  next => cases advance
  next => cases advance

theorem advance?_of_awake {wake : Nat} {stage : Stage}
    (busy : preview.worker.labour = .busy wake stage) (awake : wake ≤ preview.session.now) :
    preview.advance? setup =
      some (preview.continueWith (resume setup stage preview.workerSession)) := by
  simp only [advance?, busy, if_pos awake]

theorem advance?_of_ready {watch : Watch} {request : CompileRequest}
    {slot : Debounce CompileRequest} (waiting : preview.worker.labour = .waiting watch)
    (serving : preview.life = .serving)
    (turn : preview.slot.turn preview.session.now watch = .ready request slot) :
    preview.advance? setup = some (preview.takeUp setup request slot) := by
  simp only [advance?, waiting, serving, attend?, turn]

theorem advance?_of_moved {watch next : Watch} {slot : Debounce CompileRequest}
    (waiting : preview.worker.labour = .waiting watch) (serving : preview.life = .serving)
    (turn : preview.slot.turn preview.session.now watch = .moved slot next) :
    preview.advance? setup = some ({ preview with slot }.become (.waiting next)) := by
  simp only [advance?, waiting, serving, attend?, turn]

theorem Advance.advance? (advance : Advance setup preview next) :
    preview.advance? setup = some next := by
  cases advance with
  | moves waiting serving turn => exact advance?_of_moved waiting serving turn
  | takes waiting serving turn => exact advance?_of_ready waiting serving turn
  | takesLast waiting ending pending =>
      cases life : preview.life <;>
        simp_all [Preview.advance?, close, Debounce.flush, Debounce.leave]
  | retires waiting ending pending =>
      cases life : preview.life <;>
        simp_all [Preview.advance?, close, Debounce.flush, Debounce.leave]
  | resumes busy awake => exact advance?_of_awake busy awake
  | stops idle closing =>
      rcases idle with retired | ⟨note, dead⟩
      · simp only [Preview.advance?, retired, closing]
      · simp only [Preview.advance?, dead, closing]

def Attended (preview : Preview σ) : Prop :=
  preview.slot.Attended preview.worker.labour.watch

theorem Attended.absent (attended : preview.Attended)
    (deaf : preview.worker.labour.watch ≠ .listening) : preview.slot.signal.waiter = .absent :=
  attended.mpr deaf

theorem attended_of_absent (absent : preview.slot.signal.waiter = .absent)
    (deaf : preview.worker.labour.watch ≠ .listening) : preview.Attended :=
  iff_of_true absent deaf

theorem watch_after (progress : Progress) : (Labour.after progress).watch ≠ .listening := by
  cases progress <;> simp [Labour.after, Labour.watch]

theorem attended_continueWith (absent : preview.slot.signal.waiter = .absent)
    (step : Progress × Session σ) : (preview.continueWith step).Attended :=
  attended_of_absent absent (watch_after step.1)

def workEffort (slot : Debounce CompileRequest) : Labour → Nat
  | .waiting watch => slot.effort watch + 1
  | .busy _ stage => slot.signal.kept.toNat + 3 + stage.rank
  | .dead _ | .retired => 0

def burden (preview : Preview σ) : Nat :=
  (if preview.slot.hasPending then 12 else 0) + (if preview.life = .closing then 1 else 0)

theorem effort_eq (preview : Preview σ) :
    preview.effort = preview.burden + workEffort preview.slot preview.worker.labour := by
  unfold effort
  cases preview.worker.labour <;> rfl

theorem burden_congr (pending : next.slot.pending = preview.slot.pending)
    (life : next.life = preview.life) : next.burden = preview.burden := by
  have same : next.slot.hasPending = preview.slot.hasPending := by
    simp only [Debounce.hasPending, pending]
  simp only [burden, same, life]

theorem burden_of_taken {request : CompileRequest} (pending : preview.slot.pending = some request)
    (taken : next.slot.pending = none) (life : next.life = preview.life) :
    preview.burden = next.burden + 12 := by
  simp [burden, Debounce.hasPending, pending, taken, life]
  omega

theorem workEffort_after {progress : Progress} (tame : Tame safe bound progress)
    (positive : 0 < bound) (slot : Debounce CompileRequest) :
    workEffort slot (.after progress) ≤ slot.signal.kept.toNat + 2 + bound := by
  cases progress with
  | asleep wake stage =>
      have deep := (tame.sleeps wake stage rfl).1
      simp only [Labour.after, workEffort]
      omega
  | ended =>
      simp only [Labour.after, workEffort, Debounce.effort]
      omega
  | crashed note => exact Nat.zero_le _

theorem effort_takeUp {request : CompileRequest} {slot : Debounce CompileRequest}
    (pending : preview.slot.pending = some request) (empty : slot.pending = none) :
    (preview.takeUp setup request slot).effort < preview.effort := by
  have begins := tame_begin setup request { preview with slot }.workerSession
  have bounded := workEffort_after begins (by omega) slot
  have kept := Bool.toNat_le slot.signal.kept
  have taken : preview.burden = (preview.takeUp setup request slot).burden + 12 :=
    burden_of_taken pending empty rfl
  rw [effort_eq, effort_eq, taken]
  change _ + workEffort slot (.after (begin setup request preview.workerSession).1) < _
  change workEffort slot (.after (begin setup request preview.workerSession).1) ≤ _ at bounded
  omega

/-- Going on keeps the worker's place in the queue, and costs effort. -/
theorem Advance.settles (advance : Advance setup preview next) (attended : preview.Attended) :
    next.Attended ∧ next.effort < preview.effort := by
  cases advance with
  | @moves watch next slot waiting serving turn =>
      unfold Attended at attended
      rw [waiting] at attended
      obtain ⟨stays, less⟩ := Debounce.turn_moved attended turn
      refine ⟨stays, ?_⟩
      have same : ({ preview with slot }.become (.waiting next)).burden = preview.burden :=
        burden_congr (by rw [Debounce.slot_of_moved turn]; rfl) rfl
      rw [effort_eq, effort_eq, same, waiting]
      exact Nat.add_lt_add_left (Nat.add_lt_add_right less 1) _
  | @takes watch request slot waiting serving turn =>
      obtain ⟨pending, rfl, deadline, sleeping, due⟩ := Debounce.turn_ready turn
      have absent := attended.absent (by simp [waiting, sleeping, Labour.watch])
      exact ⟨attended_continueWith absent _, effort_takeUp pending rfl⟩
  | @takesLast watch request waiting ending pending =>
      exact ⟨attended_continueWith (Signal.waiter_leave _) _, effort_takeUp pending rfl⟩
  | @retires watch waiting ending pending =>
      refine ⟨attended_of_absent (Signal.waiter_leave _) (by simp [become, Labour.watch]), ?_⟩
      have same : ({ preview with slot := preview.slot.leave.flush.2 }.become .retired).burden =
          preview.burden := burden_congr pending.symm rfl
      rw [effort_eq, effort_eq, same, waiting]
      simp only [become, workEffort]
      omega
  | @resumes wake stage busy awake =>
      have absent := attended.absent (by simp [busy, Labour.watch])
      refine ⟨attended_continueWith absent _, ?_⟩
      have bounded := workEffort_after (lawful_resume setup stage preview.workerSession).toTame
        (rank_pos stage) preview.slot
      have same : (preview.continueWith (resume setup stage preview.workerSession)).burden =
          preview.burden := burden_congr rfl rfl
      rw [effort_eq, effort_eq, same, busy]
      change _ + workEffort preview.slot
        (.after (resume setup stage preview.workerSession).1) < _
      simp only [workEffort] at bounded ⊢
      omega
  | stops idle closing =>
      refine ⟨attended, ?_⟩
      rw [effort_eq, effort_eq]
      simp [burden, closing, stop, onSession]

theorem advanceUpTo_rests (setup : Setup σ) (attended : preview.Attended)
    (enough : preview.effort ≤ count) :
    (preview.advanceUpTo setup count).advance? setup = none ∧
      (preview.advanceUpTo setup count).Attended := by
  induction count generalizing preview with
  | zero =>
      cases advance : preview.advance? setup with
      | none => exact ⟨advance, attended⟩
      | some next =>
          have less := ((advance?_cases advance).settles attended).2
          omega
  | succ count ih =>
      unfold advanceUpTo
      cases advance : preview.advance? setup with
      | none => exact ⟨advance, attended⟩
      | some next =>
          obtain ⟨stays, less⟩ := (advance?_cases advance).settles attended
          exact ih stays (by omega)

theorem workOn_rests (setup : Setup σ) (attended : preview.Attended) :
    (preview.workOn setup).advance? setup = none ∧ (preview.workOn setup).Attended :=
  advanceUpTo_rests setup attended (Nat.le_refl _)

theorem advanceUpTo_of_rest (rest : preview.advance? setup = none) (count : Nat) :
    preview.advanceUpTo setup count = preview := by
  cases count with
  | zero => rfl
  | succ count => simp only [advanceUpTo, rest]

theorem workOn_of_rest (rest : preview.advance? setup = none) : preview.workOn setup = preview :=
  advanceUpTo_of_rest rest _

theorem advanceUpTo_succ (advance : preview.advance? setup = some next) (count : Nat) :
    preview.advanceUpTo setup (count + 1) = next.advanceUpTo setup count := by
  simp only [advanceUpTo, advance]

theorem advanceUpTo_add (attended : preview.Attended) (enough : preview.effort ≤ count)
    (spare : Nat) :
    preview.advanceUpTo setup (count + spare) = preview.advanceUpTo setup count := by
  induction count generalizing preview with
  | zero =>
      have rest := (advanceUpTo_rests setup attended enough).1
      exact advanceUpTo_of_rest rest (0 + spare)
  | succ count ih =>
      rw [Nat.add_right_comm]
      cases advance : preview.advance? setup with
      | none => rw [advanceUpTo_of_rest advance, advanceUpTo_of_rest advance]
      | some next =>
          obtain ⟨stays, less⟩ := (advance?_cases advance).settles attended
          rw [advanceUpTo_succ advance, advanceUpTo_succ advance]
          exact ih stays (by omega)

theorem workOn_advance (attended : preview.Attended)
    (advance : preview.advance? setup = some next) :
    preview.workOn setup = next.workOn setup := by
  obtain ⟨stays, less⟩ := (advance?_cases advance).settles attended
  obtain ⟨spare, effort⟩ := Nat.exists_eq_add_of_lt less
  rw [workOn, effort, advanceUpTo_succ advance]
  exact advanceUpTo_add stays (Nat.le_refl _) spare

/-- Time has passed, and nothing else has changed that the worker looks at to go on. -/
structure Idled (delay : Nat) (before after : Preview σ) : Prop where
  now : after.session.now = before.session.now + delay
  slot : after.slot = before.slot
  worker : after.worker = before.worker
  life : after.life = before.life
  tasks : after.tasks = before.tasks

theorem idled_refl (preview : Preview σ) : Idled 0 preview preview :=
  ⟨rfl, rfl, rfl, rfl, rfl⟩

theorem Idled.trans {before : Preview σ} {first second : Nat} (earlier : Idled first before preview)
    (later : Idled second preview next) : Idled (first + second) before next where
  now := by rw [later.now, earlier.now, Nat.add_assoc]
  slot := later.slot.trans earlier.slot
  worker := later.worker.trans earlier.worker
  life := later.life.trans earlier.life
  tasks := later.tasks.trans earlier.tasks

theorem Idled.attended (idled : Idled delay preview next) (attended : preview.Attended) :
    next.Attended := by
  unfold Attended
  rw [idled.slot, idled.worker]
  exact attended

theorem Idled.rests (idled : Idled 0 preview next) (rest : preview.advance? setup = none) :
    next.advance? setup = none := by
  unfold advance? attend? at rest ⊢
  have now : next.session.now = preview.session.now := idled.now
  rw [idled.worker, idled.life, idled.slot, now]
  cases labour : preview.worker.labour with
  | waiting watch =>
      cases life : preview.life with
      | serving =>
          simp only [labour, life] at rest ⊢
          cases turn : preview.slot.turn preview.session.now watch with
          | resting => rfl
          | ready | moved => simp [turn] at rest
      | closing | stopped => simp [labour, life] at rest
  | busy wake stage =>
      by_cases awake : wake ≤ preview.session.now
      · simp [labour, awake] at rest
      · simp only [awake, if_false]
  | dead note | retired => cases life : preview.life <;> simp [labour, life] at rest ⊢

theorem idled_poll (setup : Setup σ) (preview : Preview σ) :
    Idled 0 preview (preview.poll setup) :=
  ⟨(Session.polled_poll setup.document preview.session).now, rfl, rfl, rfl, rfl⟩

theorem idled_pollOn (setup : Setup σ) (preview : Preview σ) :
    Idled 0 preview (preview.pollOn setup) :=
  ⟨Session.now_pollOn setup.document preview.session, rfl, rfl, rfl, rfl⟩

theorem idled_listen (preview : Preview σ) : Idled 0 preview preview.listen := by
  unfold listen
  split
  · exact idled_refl preview
  · exact idled_refl preview
  · exact ⟨(Session.adds_log _ _).now, rfl, rfl, rfl, rfl⟩
  · exact ⟨(Session.adds_raise _ _).now, rfl, rfl, rfl, rfl⟩

theorem idled_listenUpTo (count : Nat) (preview : Preview σ) :
    Idled 0 preview (preview.listenUpTo count) := by
  induction count generalizing preview with
  | zero => exact idled_refl preview
  | succ count ih => exact (idled_listen preview).trans (ih preview.listen)

/-- The worker has its turn while a preview settles, and the others have theirs before or after. -/
theorem exists_settle (setup : Setup σ) (preview : Preview σ) :
    ∃ middle, Idled 0 preview middle ∧ Idled 0 (middle.workOn setup) (preview.settle setup) := by
  unfold settle
  split
  · exact ⟨preview, idled_refl preview, idled_pollOn setup _⟩
  · have listened := idled_listenUpTo preview.backlog preview
    simp only
    split
    · exact ⟨_, listened.trans (idled_pollOn setup _), idled_refl _⟩
    · exact ⟨_, listened, idled_pollOn setup _⟩

theorem settle_of_rest (rest : preview.advance? setup = none) :
    Idled 0 preview (preview.settle setup) := by
  obtain ⟨middle, before, after⟩ := exists_settle setup preview
  rw [workOn_of_rest (before.rests rest)] at after
  exact before.trans after

theorem settle_rests (setup : Setup σ) (attended : preview.Attended) :
    (preview.settle setup).advance? setup = none ∧ (preview.settle setup).Attended := by
  obtain ⟨middle, before, after⟩ := exists_settle setup preview
  obtain ⟨rest, stays⟩ := workOn_rests setup (before.attended attended)
  exact ⟨after.rests rest, after.attended stays⟩

end Preview

end LivePreview
