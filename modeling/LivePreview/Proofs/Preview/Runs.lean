import LivePreview.Proofs.Preview.Settling
import LivePreview.Proofs.Session.Said

namespace LivePreview

/-- A move that is not made of others. -/
def Move.IsSingle : Move σ → Prop
  | .workOn | .pollOn | .listenOn | .wait _ => False
  | _ => True

/-- A move in which a worker or a poller that goes on does so until it waits. -/
def Move.IsWhole : Move σ → Prop
  | .work | .poll => False
  | _ => True

namespace Preview

open LivePreview.Cycle

variable {σ : Type u} {setup : Setup σ} {holds : Preview σ → Prop} {preview next : Preview σ}

/-! What holds along every run.  It is enough to look at a single step of each kind. -/

/-- It lasts as long as nothing is put in. -/
structure Lasting (setup : Setup σ) (holds : Preview σ → Prop) : Prop where
  advance : ∀ {preview next}, holds preview → Advance setup preview next → holds next
  poll : ∀ {preview}, holds preview → holds (preview.poll setup)
  listen : ∀ {preview}, holds preview → holds preview.listen
  tick : ∀ {preview}, holds preview → holds preview.tick

/-- It lasts whatever is put in. -/
structure Upheld (setup : Setup σ) (holds : Preview σ → Prop) : Prop
    extends Lasting setup holds where
  input : ∀ {preview input}, holds preview → preview.letReport setup input = preview →
    holds (preview.step setup input)

/-- It lasts as long as nothing is put in, and the worker and the poller go on until they wait. -/
structure Turns (setup : Setup σ) (holds : Preview σ → Prop) : Prop where
  workOn : ∀ {preview}, holds preview → holds (preview.workOn setup)
  pollOn : ∀ {preview}, holds preview → holds (preview.pollOn setup)
  listen : ∀ {preview}, holds preview → holds preview.listen
  tick : ∀ {preview}, holds preview → holds preview.tick

theorem Turns.listenUpTo (turns : Turns setup holds) (start : holds preview) (count : Nat) :
    holds (preview.listenUpTo count) := by
  induction count generalizing preview with
  | zero => exact start
  | succ count ih => exact ih (turns.listen start)

theorem Turns.settle (turns : Turns setup holds) (start : holds preview) :
    holds (preview.settle setup) := by
  have listened : holds preview.listenOn := turns.listenUpTo start _
  unfold Preview.settle
  split
  · exact turns.pollOn (turns.workOn start)
  · simp only
    split
    · exact turns.workOn (turns.pollOn listened)
    · exact turns.pollOn (turns.workOn listened)

theorem Turns.pass (turns : Turns setup holds) (start : holds preview) (count : Nat) :
    holds (preview.pass setup count) := by
  induction count generalizing preview with
  | zero => exact start
  | succ count ih => exact ih (turns.settle (turns.tick start))

theorem Turns.wait (turns : Turns setup holds) (start : holds preview) (count : Nat) :
    holds (preview.wait setup count) :=
  turns.pass (turns.settle start) count

theorem Turns.drain (turns : Turns setup holds) (start : holds preview) (count : Nat) :
    holds (preview.drain setup count) := by
  induction count generalizing preview with
  | zero => exact start
  | succ count ih =>
      unfold Preview.drain
      split
      · exact ih (turns.pass start _)
      · exact start

theorem Turns.play (turns : Turns setup holds)
    (input : ∀ {preview input}, holds preview → holds (preview.move setup (.input input)))
    (start : holds preview) {moves : List (Move σ)} (whole : ∀ move ∈ moves, move.IsWhole) :
    holds (preview.play setup moves) := by
  induction moves generalizing preview with
  | nil => exact start
  | cons move rest ih =>
      refine ih ?_ fun move among => whole move (by simp [among])
      have first := whole move (by simp)
      cases move with
      | input => exact input start
      | listen => exact turns.listen start
      | tick => exact turns.tick start
      | workOn => exact turns.workOn start
      | pollOn => exact turns.pollOn start
      | listenOn => exact turns.listenUpTo start _
      | wait milliseconds => exact turns.wait start milliseconds
      | work | poll => exact first.elim

theorem holds_advanceUpTo
    (advance : ∀ {preview next}, holds preview → Advance setup preview next → holds next)
    (start : holds preview) (count : Nat) : holds (preview.advanceUpTo setup count) := by
  induction count generalizing preview with
  | zero => exact start
  | succ count ih =>
      unfold Preview.advanceUpTo
      cases goesOn : preview.advance? setup with
      | none => exact start
      | some next => exact ih (advance start (advance?_cases goesOn))

/-- The poller reports what it has found, if anything. -/
def reportOn (preview : Preview σ) : Preview σ :=
  { preview with
    session := preview.session.reportFound
    pollsFirst := preview.pollsFirst && !preview.session.unreported.isSome }

theorem reportOn_eq (setup : Setup σ) (preview : Preview σ) :
    preview.reportOn = preview ∨ preview.reportOn = preview.poll setup := by
  unfold reportOn poll Session.poll Session.reportFound Session.pollerStirs
  cases preview.session.unreported with
  | none => exact .inl (by simp)
  | some height => exact .inr (by simp)

/-- The poller goes on in three steps at most. -/
theorem pollOn_eq (setup : Setup σ) (preview : Preview σ) :
    preview.pollOn setup = (preview.reportOn.poll setup).reportOn := by
  have polls : preview.session.reportFound.polls = preview.session.polls :=
    Session.polls_reportFound preview.session
  have reported := Session.unreported_reportFound preview.session
  unfold pollOn reportOn poll Session.pollOn Session.poll Session.pollerStirs
  simp only [reported, polls, Option.isSome_none, Bool.false_or, Bool.not_or]
  cases due : preview.session.polls with
  | true => simp
  | false =>
      rw [← polls] at due
      simp [Session.pollHeight_of_not_polls setup.document due, reported]

theorem Lasting.reportOn (lasting : Lasting setup holds) (start : holds preview) :
    holds preview.reportOn := by
  rcases reportOn_eq setup preview with same | polls
  · rwa [same]
  · rw [polls]
    exact lasting.poll start

theorem Lasting.turns (lasting : Lasting setup holds) : Turns setup holds where
  workOn start := holds_advanceUpTo lasting.advance start _
  pollOn start := by
    rw [pollOn_eq]
    exact lasting.reportOn (lasting.poll (lasting.reportOn start))
  listen := lasting.listen
  tick := lasting.tick

theorem Lasting.work (lasting : Lasting setup holds) (start : holds preview) :
    holds (preview.move setup .work) := by
  simp only [Preview.move]
  cases advance : preview.advance? setup with
  | none => exact start
  | some next => exact lasting.advance start (advance?_cases advance)

/-- Letting a worker report is a step of it, after which it has nothing to report. -/
theorem letReport_cases (setup : Setup σ) (preview : Preview σ) (input : Input σ) :
    preview.letReport setup input = preview ∨
      preview.letReport setup input = preview.move setup .work ∧
        (preview.move setup .work).letReport setup input = preview.move setup .work := by
  unfold letReport
  split
  next wake height busy serving =>
      by_cases awake : wake ≤ preview.session.now
      · refine .inr ⟨rfl, ?_⟩
        rw [Preview.move, advance?_of_awake busy awake]
        rfl
      · refine .inl ?_
        simp [advance?, busy, awake]
  next => exact .inl rfl

theorem letReport_letReport (setup : Setup σ) (preview : Preview σ) (input : Input σ) :
    (preview.letReport setup input).letReport setup input = preview.letReport setup input := by
  rcases letReport_cases setup preview input with same | ⟨works, nothing⟩
  · rw [same, same]
  · rw [works, nothing]

theorem Lasting.letReport (lasting : Lasting setup holds) (start : holds preview)
    (input : Input σ) : holds (preview.letReport setup input) := by
  rcases letReport_cases setup preview input with same | ⟨works, _⟩
  · rwa [same]
  · rw [works]
    exact lasting.work start

theorem Lasting.move (lasting : Lasting setup holds) (start : holds preview) {move : Move σ}
    (aside : ∀ input, move ≠ .input input) : holds (preview.move setup move) := by
  cases move with
  | input input => exact (aside input rfl).elim
  | work => exact lasting.work start
  | poll => exact lasting.poll start
  | listen => exact lasting.listen start
  | tick => exact lasting.tick start
  | workOn => exact lasting.turns.workOn start
  | pollOn => exact lasting.turns.pollOn start
  | listenOn => exact lasting.turns.listenUpTo start _
  | wait milliseconds => exact lasting.turns.wait start milliseconds

theorem Upheld.move (upheld : Upheld setup holds) (start : holds preview) (move : Move σ) :
    holds (preview.move setup move) := by
  cases move with
  | input input => exact upheld.input (upheld.letReport start input) (letReport_letReport ..)
  | work | poll | listen | tick | workOn | pollOn | listenOn | wait =>
      exact upheld.toLasting.move start (by simp)

theorem Upheld.play (upheld : Upheld setup holds) (start : holds preview) (moves : List (Move σ)) :
    holds (preview.play setup moves) := by
  induction moves generalizing preview with
  | nil => exact start
  | cons move rest ih => exact ih (upheld.move start move)

theorem Upheld.shutdown (upheld : Upheld setup holds) (start : holds preview) :
    holds (preview.shutdown setup) :=
  upheld.turns.drain (upheld.turns.settle (upheld.input start rfl)) 8

/-- Single moves of the parts, and of time, lead from one to the other. -/
def Leads (setup : Setup σ) (before after : Preview σ) : Prop :=
  ∃ moves : List (Move σ), (∀ move ∈ moves, move.IsSingle ∧ ∀ input, move ≠ .input input) ∧
    after = before.play setup moves

theorem play_append (preview : Preview σ) (first second : List (Move σ)) :
    preview.play setup (first ++ second) = (preview.play setup first).play setup second :=
  List.foldl_append

theorem Leads.move {before : Preview σ} (leads : Leads setup before preview) (move : Move σ)
    (single : move.IsSingle) (aside : ∀ input, move ≠ .input input) :
    Leads setup before (preview.move setup move) := by
  obtain ⟨moves, singles, rfl⟩ := leads
  refine ⟨moves ++ [move], ?_, ?_⟩
  · intro other among
    rcases List.mem_append.mp among with earlier | last
    · exact singles other earlier
    · cases List.mem_singleton.mp last
      exact ⟨single, aside⟩
  · rw [play_append]
    rfl

theorem lasting_leads (setup : Setup σ) (before : Preview σ) :
    Lasting setup (Leads setup before) where
  advance := by
    intro preview next leads advance
    have worked := leads.move .work trivial (by simp)
    rwa [Preview.move, advance.advance?] at worked
  poll leads := leads.move .poll trivial (by simp)
  listen leads := leads.move .listen trivial (by simp)
  tick leads := leads.move .tick trivial (by simp)

/-- A move that is no input is made of single ones. -/
theorem exists_singles_move (setup : Setup σ) (preview : Preview σ) {move : Move σ}
    (aside : ∀ input, move ≠ .input input) : Leads setup preview (preview.move setup move) :=
  (lasting_leads setup preview).move ⟨[], by simp, rfl⟩ aside

inductive Stirs (preview : Preview σ) : Input σ → Preview σ → Prop
  | keeps (input : Input σ) (session : Session σ) (listener : Option Listener) :
      Stirs preview input { preview with session, listener }
  | schedules (request : CompileRequest) (session : Session σ) :
      Stirs preview (.message (.compile request))
        { preview with
          session
          slot := (preview.slot.schedule preview.session.now request).2 }
  | restarts (session : Session σ) :
      Stirs preview (.message .refresh) { preview with session }.restart
  | closes : Stirs preview .shutdown { preview with life := .closing }

theorem receive_stirs (setup : Setup σ) (preview : Preview σ) (message : Inbound) :
    Stirs preview (.message message) (preview.receive setup message) := by
  cases message with
  | compile request => exact .schedules request _
  | evaluate command => exact .keeps _ _ preview.listener
  | refresh =>
      simp only [receive, refresh]
      split
      · exact .keeps _ _ preview.listener
      · exact .restarts _

theorem step_stirs (setup : Setup σ) (preview : Preview σ) (input : Input σ) :
    Stirs preview input (preview.step setup input) := by
  have nothing : Stirs preview input preview := .keeps input preview.session preview.listener
  cases input with
  | message message =>
      simp only [step]
      split
      · exact receive_stirs setup preview message
      · exact nothing
  | raised event =>
      simp only [step, enqueue]
      split
      · exact .keeps _ preview.session _
      · exact nothing
      · exact nothing
  | eventsClosed => exact .keeps _ preview.session _
  | hostChanged change => exact .keeps _ _ preview.listener
  | shutdown =>
      simp only [step]
      split
      · exact .closes
      · exact nothing

theorem upheld_attended (setup : Setup σ) : Upheld setup Attended where
  advance attended advance := (advance.settles attended).1
  poll attended := (idled_poll setup _).attended attended
  listen attended := (idled_listen _).attended attended
  tick attended := attended
  input := by
    intro preview input attended _
    have stirs := step_stirs setup preview input
    generalize preview.step setup input = next at stirs ⊢
    cases stirs with
    | keeps | closes => exact attended
    | schedules request => exact Debounce.attended_schedule attended _ request
    | restarts => exact Debounce.attended_leave _

theorem attended_start (settings : Settings) (listening : Bool) (level : LogLevel) (tasks : Nat)
    (host : σ) : (start settings listening level tasks host).Attended :=
  Debounce.attended_ofWindow settings.window

def sleepsAhead : Labour → Nat
  | .busy _ stage => stage.rank
  | _ => 0

def sleepsLeft (preview : Preview σ) : Nat :=
  (if preview.slot.hasPending then 4 else 0) + sleepsAhead preview.worker.labour

theorem sleepsLeft_le (preview : Preview σ) : preview.sleepsLeft ≤ 8 := by
  have ahead : sleepsAhead preview.worker.labour ≤ 4 := by
    cases preview.worker.labour with
    | busy wake stage => cases stage <;> simp [sleepsAhead, Stage.rank]
    | waiting watch => simp [sleepsAhead]
    | dead note => simp [sleepsAhead]
    | retired => simp [sleepsAhead]
  unfold sleepsLeft
  split <;> omega

theorem sleepsAhead_after {progress : Progress} (tame : Tame safe bound progress)
    (positive : 0 < bound) : sleepsAhead (.after progress) < bound := by
  cases progress with
  | asleep wake stage => exact (tame.sleeps wake stage rfl).1
  | ended => exact positive
  | crashed note => exact positive

theorem sleepsLeft_resume {wake : Nat} {stage : Stage}
    (busy : preview.worker.labour = .busy wake stage) :
    (preview.continueWith (resume setup stage preview.workerSession)).sleepsLeft <
      preview.sleepsLeft := by
  have lawful := lawful_resume setup stage preview.workerSession
  have less := sleepsAhead_after lawful.toTame (rank_pos stage)
  unfold sleepsLeft
  rw [busy]
  exact Nat.add_lt_add_left less _

theorem sleepsLeft_takeUp {request : CompileRequest} {slot : Debounce CompileRequest}
    (pending : preview.slot.pending = some request) (taken : slot.pending = none) :
    (preview.takeUp setup request slot).sleepsLeft ≤ preview.sleepsLeft := by
  have less := sleepsAhead_after (tame_begin setup request preview.workerSession) (by omega)
  have empty : slot.hasPending = false := by simp [Debounce.hasPending, taken]
  have full : preview.slot.hasPending = true := by simp [Debounce.hasPending, pending]
  change (if slot.hasPending then 4 else 0) +
    sleepsAhead (.after (begin setup request preview.workerSession).1) ≤ _
  simp only [sleepsLeft, empty, full, Bool.false_eq_true, if_false, if_true]
  omega

def Ending (bound : Nat) (preview : Preview σ) : Prop :=
  preview.life ≠ .serving ∧ preview.sleepsLeft ≤ bound

theorem Idled.ending {delay bound : Nat} (idled : Idled delay preview next)
    (ending : Ending bound preview) : Ending bound next := by
  unfold Ending sleepsLeft
  rw [idled.slot, idled.worker, idled.life]
  exact ending

theorem lasting_ending (setup : Setup σ) (bound : Nat) : Lasting setup (Ending bound) where
  poll ending := (idled_poll setup _).ending ending
  listen ending := (idled_listen _).ending ending
  tick ending := ending
  advance := by
    rintro preview next ⟨told, few⟩ advance
    cases advance with
    | moves waiting serving turn => exact (told serving).elim
    | takes waiting serving turn => exact (told serving).elim
    | takesLast waiting ending pending =>
        exact ⟨told, Nat.le_trans (sleepsLeft_takeUp pending rfl) few⟩
    | retires waiting ending pending =>
        refine ⟨told, Nat.le_trans ?_ few⟩
        simp [sleepsLeft, sleepsAhead, become, Debounce.hasPending, Debounce.flush]
    | resumes busy awake =>
        exact ⟨told, Nat.le_trans (Nat.le_of_lt (sleepsLeft_resume busy)) few⟩
    | stops idle closing => exact ⟨by simp [stop], few⟩

theorem rest_cases (rest : preview.advance? setup = none) (told : preview.life ≠ .serving) :
    (∃ wake stage, preview.worker.labour = .busy wake stage ∧ preview.session.now < wake) ∨
      preview.life = .stopped ∧ ∀ wake stage, preview.worker.labour ≠ .busy wake stage := by
  cases labour : preview.worker.labour with
  | busy wake stage =>
      refine .inl ⟨wake, stage, rfl, Nat.lt_of_not_le fun awake => ?_⟩
      simp [advance?, labour, awake] at rest
  | waiting watch => cases life : preview.life <;> simp_all [advance?]
  | dead note => cases life : preview.life <;> simp_all [advance?]
  | retired => cases life : preview.life <;> simp_all [advance?]

theorem settle_wakes {wake : Nat} {stage : Stage} (attended : preview.Attended)
    (told : preview.life ≠ .serving) (busy : preview.worker.labour = .busy wake stage)
    (awake : wake ≤ preview.session.now) (few : preview.sleepsLeft ≤ bound + 1) :
    (preview.settle setup).advance? setup = none ∧ (preview.settle setup).Attended ∧
      Ending bound (preview.settle setup) := by
  obtain ⟨middle, before, after⟩ := exists_settle setup preview
  obtain ⟨told, few⟩ := before.ending ⟨told, few⟩
  have attended := before.attended attended
  have awake : wake ≤ middle.session.now := by rwa [before.now]
  rw [← before.worker] at busy
  have advance : middle.advance? setup =
      some (middle.continueWith (resume setup stage middle.workerSession)) :=
    advance?_of_awake busy awake
  have less : (middle.continueWith (resume setup stage middle.workerSession)).sleepsLeft <
      middle.sleepsLeft := sleepsLeft_resume busy
  rw [workOn_advance attended advance] at after
  obtain ⟨rest, stays⟩ := workOn_rests setup ((advance?_cases advance).settles attended).1
  have ending : Ending bound
      ((middle.continueWith (resume setup stage middle.workerSession)).workOn setup) :=
    (lasting_ending setup bound).turns.workOn ⟨told, by omega⟩
  exact ⟨after.rests rest, after.attended stays, after.ending ending⟩

theorem idled_tick (preview : Preview σ) : Idled 1 preview preview.tick :=
  ⟨rfl, rfl, rfl, rfl, rfl⟩

/-- A preview that can do nothing before a certain time wakes then, as it was. -/
theorem exists_pass_eq_settle {count : Nat}
    (asleep : ∀ {delay later}, delay < count + 1 → Idled delay preview later →
      later.advance? setup = none) :
    ∃ woken, Idled (count + 1) preview woken ∧
      preview.pass setup (count + 1) = woken.settle setup := by
  induction count generalizing preview with
  | zero => exact ⟨_, idled_tick preview, rfl⟩
  | succ count ih =>
      have ticked := idled_tick preview
      have settled : Idled 1 preview (preview.tick.settle setup) :=
        ticked.trans (settle_of_rest (asleep (by omega) ticked))
      obtain ⟨woken, idled, settles⟩ := @ih (preview.tick.settle setup) fun early later =>
        asleep (by omega) (settled.trans later)
      refine ⟨woken, ?_, settles⟩
      rw [Nat.add_comm (count + 1)]
      exact settled.trans idled

theorem pass_wakes {wake count : Nat} {stage : Stage} (attended : preview.Attended)
    (told : preview.life ≠ .serving) (busy : preview.worker.labour = .busy wake stage)
    (wakes : preview.session.now + (count + 1) = wake) (few : preview.sleepsLeft ≤ bound + 1) :
    (preview.pass setup (count + 1)).advance? setup = none ∧
      (preview.pass setup (count + 1)).Attended ∧
      Ending bound (preview.pass setup (count + 1)) := by
  have asleep {delay : Nat} {later : Preview σ} (early : delay < count + 1)
      (idled : Idled delay preview later) : later.advance? setup = none := by
    have now := idled.now
    have late : ¬ wake ≤ later.session.now := by omega
    simp [advance?, idled.worker, busy, late]
  obtain ⟨woken, idled, passed⟩ := exists_pass_eq_settle asleep
  obtain ⟨told, few⟩ := idled.ending ⟨told, few⟩
  rw [← idled.worker] at busy
  rw [passed]
  exact settle_wakes (idled.attended attended) told busy
    (Nat.le_of_eq (idled.now.trans wakes).symm) few

theorem drain_of_idle (idle : ∀ wake stage, preview.worker.labour ≠ .busy wake stage)
    (count : Nat) : preview.drain setup count = preview := by
  cases count with
  | zero => rfl
  | succ count =>
      unfold Preview.drain
      split
      next wake stage busy => exact (idle wake stage busy).elim
      next => rfl

theorem life_drain {count : Nat} (attended : preview.Attended)
    (rest : preview.advance? setup = none) (ending : Ending count preview) :
    (preview.drain setup count).life = .stopped := by
  induction count generalizing preview with
  | zero =>
      rcases rest_cases rest ending.1 with ⟨wake, stage, busy, asleep⟩ | ⟨stopped, idle⟩
      · have few := ending.2
        have positive := rank_pos stage
        simp only [sleepsLeft, busy, sleepsAhead] at few
        omega
      · exact stopped
  | succ count ih =>
      rcases rest_cases rest ending.1 with ⟨wake, stage, busy, asleep⟩ | ⟨stopped, idle⟩
      · obtain ⟨delay, wakes⟩ := Nat.exists_eq_add_of_lt asleep
        have sleep : wake - preview.session.now = delay + 1 := by omega
        obtain ⟨restThen, attendedThen, endingThen⟩ :=
          pass_wakes attended ending.1 busy wakes.symm ending.2
        have slept : preview.drain setup (count + 1) =
            (preview.pass setup (delay + 1)).drain setup count := by
          simp only [Preview.drain, busy, sleep]
        rw [slept]
        exact ih attendedThen restThen endingThen
      · rw [drain_of_idle idle]
        exact stopped

/-- Told to end, a preview ends, however long its cycles sleep. -/
theorem life_shutdown (attended : preview.Attended) : (preview.shutdown setup).life = .stopped := by
  have told : Ending 8 (preview.step setup .shutdown) := by
    refine ⟨?_, sleepsLeft_le _⟩
    simp only [step]
    split
    · simp
    · assumption
  have closed : (preview.step setup .shutdown).Attended :=
    (upheld_attended setup).input attended rfl
  obtain ⟨rest, stays⟩ := settle_rests setup closed
  exact life_drain stays rest ((lasting_ending setup 8).turns.settle told)

end Preview

end LivePreview
