import LivePreview.Proofs.Preview.Conduct
import LivePreview.Proofs.Session.Moments

namespace LivePreview

namespace Preview

open LivePreview.Cycle LivePreview.Session

variable {σ : Type u} {setup : Setup σ} {preview next : Preview σ}

/-! A preview does with its requests what its trace tells of them, and it ends only with none. -/

/-- A worker that no call has crashed, and none that sleeps will crash. -/
def Sound : Labour → Prop
  | .busy _ stage => stage.Steady
  | .dead _ => False
  | .waiting _ | .retired => True

structure Booked (preview : Preview σ) : Prop where
  replays : Moment.replay? none (moments preview.session.trace) = some preview.slot.pending
  retired : preview.worker.labour = .retired → preview.life ≠ .serving ∧ preview.slot.pending = none
  ended : preview.life = .stopped →
    preview.worker.labour = .retired ∨ ∃ note, preview.worker.labour = .dead note

structure Accounted (preview : Preview σ) : Prop extends Booked preview where
  sound : Sound preview.worker.labour

theorem Accounted.stopped (accounted : preview.Accounted) (ends : preview.life = .stopped) :
    preview.worker.labour = .retired := by
  rcases accounted.ended ends with finished | ⟨note, dead⟩
  · exact finished
  · have sound := accounted.sound
    rw [dead] at sound
    exact sound.elim

theorem moment?_of_inner {event : Event} (inner : IsInner event) : event.moment? = none := by
  unfold IsInner at inner
  split at inner <;> simp_all [Event.moment?]

theorem moment?_of_aside {event : Event} (aside : event.IsAside) : event.moment? = none := by
  unfold Event.IsAside at aside
  split at aside <;> simp_all [Event.moment?]

theorem moments_step {session : Session σ} {step : Progress × Session σ}
    (lawful : Lawful safe bound session step) : moments step.2.trace = moments session.trace := by
  obtain ⟨inner, adds, within⟩ := lawful.adds
  have plain : (inner ++ step.1.closing).filterMap Event.moment? = [] := by
    rw [List.filterMap_eq_nil_iff]
    intro event member
    rcases List.mem_append.mp member with among | closes
    · exact moment?_of_inner (within event among)
    · cases progress : step.1 <;> simp_all [Progress.closing, Event.moment?]
  rw [moments_of_adds adds, plain, List.append_nil]

theorem moments_begin (setup : Setup σ) (request : CompileRequest) (session : Session σ) :
    moments (begin setup request session).2.trace = moments session.trace ++ [.begun request] := by
  have configures := adds_configured setup request session
  rcases begin_cases setup request session with ⟨note, crashed, _⟩ | announced
  · rw [crashed]
    exact moments_of_adds configures
  · rw [announced, moments_step (lawful_announce setup request _)]
    rw [moments_of_adds (configures.trans (adds_announced setup _))]
    cases (configured setup request session).2.firstLoad <;> rfl

/-- A deed takes in the request it is given, and what comes to be pending is what its moments
tell. -/
theorem moments_deed (deed : Deed setup preview given next) :
    ∃ later, moments next.session.trace = moments preview.session.trace ++ later ∧
      Moment.replay? preview.slot.pending later = some next.slot.pending ∧
      later.filterMap Moment.accepted? = given.toList := by
  cases deed with
  | @aside session _ _ events adds aside =>
      refine ⟨[], ?_, rfl, rfl⟩
      have plain : moments events = [] := by
        rw [moments, List.filterMap_eq_nil_iff]
        exact fun stamped member => moment?_of_aside (aside stamped member).2
      rw [← moments_seen, adds, moments_append, moments_seen, plain]
  | watches waiting pending => exact ⟨[], by simp [become], by rw [← pending]; rfl, rfl⟩
  | accepts request serving pending adds =>
      exact ⟨[.accepted request], moments_of_adds adds, by rw [pending]; rfl, rfl⟩
  | refreshes serving empty adds =>
      exact ⟨[.refreshed], moments_of_adds adds, by rw [empty]; rfl, rfl⟩
  | @begins watch slot request waiting pending empty =>
      refine ⟨[.begun request], moments_begin setup request preview.workerSession, ?_, rfl⟩
      change Moment.replay? preview.slot.pending [.begun request] = some slot.pending
      simp [Moment.replay?, pending, empty]
  | @resumes wake stage busy =>
      have same : moments (resume setup stage preview.workerSession).2.trace =
          moments preview.workerSession.trace :=
        moments_step (lawful_resume setup stage preview.workerSession)
      refine ⟨[], ?_, rfl, rfl⟩
      rw [List.append_nil]
      exact same
  | closes serving => exact ⟨[], by simp, rfl, rfl⟩
  | retires waiting ending pending empty =>
      exact ⟨[], by simp [become], by rw [pending, ← empty]; rfl, rfl⟩
  | stops idle adds => exact ⟨[], moments_of_adds adds, rfl, rfl⟩

theorem sound_after {progress : Progress} (tame : Tame safe bound progress) (safely : safe) :
    Sound (.after progress) := by
  cases progress with
  | asleep wake stage => exact (tame.sleeps wake stage rfl).2 safely
  | ended => trivial
  | crashed note => exact tame.steady safely note rfl

theorem after_ne_retired (progress : Progress) : Labour.after progress ≠ .retired := by
  cases progress <;> simp [Labour.after]

theorem booked_deed (booked : preview.Booked) (deed : Deed setup preview given next) :
    next.Booked := by
  have replays : Moment.replay? none (moments next.session.trace) = some next.slot.pending := by
    obtain ⟨later, longer, replaysLater, _⟩ := moments_deed deed
    rw [longer, Moment.replay?_append, booked.replays]
    exact replaysLater
  obtain ⟨_, retired, ended⟩ := booked
  have active {watch : Watch} (waiting : preview.worker.labour = .waiting watch) :
      preview.life ≠ .stopped := by
    intro ends
    simpa [waiting] using ended ends
  cases deed with
  | aside => exact ⟨replays, retired, ended⟩
  | watches waiting => exact ⟨replays, by rintro ⟨⟩, fun ends => (active waiting ends).elim⟩
  | accepts request serving =>
      exact ⟨replays, fun finished => ((retired finished).1 serving).elim, ended⟩
  | refreshes serving =>
      refine ⟨replays, by rintro ⟨⟩, fun ends => ?_⟩
      rw [serving] at ends
      cases ends
  | begins request waiting =>
      exact ⟨replays, fun finished => (after_ne_retired _ finished).elim,
        fun ends => (active waiting ends).elim⟩
  | @resumes wake stage busy =>
      refine ⟨replays, fun finished => (after_ne_retired _ finished).elim, fun ends => ?_⟩
      simpa [busy] using ended ends
  | closes serving =>
      exact ⟨replays, fun finished => ((retired finished).1 serving).elim, by rintro ⟨⟩⟩
  | retires waiting ending pending empty =>
      exact ⟨replays, fun _ => ⟨ending, empty⟩, fun _ => .inl rfl⟩
  | stops idle =>
      exact ⟨replays, fun finished => ⟨by simp, (retired finished).2⟩, fun _ => idle⟩

theorem upheld_booked (setup : Setup σ) : Upheld setup Booked :=
  upheld_of_deed booked_deed

theorem accounted_deed (steady : setup.Steady) (accounted : preview.Accounted)
    (deed : Deed setup preview given next) : next.Accounted := by
  refine ⟨booked_deed accounted.toBooked deed, ?_⟩
  have sound := accounted.sound
  cases deed with
  | aside | accepts | closes | stops => exact sound
  | watches | refreshes | retires => trivial
  | begins request => exact sound_after (tame_begin setup request preview.workerSession) steady
  | @resumes wake stage busy =>
      rw [busy] at sound
      exact sound_after (lawful_resume setup stage preview.workerSession).toTame
        ⟨steady.document, sound⟩

theorem upheld_accounted (steady : setup.Steady) : Upheld setup Accounted :=
  upheld_of_deed (accounted_deed steady)

theorem moments_start (settings : Settings) (listening : Bool) (level : LogLevel) (tasks : Nat)
    (host : σ) : moments (start settings listening level tasks host).session.trace = [] := by
  rw [← moments_seen, seen_start]
  rfl

theorem accounted_start (settings : Settings) (listening : Bool)
    (level : LogLevel) (tasks : Nat) (host : σ) :
    (start settings listening level tasks host).Accounted := by
  refine ⟨⟨?_, by rintro ⟨⟩, by rintro ⟨⟩⟩, trivial⟩
  rw [moments_start]
  rfl

/-- The requests among the moves before a shutdown. -/
def offered : List (Move σ) → List CompileRequest
  | [] => []
  | .input .shutdown :: _ => []
  | .input input :: rest => input.request?.toList ++ offered rest
  | _ :: rest => offered rest

def taken (preview : Preview σ) : List CompileRequest :=
  (moments preview.session.trace).filterMap Moment.accepted?

theorem taken_deed (deed : Deed setup preview given next) :
    next.taken = preview.taken ++ given.toList := by
  obtain ⟨later, longer, _, accepts⟩ := moments_deed deed
  unfold taken
  rw [longer, List.filterMap_append, accepts]

theorem Advance.serving (advance : Advance setup preview next) :
    next.life = .serving ↔ preview.life = .serving := by
  cases advance with
  | moves | takes | takesLast | retires | resumes => rfl
  | stops idle closing => simp [stop, closing]

theorem lasting_taken (setup : Setup σ) (requests : List CompileRequest) (life : Prop) :
    Lasting setup fun preview => preview.taken = requests ∧ (preview.life = .serving ↔ life) where
  advance := by
    rintro preview next ⟨same, serving⟩ advance
    exact ⟨by rw [taken_deed advance.deed, same]; simp, advance.serving.trans serving⟩
  poll := by
    rintro preview ⟨same, serving⟩
    exact ⟨by rw [taken_deed (deed_poll setup preview), same]; simp, serving⟩
  listen := by
    rintro preview ⟨same, serving⟩
    refine ⟨by rw [taken_deed (deed_listen setup preview), same]; simp, ?_⟩
    rwa [(idled_listen preview).life]
  tick := by
    rintro preview ⟨same, serving⟩
    exact ⟨by rw [taken_deed (deed_tick setup preview), same]; simp, serving⟩

theorem serving_input (setup : Setup σ) (preview : Preview σ) {input : Input σ}
    (goesOn : input ≠ .shutdown) : (preview.step setup input).life = preview.life := by
  have stirs := step_stirs setup preview input
  generalize preview.step setup input = next at stirs ⊢
  cases stirs with
  | keeps | schedules | restarts => rfl
  | closes => exact (goesOn rfl).elim

theorem taken_input (setup : Setup σ) (preview : Preview σ) (input : Input σ) :
    (preview.step setup input).taken =
      preview.taken ++ (if preview.life = .serving then input.request? else none).toList :=
  taken_deed (deed_input setup preview input)

theorem Lasting.deaf {setup : Setup σ} {requests : List CompileRequest}
    (lasting : Lasting setup fun preview =>
      preview.taken = requests ∧ (preview.life = .serving ↔ False)) :
    Lasting setup fun preview => preview.taken = requests ∧ preview.life ≠ .serving := by
  simpa only [iff_false] using lasting

theorem upheld_taken (setup : Setup σ) (requests : List CompileRequest) :
    Upheld setup fun preview => preview.taken = requests ∧ preview.life ≠ .serving where
  toLasting := (lasting_taken setup requests False).deaf
  input := by
    rintro preview input ⟨same, ending⟩ _
    refine ⟨?_, ?_⟩
    · rw [taken_input setup preview, same]
      simp [ending]
    · by_cases stops : input = .shutdown
      · subst stops
        simp [step, ending]
      · rw [serving_input setup preview stops]
        exact ending

theorem taken_told (setup : Setup σ) (preview : Preview σ) :
    (preview.step setup .shutdown).taken = preview.taken ∧
      (preview.step setup .shutdown).life ≠ .serving := by
  refine ⟨?_, ?_⟩
  · rw [taken_input setup preview]
    simp [Input.request?]
  · simp only [step]
    split
    · simp
    · assumption

theorem taken_play (serving : preview.life = .serving) (moves : List (Move σ)) :
    (preview.play setup moves).taken = preview.taken ++ offered moves := by
  induction moves generalizing preview with
  | nil => exact (List.append_nil _).symm
  | cons move rest ih =>
      have lasting := lasting_taken setup preview.taken True
      have now : preview.taken = preview.taken ∧ (preview.life = .serving ↔ True) :=
        ⟨rfl, iff_true_intro serving⟩
      have idle (aside : ∀ input, move ≠ .input input) :
          ((preview.move setup move).play setup rest).taken = preview.taken ++ offered rest := by
        obtain ⟨same, stays⟩ := lasting.move now aside
        rw [ih (stays.mpr trivial), same]
      cases move with
      | work | poll | listen | tick | workOn | pollOn | listenOn | wait => exact idle (by simp)
      | input input =>
          obtain ⟨same, stays⟩ := lasting.letReport now input
          have serves := stays.mpr trivial
          have given (goesOn : input ≠ .shutdown) :
              ((preview.move setup (.input input)).play setup rest).taken =
                preview.taken ++ (input.request?.toList ++ offered rest) := by
            have goes := serving_input setup (preview.letReport setup input) goesOn
            rw [Preview.move, ih (goes.trans serves), taken_input, same, List.append_assoc]
            simp [serves]
          cases input with
          | shutdown =>
              have deaf := taken_told setup preview
              have later := ((upheld_taken setup preview.taken).play deaf rest).1
              exact later.trans (List.append_nil _).symm
          | message message =>
              have later := given (by simp)
              cases message <;> exact later
          | raised | eventsClosed | hostChanged => exact given (by simp)

theorem taken_wait (setup : Setup σ) (preview : Preview σ) (milliseconds : Nat) :
    (preview.wait setup milliseconds).taken = preview.taken :=
  ((lasting_taken setup preview.taken (preview.life = .serving)).turns.wait ⟨rfl, Iff.rfl⟩
    milliseconds).1

theorem taken_shutdown (setup : Setup σ) (preview : Preview σ) :
    (preview.shutdown setup).taken = preview.taken :=
  have upheld := upheld_taken setup preview.taken
  (upheld.turns.drain (upheld.turns.settle (taken_told setup preview)) 8).1

theorem taken_played (setup : Setup σ) (settings : Settings) (listening : Bool) (level : LogLevel)
    (tasks : Nat) (host : σ) (moves : List (Move σ)) :
    ((start settings listening level tasks host).play setup moves).taken = offered moves := by
  have none : (start settings listening level tasks host).taken = [] := by
    unfold taken
    rw [moments_start]
    rfl
  rw [taken_play rfl, none, List.nil_append]

/-- What has become of requests, in the order they were offered, once the preview has ended. -/
structure Settled (requests : List CompileRequest) (trace : List Stamped) : Prop where
  /-- Each has a fate. -/
  fated : (Moment.fates (moments trace)).map Prod.fst = requests
  decided : ∀ entry ∈ Moment.fates (moments trace), entry.2 ≠ .pending
  /-- The cycles that began are those of the requests whose fate it was. -/
  begun : (moments trace).filterMap Moment.begun? = Moment.started (Moment.fates (moments trace))
  ordered : ((moments trace).filterMap Moment.begun?).Sublist requests
  /-- The one accepted last has gone through its whole cycle, unless a refresh came. -/
  last : ∀ {before after : List Stamped} {stamped : Stamped} {request : CompileRequest},
    seen trace = before ++ stamped :: after → stamped.event = .accepted request →
    (∀ other ∈ after, ¬ other.IsRefresh ∧ ∀ later, other.event ≠ .accepted later) →
      ∃ (task : Nat) (waiting cycle rest : List Stamped) (first idle : Stamped),
        after = waiting ++ first :: (cycle ++ idle :: rest) ∧
          first.event = .begun request ∧ first.part = .worker task ∧
          (∃ start ∈ cycle, start.IsStart ∧ start.part = .worker task) ∧
          idle.IsIdle ∧ idle.part = .worker task

theorem cycle_of_begun {trace before after : List Stamped} {first : Stamped} {task : Nat}
    {request : CompileRequest} (orderly : Orderly task .resting trace)
    (split : trace = before ++ first :: after) (begins : first.event = .begun request)
    (goesOn : ∀ other ∈ after, ¬ other.IsRefresh) :
    ∃ (number : Nat) (cycle rest : List Stamped) (idle : Stamped),
      after = cycle ++ idle :: rest ∧ first.part = .worker number ∧
      (∃ start ∈ cycle, start.IsStart ∧ start.part = .worker number) ∧
      idle.IsIdle ∧ idle.part = .worker number := by
  subst split
  obtain ⟨_, _, number, _, _, follows, _⟩ := orderly.last_of_append
  have part := (follows.begun_cases begins).2.2
  have ends : ∃ idle ∈ after, idle.IsIdle ∧ idle.part = .worker number := by
    by_contra none
    refine (orderly.busy_of_begun begins fun other member => ⟨?_, goesOn other member⟩).2 rfl
    rintro ⟨idles, same⟩
    exact none ⟨other, member, idles, same.trans part⟩
  obtain ⟨idle, member, idles, same⟩ := ends
  obtain ⟨cycle, rest, rfl⟩ := List.append_of_mem member
  have whole : before ++ first :: (cycle ++ idle :: rest) =
      (before ++ first :: cycle) ++ idle :: rest := by
    simp
  rw [whole] at orderly
  obtain ⟨task, standing, _, _, earlier, ending, _⟩ := orderly.last_of_append
  have goesOn : ¬ idle.IsStart := by
    rintro ⟨firstLoad, starts⟩
    cases idles.symm.trans starts
  obtain ⟨rfl, rfl⟩ := ending.within_cases idles same goesOn
  exact ⟨number, cycle, rest, idle, rfl, part, earlier.start_of_begun begins, idles, same⟩

theorem alone_of_last {after : List Stamped}
    (alone : ∀ other ∈ after, ¬ other.IsRefresh ∧ ∀ later, other.event ≠ .accepted later) :
    ∀ moment ∈ moments after, moment.accepted? = none ∧ moment ≠ .refreshed := by
  intro moment member
  obtain ⟨other, among, is⟩ := List.mem_filterMap.mp member
  obtain ⟨goesOn, unaccepted⟩ := alone other among
  have event := event_of_moment is
  cases moment with
  | accepted later => exact (unaccepted later event).elim
  | begun request => exact ⟨rfl, by simp⟩
  | refreshed => exact (goesOn event).elim

theorem replays_of_accepted {pending left : Option CompileRequest} {before after : List Stamped}
    {stamped : Stamped} {request : CompileRequest} (accepts : stamped.event = .accepted request)
    (replays : Moment.replay? pending (moments (before ++ stamped :: after)) = some left) :
    Moment.replay? (some request) (moments after) = some left := by
  rw [moments_append, Moment.replay?_append, Option.bind_eq_some_iff] at replays
  obtain ⟨between, _, later⟩ := replays
  simpa [moments, accepts, Event.moment?, Moment.replay?] using later

theorem settled_of_resting
    (orderly : Orderly preview.worker.task .resting (seen preview.session.trace))
    (replays : Moment.replay? none (moments preview.session.trace) = some none) :
    Settled preview.taken preview.session.trace := by
  have begun := Moment.begun_eq_started replays
  have fated : (Moment.fates (moments preview.session.trace)).map Prod.fst = preview.taken :=
    Moment.fst_fates _
  refine ⟨fated, (Moment.decided replays).2, begun, ?_, ?_⟩
  · rw [begun]
    exact fated ▸ Moment.started_sublist (Moment.fates (moments preview.session.trace))
  · intro before after stamped request split accepts alone
    rw [← moments_seen, split] at replays
    obtain ⟨rest, history⟩ :=
      Moment.begun_of_last (replays_of_accepted accepts replays) (alone_of_last alone)
    obtain ⟨waiting, first, remaining, rfl, _, is, _⟩ := List.filterMap_eq_cons_iff.mp history
    have begins : first.event = .begun request := event_of_moment is
    have whole : seen preview.session.trace =
        (before ++ stamped :: waiting) ++ first :: remaining := by
      simpa using split
    obtain ⟨task, cycle, rest, idle, rfl, part, starts, idles, same⟩ :=
      cycle_of_begun orderly whole begins fun other member => (alone other (by simp [member])).1
    exact ⟨task, waiting, cycle, rest, first, idle, rfl, begins, part, starts, idles, same⟩

theorem settled_of_stopped (kept : preview.Kept) (accounted : preview.Accounted)
    (stopped : preview.life = .stopped) : Settled preview.taken preview.session.trace := by
  have finished := accounted.stopped stopped
  have replays := accounted.replays
  rw [(accounted.retired finished).2] at replays
  obtain ⟨standing, stands, orderly⟩ := kept.orderly
  rw [finished] at stands
  subst stands
  exact settled_of_resting orderly replays

/-- No request is lost, doubled or reordered: whatever happens before a preview is shut down, and in
whatever order, it ends with nothing pending and every request settled.  No call may crash for this:
not the loading of the developer tools, and not measuring the height, configuring the files or
resetting the modules either.  When a request that nothing follows begins is not said here, but
where slots are run with their consumers, and where workers are given their time. -/
theorem settled_shutdown (steady : setup.Steady) (settings : Settings) (listening : Bool)
    (level : LogLevel) (tasks : Nat) (host : σ) (moves : List (Move σ)) :
    let played := (start settings listening level tasks host).play setup moves
    let ended := played.shutdown setup
    ended.life = .stopped ∧ ended.slot.pending = none ∧
      Settled (offered moves) ended.session.trace := by
  intro played ended
  have attended : played.Attended :=
    (upheld_attended setup).play (attended_start settings listening level tasks host) moves
  have kept : ended.Kept := (upheld_kept setup).shutdown
    ((upheld_kept setup).play (kept_start settings listening level tasks host) moves)
  have accounted : ended.Accounted := (upheld_accounted steady).shutdown
    ((upheld_accounted steady).play
      (accounted_start settings listening level tasks host) moves)
  have stopped : ended.life = .stopped := life_shutdown attended
  have taken : ended.taken = offered moves :=
    (taken_shutdown setup played).trans
      (taken_played setup settings listening level tasks host moves)
  refine ⟨stopped, (accounted.retired (accounted.stopped stopped)).2, ?_⟩
  rw [← taken]
  exact settled_of_stopped kept accounted stopped

theorem settled_shutdown_headless :
    let first := CompileRequest.ofTemplate none
    let second := CompileRequest.ofTemplate (some "react")
    let played := (start .default true .info 0 Headless.fresh).play Headless.setup
      [.input (.message (.compile first)), .work, .tick, .input (.message .refresh),
        .input (.message (.compile second)), .work]
    let ended := played.shutdown Headless.setup
    Headless.setup.Steady ∧ ended.life = .stopped ∧ ended.slot.pending = none ∧
      Settled [first, second] ended.session.trace :=
  ⟨Headless.steady, settled_shutdown Headless.steady .default true .info 0 Headless.fresh _⟩

end Preview

end LivePreview
