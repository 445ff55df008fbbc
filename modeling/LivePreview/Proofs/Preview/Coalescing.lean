import LivePreview.Proofs.Preview.Paired
import LivePreview.Proofs.Preview.Requests

namespace LivePreview

theorem Moment.nil_of_kept {request other : CompileRequest} {later : List Moment}
    (replays : replay? (some request) later = some (some other))
    (unaccepted : later.filterMap accepted? = []) : later = [] := by
  have gone (rest : List Moment) (unaccepted : rest.filterMap accepted? = []) :
      replay? none rest ≠ some (some other) := by
    induction rest with
    | nil => simp [replay?]
    | cons moment rest ih =>
        cases moment with
        | accepted request => cases unaccepted
        | begun request => simp [replay?]
        | refreshed => exact ih unaccepted
  cases later with
  | nil => rfl
  | cons moment rest =>
      cases moment with
      | accepted request => cases unaccepted
      | refreshed => exact (gone rest unaccepted replays).elim
      | begun request =>
          simp only [replay?] at replays
          split at replays
          · exact (gone rest unaccepted replays).elim
          · cases replays

def Move.input? : Move σ → Option (Input σ)
  | .input given => some given
  | _ => none

/-- The request that a move gives. -/
def Move.request? (move : Move σ) : Option CompileRequest :=
  move.input?.bind Input.request?

/-- A move of the poller alone. -/
def Move.isPoll : Move σ → Bool
  | .poll | .pollOn => true
  | _ => false

/-- A single step of the worker. -/
def Move.isWork : Move σ → Bool
  | .work => true
  | _ => false

namespace Preview

open LivePreview.Cycle LivePreview.Session

variable {σ : Type u} {setup : Setup σ} {parting : Parting} {held : Option CompileRequest}
variable {bound count : Nat} {old fresh late early preview next : Preview σ}
variable {one other : List Stamped}

/-! A request that is replaced or dropped before its cycle starts leaves no trace of itself but its
acceptance. -/

/-- The request has begun, so that nothing is left to be compared. -/
def Begun (parting : Parting) (preview : Preview σ) : Prop :=
  ∃ rest, moments preview.session.trace =
    moments parting.one ++ .begun parting.request :: rest

theorem upheld_begun (setup : Setup σ) (parting : Parting) : Upheld setup (Begun parting) :=
  upheld_of_deed fun {preview next given} begun deed => by
    obtain ⟨rest, told⟩ := begun
    obtain ⟨later, longer, _, _⟩ := moments_deed deed
    exact ⟨rest ++ later, by rw [longer, told, List.append_assoc, List.cons_append]⟩

theorem begun_takeUp (setup : Setup σ) (slot : Debounce CompileRequest)
    (unchanged : moments preview.session.trace = moments parting.one) :
    (preview.takeUp setup parting.request slot).Begun parting := by
  have begins := moments_begin setup parting.request preview.workerSession
  refine ⟨[], begins.trans ?_⟩
  rw [← unchanged]
  rfl

/-- The two have been in step for at most so many requests; as long as the first still holds its
own, nothing else has become of any. -/
structure Compared (parting : Parting) (bound : Nat) (held : Option CompileRequest)
    (old fresh : Preview σ) : Prop where
  paired : Paired parting held old fresh
  timelyOld : old.Timely parting.first bound
  timelyFresh : fresh.Timely parting.second bound
  undecided : ∀ request, held = some request →
    request = parting.request ∧ moments old.session.trace = moments parting.one

theorem Compared.deed (compared : Compared parting bound held old fresh)
    (deed : Deed setup old none late) (paired : Paired parting held late early)
    (timelyOld : late.Timely parting.first count)
    (timelyFresh : early.Timely parting.second count) :
    Compared parting count held late early := by
  refine ⟨paired, timelyOld, timelyFresh, ?_⟩
  rintro request rfl
  obtain ⟨same, unchanged⟩ := compared.undecided request rfl
  refine ⟨same, ?_⟩
  obtain ⟨later, longer, replays, unaccepted⟩ := moments_deed deed
  rw [compared.paired.slot.holds, paired.slot.holds] at replays
  rw [longer, Moment.nil_of_kept replays unaccepted, List.append_nil, unchanged]

theorem Compared.advance (compared : Compared parting bound held old fresh)
    (goesOld : Advance setup old late) (goesFresh : Advance setup fresh early)
    (paired : Paired parting held late early) : Compared parting bound held late early :=
  compared.deed goesOld.deed paired
    ((lasting_timely setup parting.first bound).advance compared.timelyOld goesOld)
    ((lasting_timely setup parting.second bound).advance compared.timelyFresh goesFresh)

theorem Compared.looks (compared : Compared parting bound held old fresh) {watch seen : Watch}
    {signal : Signal} (waiting : old.worker.labour = .waiting watch)
    (goes : Advance setup old
      ({ old with slot := { old.slot with signal } }.become (.waiting seen))) :
    Compared parting bound held
      ({ old with slot := { old.slot with signal } }.become (.waiting seen)) fresh :=
  compared.deed goes.deed (paired_looks compared.paired waiting signal)
    ((lasting_timely setup parting.first bound).advance compared.timelyOld goes)
    compared.timelyFresh

theorem Compared.looks_fresh (compared : Compared parting bound held old fresh)
    {watch seen : Watch} {signal : Signal} (waiting : fresh.worker.labour = .waiting watch)
    (goes : Advance setup fresh
      ({ fresh with slot := { fresh.slot with signal } }.become (.waiting seen))) :
    Compared parting bound held old
      ({ fresh with slot := { fresh.slot with signal } }.become (.waiting seen)) where
  paired := paired_looks_fresh compared.paired waiting signal
  timelyOld := compared.timelyOld
  timelyFresh := (lasting_timely setup parting.second bound).advance compared.timelyFresh goes
  undecided := compared.undecided

/-- In step, or past the point where it matters. -/
def InStep (parting : Parting) (bound : Nat) (old fresh : Preview σ) : Prop :=
  (∃ held, Compared parting bound held old fresh) ∨ old.Begun parting

/-- One of them may look at its slot while the other does nothing, so the induction is on what is
left to both together. -/
theorem compared_workOn (setup : Setup σ) (few : bound < UInt64.size)
    (compared : Compared parting bound held old fresh) :
    InStep parting bound (old.workOn setup) (fresh.workOn setup) := by
  generalize effort : old.effort + fresh.effort = count
  induction count using Nat.strongRecOn generalizing old fresh with
  | _ count ih =>
      have attendedOld := compared.timelyOld.attended
      have attendedFresh := compared.timelyFresh.attended
      rcases still_or_moves setup old with stillOld | ⟨watch, signal, next, waiting, advance⟩
      · rcases still_or_moves setup fresh with stillFresh | ⟨watch, signal, next, waiting, advance⟩
        · cases onward_of_still setup compared.paired few compared.timelyOld
            compared.timelyFresh stillOld stillFresh with
          | takes slot takes =>
              obtain ⟨rfl, unchanged⟩ := compared.undecided _ rfl
              rw [workOn_advance attendedOld takes]
              exact .inr ((upheld_begun setup parting).turns.workOn
                (begun_takeUp setup slot unchanged))
          | both steps =>
              generalize advanceOld : old.advance? setup = late,
                advanceFresh : fresh.advance? setup = early at steps
              cases steps with
              | none =>
                  rw [workOn_of_rest advanceOld, workOn_of_rest advanceFresh]
                  exact .inl ⟨held, compared⟩
              | some paired =>
                  have goesOld := advance?_cases advanceOld
                  have goesFresh := advance?_cases advanceFresh
                  have lessOld := (goesOld.settles attendedOld).2
                  have lessFresh := (goesFresh.settles attendedFresh).2
                  rw [workOn_advance attendedOld advanceOld,
                    workOn_advance attendedFresh advanceFresh]
                  exact ih _ (by omega) (compared.advance goesOld goesFresh paired) rfl
        · have goes := advance?_cases advance
          have less := (goes.settles attendedFresh).2
          rw [workOn_advance attendedFresh advance]
          exact ih _ (by omega) (compared.looks_fresh waiting goes) rfl
      · have goes := advance?_cases advance
        have less := (goes.settles attendedOld).2
        rw [workOn_advance attendedOld advance]
        exact ih _ (by omega) (compared.looks waiting goes) rfl

theorem inStep_workOn (setup : Setup σ) (few : bound < UInt64.size)
    (inStep : InStep parting bound old fresh) :
    InStep parting bound (old.workOn setup) (fresh.workOn setup) := by
  rcases inStep with ⟨held, compared⟩ | begun
  · exact compared_workOn setup few compared
  · exact .inr ((upheld_begun setup parting).turns.workOn begun)

/-- What the second looks at before it does anything else. -/
theorem compared_looks (setup : Setup σ) (compared : Compared parting bound held old fresh) :
    ∃ looks, Compared parting bound held old
        (fresh.play setup (List.replicate looks .work)) ∧
      (fresh.play setup (List.replicate looks .work)).Still := by
  generalize effort : fresh.effort = count
  induction count using Nat.strongRecOn generalizing fresh with
  | _ count ih =>
      have attended := compared.timelyFresh.attended
      rcases still_or_moves setup fresh with still | ⟨watch, signal, next, waiting, advance⟩
      · exact ⟨0, compared, still⟩
      · have goes := advance?_cases advance
        have less := (goes.settles attended).2
        obtain ⟨looks, compared, still⟩ :=
          ih _ (by omega) (compared.looks_fresh waiting goes) rfl
        have looked : fresh.move setup .work =
            { fresh with slot := { fresh.slot with signal } }.become (.waiting next) := by
          rw [Preview.move, advance]
          rfl
        rw [← looked] at compared still
        exact ⟨looks + 1, compared, still⟩

theorem inStep_work (setup : Setup σ) (few : bound < UInt64.size)
    (inStep : InStep parting bound old fresh) :
    ∃ steps, InStep parting bound (old.move setup .work)
      (fresh.play setup (List.replicate steps .work)) := by
  have upheld := upheld_begun setup parting
  rcases inStep with ⟨held, compared⟩ | begun
  · rcases still_or_moves setup old with stillOld | ⟨watch, signal, next, waiting, advance⟩
    · obtain ⟨looks, compared, stillFresh⟩ := compared_looks setup compared
      have more : fresh.play setup (List.replicate (looks + 1) .work) =
          (fresh.play setup (List.replicate looks .work)).move setup .work := by
        rw [List.replicate_succ', play_append]
        rfl
      generalize fresh.play setup (List.replicate looks .work) = looked at compared stillFresh more
      cases onward_of_still setup compared.paired few compared.timelyOld compared.timelyFresh
        stillOld stillFresh with
      | takes slot takes =>
          obtain ⟨rfl, unchanged⟩ := compared.undecided _ rfl
          rw [Preview.move, takes]
          exact ⟨0, .inr (begun_takeUp setup slot unchanged)⟩
      | both steps =>
          refine ⟨looks + 1, .inl ⟨held, ?_⟩⟩
          rw [more, Preview.move, Preview.move]
          generalize advanceOld : old.advance? setup = late,
            advanceFresh : looked.advance? setup = early at steps
          cases steps with
          | none => exact compared
          | some paired =>
              exact compared.advance (advance?_cases advanceOld) (advance?_cases advanceFresh) paired
    · have goes := advance?_cases advance
      rw [Preview.move, advance]
      exact ⟨0, .inl ⟨held, compared.looks waiting goes⟩⟩
  · exact ⟨0, .inr (upheld.work begun)⟩

theorem Compared.idled {delay : Nat} (compared : Compared parting bound held old fresh)
    (deed : Deed setup old none late) (idledOld : Idled delay old late)
    (idledFresh : Idled delay fresh early)
    (sessions : late.session.Abreast parting.one parting.other early.session)
    (listener : late.listener = early.listener) : Compared parting bound held late early := by
  have paired := compared.paired
  refine compared.deed deed ⟨sessions, ?_, ?_, ?_, listener, ?_, ?_⟩
    (idledOld.timely compared.timelyOld) (idledFresh.timely compared.timelyFresh)
  · rw [idledOld.slot, idledFresh.slot]
    exact paired.slot
  · rw [idledOld.worker, idledFresh.worker, paired.task]
  · rw [idledOld.worker, idledFresh.worker, paired.labour]
  · rw [idledOld.life, idledFresh.life, paired.life]
  · rw [idledOld.tasks, idledFresh.tasks, paired.tasks]

theorem inStep_poll (setup : Setup σ) (inStep : InStep parting bound old fresh) :
    InStep parting bound (old.poll setup) (fresh.poll setup) := by
  rcases inStep with ⟨held, compared⟩ | begun
  · have paired := compared.paired
    exact .inl ⟨held, compared.idled (deed_poll setup old) (idled_poll setup old)
      (idled_poll setup fresh) (paired.session.poll setup.document) paired.listener⟩
  · exact .inr ((upheld_begun setup parting).poll begun)

theorem inStep_reportOn (setup : Setup σ) (inStep : InStep parting bound old fresh) :
    InStep parting bound old.reportOn fresh.reportOn := by
  rcases inStep with ⟨held, compared⟩ | begun
  · have same : old.session.unreported = fresh.session.unreported :=
      congrArg (·.unreported) compared.paired.session.present
    cases owes : fresh.session.unreported with
    | none =>
        rw [reportOn_of_none owes, reportOn_of_none (same.trans owes)]
        exact .inl ⟨held, compared⟩
    | some height =>
        rw [reportOn_of_some setup owes, reportOn_of_some setup (same.trans owes)]
        exact inStep_poll setup (.inl ⟨held, compared⟩)
  · exact .inr ((upheld_begun setup parting).reportOn begun)

theorem inStep_pollOn (setup : Setup σ) (inStep : InStep parting bound old fresh) :
    InStep parting bound (old.pollOn setup) (fresh.pollOn setup) := by
  rw [pollOn_eq, pollOn_eq]
  exact inStep_reportOn setup (inStep_poll setup (inStep_reportOn setup inStep))

theorem paired_listen (paired : Paired parting held old fresh) :
    old.listen.session.Abreast parting.one parting.other fresh.listen.session ∧
      old.listen.listener = fresh.listen.listener := by
  have ready := paired.session.handTo .listener .listener
  have same := paired.listener
  unfold listen
  rw [same]
  split
  · exact ⟨paired.session, same⟩
  · exact ⟨paired.session, same⟩
  · exact ⟨ready.logAll [eventsClosedRecord] [eventsClosedRecord], rfl⟩
  · exact ⟨ready.apply (·.raise _) rfl fun past session => raise_withPast past session _, rfl⟩

theorem inStep_listen (setup : Setup σ) (inStep : InStep parting bound old fresh) :
    InStep parting bound old.listen fresh.listen := by
  rcases inStep with ⟨held, compared⟩ | begun
  · obtain ⟨sessions, listener⟩ := paired_listen compared.paired
    exact .inl ⟨held, compared.idled (deed_listen setup old) (idled_listen old)
      (idled_listen fresh) sessions listener⟩
  · exact .inr ((upheld_begun setup parting).listen begun)

theorem inStep_listenUpTo (setup : Setup σ) (inStep : InStep parting bound old fresh)
    (count : Nat) : InStep parting bound (old.listenUpTo count) (fresh.listenUpTo count) := by
  induction count generalizing old fresh with
  | zero => exact inStep
  | succ count ih => exact ih (inStep_listen setup inStep)

theorem inStep_listenOn (setup : Setup σ) (inStep : InStep parting bound old fresh) :
    InStep parting bound old.listenOn fresh.listenOn := by
  rcases inStep with ⟨held, compared⟩ | begun
  · have same : old.backlog = fresh.backlog := by
      unfold backlog
      rw [compared.paired.listener]
    unfold listenOn
    rw [same]
    exact inStep_listenUpTo setup (.inl ⟨held, compared⟩) _
  · exact .inr ((upheld_begun setup parting).turns.listenUpTo begun _)

theorem inStep_tick (setup : Setup σ) (inStep : InStep parting bound old fresh) :
    InStep parting bound old.tick fresh.tick := by
  rcases inStep with ⟨held, compared⟩ | begun
  · have paired := compared.paired
    exact .inl ⟨held, compared.idled (deed_tick setup old) (idled_tick old) (idled_tick fresh)
      paired.session.tick paired.listener⟩
  · exact .inr ((upheld_begun setup parting).tick begun)

theorem part_restart (preview : Preview σ) : preview.restart.session.part = preview.session.part :=
  (adds_restart preview).part

theorem abreast_restart (abreast : old.session.Abreast one other fresh.session)
    (part : old.session.part = fresh.session.part) :
    old.restart.session.Abreast one other fresh.restart.session := by
  have recorded := abreast.logAll
    ((if old.slot.hasPending then [.debug "dropped pending compile on refresh" []] else []) ++
      [old.worker.farewell])
    ((if fresh.slot.hasPending then [.debug "dropped pending compile on refresh" []] else []) ++
      [fresh.worker.farewell])
  have renewed : Abreast one other
      { Session.logAll old.session _ with firstLoad := true, ready := none }
      { Session.logAll fresh.session _ with firstLoad := true, ready := none } :=
    ⟨congrArg (fun session : Session σ => { session with firstLoad := true, ready := none })
      recorded.present, recorded.told⟩
  have refreshed := renewed.logAll [.info "sandbox refreshed" []] [.info "sandbox refreshed" []]
  refine refreshed.apply (·.send .refresh) ?_ fun past session =>
    send_withPast past session .refresh
  exact (part_restart old).trans (part.trans (part_restart fresh).symm)

theorem paired_restart (paired : Paired parting held old fresh)
    (part : old.session.part = fresh.session.part) :
    Paired parting none old.restart fresh.restart :=
  ⟨abreast_restart paired.session part, paired.slot.emptied.congr,
    congrArg (· + 1) paired.tasks, rfl, paired.listener, paired.life,
    congrArg (· + 1) paired.tasks⟩

theorem abreast_reloaded (setup : Setup σ)
    (abreast : old.session.Abreast one other fresh.session) :
    (old.reloaded setup).1 = (fresh.reloaded setup).1 ∧
      (old.reloaded setup).2.Abreast one other (fresh.reloaded setup).2 :=
  (abreast.handTo .caller .caller).step (·.ask .reload setup.document.reload) rfl
    fun past session => ask_withPast past session .reload setup.document.reload

theorem part_reloaded (setup : Setup σ) (old fresh : Preview σ) :
    (old.reloaded setup).2.part = (fresh.reloaded setup).2.part :=
  (adds_reloaded setup old).part.trans (adds_reloaded setup fresh).part.symm

theorem paired_refresh (setup : Setup σ) (paired : Paired parting held old fresh) :
    Paired parting none (old.refresh setup) (fresh.refresh setup) ∨
      Paired parting held (old.refresh setup) (fresh.refresh setup) := by
  obtain ⟨same, sessions⟩ := abreast_reloaded setup paired.session
  have reloaded : Paired parting held { old with session := (old.reloaded setup).2 }
      { fresh with session := (fresh.reloaded setup).2 } := paired_onSession paired sessions
  cases crash : (fresh.reloaded setup).1.crash? with
  | some note =>
      have crashOld : (old.reloaded setup).1.crash? = some note :=
        (congrArg Outcome.crash? same).trans crash
      rw [refresh_of_crash crashOld, refresh_of_crash crash]
      exact .inr reloaded
  | none =>
      have returnsOld : (old.reloaded setup).1.crash? = none :=
        (congrArg Outcome.crash? same).trans crash
      rw [refresh_of_returns returnsOld, refresh_of_returns crash]
      exact .inl (paired_restart reloaded (part_reloaded setup old fresh))

theorem abreast_schedule (request : CompileRequest)
    (abreast : old.session.Abreast one other fresh.session) :
    (old.schedule request).session.Abreast one other (fresh.schedule request).session := by
  have noted := (abreast.handTo .caller .caller).apply (·.note (.accepted request)) rfl
    fun past session => note_withPast past session (.accepted request)
  exact noted.logAll old.slot.scheduleRecords fresh.slot.scheduleRecords

theorem paired_schedule (paired : Paired parting held old fresh) (request : CompileRequest) :
    Paired parting none (old.schedule request) (fresh.schedule request) := by
  have slots := paired.slot.schedule old.session.now request
  have now : old.session.now = fresh.session.now := paired.session.now
  refine ⟨abreast_schedule request paired.session, ?_, paired.task, paired.labour,
    paired.listener, paired.life, paired.tasks⟩
  change Debounce.Matched none (old.slot.schedule old.session.now request).2
    (fresh.slot.schedule fresh.session.now request).2
  rwa [← now]

/-- A session after it has asked the backend to evaluate a command. -/
def commanded (setup : Setup σ) (command : String) (session : Session σ) : Session σ :=
  match consoleEntry? (setup.backend.command command session.host).value with
  | some entry =>
    (session.take (setup.backend.command command session.host)).send (.console [entry])
  | none => session.take (setup.backend.command command session.host)

theorem commanded_withPast (setup : Setup σ) (command : String) (past : List Stamped)
    (session : Session σ) : commanded setup command (session.withPast past) =
      (commanded setup command session).withPast past := by
  simp only [commanded, host_withPast, take_withPast]
  split
  · exact send_withPast past _ _
  · rfl

theorem paired_evaluate (setup : Setup σ) (paired : Paired parting held old fresh)
    (command : String) :
    Paired parting held (old.evaluate setup command) (fresh.evaluate setup command) :=
  paired_onSession paired ((paired.session.handTo .caller .caller).apply
    (commanded setup command) rfl (commanded_withPast setup command))

/-- An input after which the first still holds its request is no request, or is not taken in. -/
theorem paired_input (setup : Setup σ) (paired : Paired parting held old fresh) (input : Input σ) :
    Paired parting none (old.step setup input) (fresh.step setup input) ∨
      Paired parting held (old.step setup input) (fresh.step setup input) ∧
        old.taken? input = none := by
  have listener := paired.listener
  cases input with
  | message message =>
      simp only [step, taken?, paired.life]
      split
      · cases message with
        | compile request => exact .inl (paired_schedule paired request)
        | refresh => exact (paired_refresh setup paired).imp id fun kept => ⟨kept, rfl⟩
        | evaluate command => exact .inr ⟨paired_evaluate setup paired command, rfl⟩
      · exact .inr ⟨paired, rfl⟩
  | raised event =>
      refine .inr ⟨?_, taken?_of_none rfl⟩
      simp only [step, enqueue, listener]
      split
      · exact ⟨paired.session, paired.slot, paired.task, paired.labour, rfl, paired.life,
          paired.tasks⟩
      · exact paired
      · exact paired
  | eventsClosed =>
      exact .inr ⟨⟨paired.session, paired.slot, paired.task, paired.labour,
        congrArg (Option.map _) listener, paired.life, paired.tasks⟩, taken?_of_none rfl⟩
  | hostChanged change =>
      have changed := congrArg
        (fun session : Session σ => { session with host := change session.host })
        paired.session.present
      exact .inr ⟨paired_onSession paired ⟨changed, paired.session.told⟩, taken?_of_none rfl⟩
  | shutdown =>
      refine .inr ⟨?_, taken?_of_none rfl⟩
      simp only [step, paired.life]
      split
      · exact ⟨paired.session, paired.slot, paired.task, paired.labour, listener, rfl,
          paired.tasks⟩
      · exact paired

theorem reporting?_of_paired (paired : Paired parting held old fresh) :
    old.reporting? = fresh.reporting? := by
  have same := paired.labour
  unfold reporting?
  cases doing : fresh.worker.labour with
  | waiting watch =>
      rw [doing] at same
      obtain ⟨other, waiting⟩ := Labour.waiting_of_blind same
      rw [waiting]
  | busy | dead | retired => rw [Labour.eq_of_blind same (by simp [doing]), doing]

theorem inStep_report (setup : Setup σ) (compared : Compared parting bound held old fresh)
    {height : UInt32} (reports : fresh.reporting? = some height) :
    InStep parting bound (old.move setup .work) (fresh.move setup .work) := by
  have paired := compared.paired
  obtain ⟨wake, busy⟩ := reporting?_eq_some.mp reports
  have busyOld := (Labour.eq_of_blind paired.labour (by simp [busy])).trans busy
  simp only [move]
  rw [advance?_busy busyOld, advance?_busy busy, paired.session.now]
  split
  next awake =>
      have goesOld : Advance setup old _ := .resumes busyOld (paired.session.now ▸ awake)
      have goesFresh : Advance setup fresh _ := .resumes busy awake
      exact .inl ⟨held, compared.advance goesOld goesFresh
        (paired_continueWith paired (forgetful_resume setup (.reporting height)))⟩
  next => exact .inl ⟨held, compared⟩

theorem inStep_letReport (setup : Setup σ) (inStep : InStep parting bound old fresh)
    (input : Input σ) :
    InStep parting bound (old.letReport setup input) (fresh.letReport setup input) := by
  rcases inStep with ⟨held, compared⟩ | begun
  · cases input with
    | message message =>
        cases message with
        | compile | evaluate => exact .inl ⟨held, compared⟩
        | refresh =>
            rw [letReport_refresh, letReport_refresh, compared.paired.life,
              reporting?_of_paired compared.paired]
            split
            next reports =>
                obtain ⟨height, reports⟩ := Option.isSome_iff_exists.mp reports.2
                exact inStep_report setup compared reports
            next => exact .inl ⟨held, compared⟩
    | raised | eventsClosed | hostChanged | shutdown => exact .inl ⟨held, compared⟩
  · exact .inr ((upheld_begun setup parting).letReport begun input)

theorem inStep_input (setup : Setup σ) (inStep : InStep parting bound old fresh) (input : Input σ) :
    InStep parting (bound + input.request?.toList.length) (old.move setup (.input input))
      (fresh.move setup (.input input)) := by
  have ready := letReport_letReport setup old input
  have readyFresh := letReport_letReport setup fresh input
  simp only [move]
  rcases inStep_letReport setup inStep input with ⟨held, compared⟩ | begun
  · have timelyOld := compared.timelyOld.input setup input ready
    have timelyFresh := compared.timelyFresh.input setup input readyFresh
    rcases paired_input setup compared.paired input with paired | ⟨paired, nothing⟩
    · exact .inl ⟨none, paired, timelyOld, timelyFresh, by simp⟩
    · have deed := deed_input setup (old.letReport setup input) input
      rw [nothing] at deed
      exact .inl ⟨held, compared.deed deed paired timelyOld timelyFresh⟩
  · exact .inr ((upheld_begun setup parting).input begun ready)

/-- A preview that has no poller, or none any more. -/
structure Unpolled (preview : Preview σ) : Prop where
  prompt : preview.Prompt
  poller : preview.session.poller = none
  unreported : preview.session.unreported = none

theorem poll_of_unpolled (setup : Setup σ) (unpolled : preview.Unpolled) :
    preview.poll setup = preview := by
  unfold poll Session.poll pollHeight pollerStirs polls
  simp [unpolled.poller, unpolled.unreported]

theorem pollOn_of_unpolled (setup : Setup σ) (unpolled : preview.Unpolled) :
    preview.pollOn setup = preview := by
  rw [pollOn_eq, reportOn_of_none unpolled.unreported, poll_of_unpolled setup unpolled,
    reportOn_of_none unpolled.unreported]

theorem Unpolled.later (unpolled : preview.Unpolled) (prompt : next.Prompt)
    (poller : next.session.poller = preview.session.poller ∨
      next.life = .stopped ∧ next.session.poller = none)
    (unreported : next.session.unreported = preview.session.unreported) : next.Unpolled :=
  ⟨prompt, poller.elim (·.trans unpolled.poller) And.right, unreported.trans unpolled.unreported⟩

theorem upheld_unpolled (setup : Setup σ) : Upheld setup Unpolled where
  advance unpolled advance :=
    unpolled.later advance.prompt advance.works.poller advance.works.unreported
  poll := by
    intro preview unpolled
    rwa [poll_of_unpolled setup unpolled]
  listen := by
    intro preview unpolled
    have mute := mute_listen preview
    exact unpolled.later ((upheld_prompt setup).listen unpolled.prompt) mute.poller mute.unreported
  tick := by
    intro preview unpolled
    have mute := mute_tick preview
    exact unpolled.later ((upheld_prompt setup).tick unpolled.prompt) mute.poller mute.unreported
  input := by
    intro preview input unpolled ready
    have mute := mute_input setup input unpolled.prompt ready
    exact unpolled.later ((upheld_prompt setup).input unpolled.prompt ready) mute.poller
      mute.unreported

theorem settle_of_unpolled (setup : Setup σ) (unpolled : preview.Unpolled) :
    preview.settle setup =
      if preview.isOver then preview.workOn setup else preview.listenOn.workOn setup := by
  have turns := (upheld_unpolled setup).turns
  have listened : preview.listenOn.Unpolled := turns.listenUpTo unpolled _
  unfold settle
  simp only [pollOn_of_unpolled setup (turns.workOn unpolled), pollOn_of_unpolled setup listened,
    pollOn_of_unpolled setup (turns.workOn listened), ite_self]

theorem isOver_of_paired (paired : Paired parting held old fresh) : old.isOver = fresh.isOver := by
  have same := paired.labour
  unfold isOver
  rw [paired.life]
  cases doing : fresh.worker.labour with
  | waiting watch =>
      rw [doing] at same
      obtain ⟨other, waiting⟩ := Labour.waiting_of_blind same
      rw [waiting]
  | busy | dead | retired => rw [Labour.eq_of_blind same (by simp [doing]), doing]

theorem inStep_settle (setup : Setup σ) (few : bound < UInt64.size)
    (inStep : InStep parting bound old fresh) (unpolledOld : old.Unpolled)
    (unpolledFresh : fresh.Unpolled) :
    InStep parting bound (old.settle setup) (fresh.settle setup) := by
  rcases inStep with ⟨held, compared⟩ | begun
  · rw [settle_of_unpolled setup unpolledOld, settle_of_unpolled setup unpolledFresh,
      isOver_of_paired compared.paired]
    split
    · exact inStep_workOn setup few (.inl ⟨held, compared⟩)
    · exact inStep_workOn setup few (inStep_listenOn setup (.inl ⟨held, compared⟩))
  · exact .inr ((upheld_begun setup parting).turns.settle begun)

theorem inStep_pass (setup : Setup σ) (few : bound < UInt64.size)
    (inStep : InStep parting bound old fresh) (unpolledOld : old.Unpolled)
    (unpolledFresh : fresh.Unpolled) (milliseconds : Nat) :
    InStep parting bound (old.pass setup milliseconds) (fresh.pass setup milliseconds) := by
  induction milliseconds generalizing old fresh with
  | zero => exact inStep
  | succ milliseconds ih =>
      have upheld := upheld_unpolled setup
      have tickedOld := upheld.tick unpolledOld
      have tickedFresh := upheld.tick unpolledFresh
      exact ih (inStep_settle setup few (inStep_tick setup inStep) tickedOld tickedFresh)
        (upheld.turns.settle tickedOld) (upheld.turns.settle tickedFresh)

theorem inStep_move (setup : Setup σ) (few : bound < UInt64.size)
    (inStep : InStep parting bound old fresh) {move : Move σ} (steady : move ≠ .work)
    (timed : (∀ milliseconds, move ≠ .wait milliseconds) ∨ old.Unpolled ∧ fresh.Unpolled) :
    InStep parting (bound + move.request?.toList.length) (old.move setup move)
      (fresh.move setup move) := by
  cases move with
  | input input => exact inStep_input setup inStep input
  | work => exact (steady rfl).elim
  | poll => exact inStep_poll setup inStep
  | listen => exact inStep_listen setup inStep
  | tick => exact inStep_tick setup inStep
  | workOn => exact inStep_workOn setup few inStep
  | pollOn => exact inStep_pollOn setup inStep
  | listenOn => exact inStep_listenOn setup inStep
  | wait milliseconds =>
      rcases timed with untimed | ⟨unpolledOld, unpolledFresh⟩
      · exact (untimed milliseconds rfl).elim
      · have turns := (upheld_unpolled setup).turns
        exact inStep_pass setup few (inStep_settle setup few inStep unpolledOld unpolledFresh)
          (turns.settle unpolledOld) (turns.settle unpolledFresh) milliseconds

theorem length_requests_cons (move : Move σ) (rest : List (Move σ)) :
    ((move :: rest).filterMap Move.request?).length =
      move.request?.toList.length + (rest.filterMap Move.request?).length := by
  cases request : move.request? <;> simp [request, Nat.add_comm]

theorem inStep_play (setup : Setup σ) {moves : List (Move σ)}
    (few : bound + (moves.filterMap Move.request?).length < UInt64.size)
    (inStep : InStep parting bound old fresh) (steady : ∀ move ∈ moves, move ≠ .work)
    (timed : (∀ move ∈ moves, ∀ milliseconds, move ≠ .wait milliseconds) ∨
      old.Unpolled ∧ fresh.Unpolled) :
    InStep parting (bound + (moves.filterMap Move.request?).length) (old.play setup moves)
      (fresh.play setup moves) := by
  induction moves generalizing bound old fresh with
  | nil => exact inStep
  | cons move rest ih =>
      rw [length_requests_cons, ← Nat.add_assoc] at few ⊢
      have upheld := upheld_unpolled setup
      have moved := inStep_move setup (by omega) inStep (steady move (by simp))
        (timed.imp_left fun untimed => untimed move (by simp))
      exact ih few moved (fun move among => steady move (by simp [among]))
        (timed.imp (fun untimed move among => untimed move (by simp [among]))
          fun unpolled => ⟨upheld.move unpolled.1 move, upheld.move unpolled.2 move⟩)

/-- Single moves of the first are made by the second too, but for the steps of its worker. -/
theorem inStep_singles (setup : Setup σ) {moves : List (Move σ)}
    (few : bound + (moves.filterMap Move.request?).length < UInt64.size)
    (inStep : InStep parting bound old fresh) (singles : ∀ move ∈ moves, move.IsSingle) :
    ∃ others : List (Move σ), others.filter (!·.isWork) = moves.filter (!·.isWork) ∧
      InStep parting (bound + (moves.filterMap Move.request?).length) (old.play setup moves)
        (fresh.play setup others) := by
  induction moves generalizing bound old fresh with
  | nil => exact ⟨[], rfl, inStep⟩
  | cons move rest ih =>
      rw [length_requests_cons, ← Nat.add_assoc] at few ⊢
      have later : ∀ other ∈ rest, other.IsSingle :=
        fun other among => singles other (by simp [among])
      by_cases works : move = .work
      · subst works
        obtain ⟨steps, worked⟩ := inStep_work setup (by omega) inStep
        obtain ⟨others, same, played⟩ := ih few worked later
        refine ⟨List.replicate steps .work ++ others, ?_, ?_⟩
        · rw [List.filter_append, same]
          simp [Move.isWork]
        · rw [play_append]
          exact played
      · have single := singles move (by simp)
        have untimed : ∀ milliseconds, move ≠ .wait milliseconds := by
          rintro milliseconds rfl
          exact single.elim
        obtain ⟨others, same, played⟩ :=
          ih few (inStep_move setup (by omega) inStep works (.inl untimed)) later
        refine ⟨move :: others, ?_, played⟩
        rw [List.filter_cons, List.filter_cons, same]

/-- How the two are when the first has just been given its request. -/
def partingAt (setup : Setup σ) (request : CompileRequest) (before : Preview σ) : Parting where
  request := request
  one := seen (before.step setup (.message (.compile request))).session.trace
  other := seen before.session.trace
  first := (before.step setup (.message (.compile request))).slot.generation
  second := before.slot.generation

theorem step_request (setup : Setup σ) {before : Preview σ} (serving : before.life = .serving)
    (request : CompileRequest) :
    before.step setup (.message (.compile request)) = before.schedule request := by
  simp only [step, serving, if_true, receive]

theorem seen_schedule (before : Preview σ) (request : CompileRequest) :
    seen (before.schedule request).session.trace =
      seen before.session.trace ++ [⟨before.session.now, .caller, .accepted request⟩] :=
  (adds_schedule request before).seen

theorem compared_accepted {before : Preview σ} (setup : Setup σ) (request : CompileRequest)
    (alert : before.Alert) (poised : before.Poised) (serving : before.life = .serving)
    (empty : before.slot.pending = none) :
    Compared (partingAt setup request before) 0 (some request)
      (before.step setup (.message (.compile request))) before := by
  have alertThen : (before.step setup (.message (.compile request))).Alert :=
    (upheld_alert setup).input alert rfl
  have poisedThen : (before.step setup (.message (.compile request))).Poised :=
    (upheld_poised setup).input poised rfl
  have accepted := step_request setup serving request
  have awake := poised.awake serving empty
  refine ⟨?_, timely_of_poised alertThen poisedThen (by rwa [accepted]),
    timely_of_poised alert poised awake, ?_⟩
  · have sessions : Abreast (seen (before.schedule request).session.trace)
        (seen before.session.trace) (before.schedule request).session before.session := by
      refine ⟨?_, [], (List.append_nil _).symm, (List.append_nil _).symm⟩
      simp [schedule, onSession, Debounce.scheduleRecords, Debounce.hasPending, empty, logAll,
        present, note, handTo]
    have slots : Debounce.Matched (some request) (before.schedule request).slot before.slot :=
      ⟨rfl, rfl, fun _ => empty, by simp [Debounce.hasPending, empty]⟩
    unfold partingAt
    rw [accepted]
    exact ⟨sessions, slots, rfl, rfl, rfl, rfl, rfl⟩
  · rintro _ ⟨⟩
    exact ⟨rfl, (moments_seen _).symm⟩

/-- A request that has been replaced or dropped is held by neither. -/
theorem abreast_of_fate (inStep : InStep parting bound old fresh)
    (gone : Moment.fate
        ((moments old.session.trace).drop (moments parting.one).length) = .replaced ∨
      Moment.fate ((moments old.session.trace).drop (moments parting.one).length) = .dropped) :
    old.session.Abreast parting.one parting.other fresh.session := by
  rcases inStep with ⟨held, compared⟩ | ⟨rest, told⟩
  · cases held with
    | none => exact compared.paired.session
    | some other =>
        obtain ⟨_, unchanged⟩ := compared.undecided other rfl
        rw [unchanged, List.drop_length] at gone
        simp [Moment.fate] at gone
  · rw [told, List.drop_left] at gone
    simp [Moment.fate] at gone

def unpolled (preview : Preview σ) : Preview σ :=
  { preview with session := { preview.session with poller := none, unreported := none } }

/-- No time and no numbers apart. -/
def levelWith (preview : Preview σ) : Apart where
  delay := 0
  offset := 0
  past := told preview.session.trace
  first := told preview.session.trace
  levels := True

theorem Labour.later_zero (labour : Labour) {apart : Apart} (delay : apart.delay = 0)
    (offset : apart.offset = 0) : labour.later apart = labour := by
  cases labour with
  | waiting watch => cases watch <;> simp [Labour.later, Watch.later, delay, offset]
  | busy | dead | retired => simp [Labour.later, delay]

theorem twins_unpolled (attended : preview.Attended) :
    Twins preview.levelWith preview preview.unpolled where
  alike :=
    { session := ⟨rfl, rfl, fun _ => rfl, rfl, rfl, [], by simp [levelWith, Apart.later],
        by simp [levelWith, unpolled]⟩
      slot := ⟨rfl, rfl, by simp [levelWith, unpolled], fun _ => rfl, rfl⟩
      labour := (Labour.later_zero _ rfl rfl).symm
      listener := rfl
      life := rfl }
  attendedOld := attended
  attendedFresh := attended

theorem play_of_unpolled (setup : Setup σ) (unpolled : preview.Unpolled) (moves : List (Move σ)) :
    preview.play setup moves = preview.play setup (moves.filter (!·.isPoll)) := by
  induction moves generalizing preview with
  | nil => rfl
  | cons move rest ih =>
      have next := ih ((upheld_unpolled setup).move unpolled move)
      have polls := poll_of_unpolled setup unpolled
      have pollsOn := pollOn_of_unpolled setup unpolled
      cases move with
      | poll =>
          simp only [Preview.move, polls] at next
          exact (congrArg (·.play setup rest) polls).trans next
      | pollOn =>
          simp only [Preview.move, pollsOn] at next
          exact (congrArg (·.play setup rest) pollsOn).trans next
      | input | work | listen | tick | workOn | listenOn | wait => exact next

theorem moments_told (trace : List Stamped) :
    moments trace = (told trace).filterMap (·.2.moment?) := by
  rw [moments, told, List.filterMap_filterMap]
  congr 1
  funext stamped
  obtain ⟨time, part, event⟩ := stamped
  cases event with
  | logged => rfl
  | called | accepted | begun => rfl
  | sent message => cases message <;> rfl

/-- Without its poller a preview tells the same, and comes to the same. -/
theorem told_bare (setup : Setup σ) {before bare : Preview σ}
    (twins : Twins before.levelWith old bare) {moves : List (Move σ)}
    (steady : ∀ move ∈ moves, move ≠ .work) :
    told (old.play setup moves).session.trace = told (bare.play setup moves).session.trace ∧
      (old.play setup moves).session.host = (bare.play setup moves).session.host ∧
      (old.play setup moves).session.level = (bare.play setup moves).session.level := by
  have sessions := (twins_play setup twins steady).alike.session
  obtain ⟨events, toldOld, toldBare⟩ := sessions.told
  refine ⟨?_, sessions.host, sessions.level trivial⟩
  rw [toldOld, toldBare]
  simp [levelWith, Apart.later]

/-- The request that has just been given is replaced or dropped by what follows. -/
def Gone (setup : Setup σ) (accepted : Preview σ) (moves : List (Move σ)) : Prop :=
  let since := (moments (accepted.play setup moves).session.trace).drop
    (moments accepted.session.trace).length
  Moment.fate since = .replaced ∨ Moment.fate since = .dropped

/-- The one was given the request, which the other was not, and that is all they differ in. -/
structure Unmarked (request : CompileRequest) (before kept deleted : Preview σ) : Prop where
  seen : ∃ events,
    seen kept.session.trace = seen before.session.trace ++
      ⟨before.session.now, .caller, .accepted request⟩ :: events ∧
    seen deleted.session.trace = seen before.session.trace ++ events
  present : kept.session.present = deleted.session.present

theorem unmarked_of_gone (setup : Setup σ) {before : Preview σ} {request : CompileRequest}
    (serving : before.life = .serving) {later others : List (Move σ)}
    (inStep : InStep (partingAt setup request before) count
      ((before.step setup (.message (.compile request))).play setup later)
      (before.play setup others))
    (gone : (before.step setup (.message (.compile request))).Gone setup later) :
    Unmarked request before ((before.step setup (.message (.compile request))).play setup later)
      (before.play setup others) := by
  have history : moments (before.step setup (.message (.compile request))).session.trace =
    moments (partingAt setup request before).one := (moments_seen _).symm
  unfold Gone at gone
  rw [history] at gone
  have abreast := abreast_of_fate inStep gone
  obtain ⟨events, seenKept, seenDeleted⟩ := abreast.told
  refine ⟨⟨events, ?_, seenDeleted⟩, abreast.present⟩
  rw [seenKept, partingAt, step_request setup serving request, seen_schedule, List.append_assoc]
  rfl

theorem inStep_accepted (setup : Setup σ) {before : Preview σ} (request : CompileRequest)
    (alert : before.Alert) (poised : before.Poised) (serving : before.life = .serving)
    (empty : before.slot.pending = none) :
    InStep (partingAt setup request before) 0
      (before.step setup (.message (.compile request))) before :=
  .inl ⟨_, compared_accepted setup request alert poised serving empty⟩

/-- Heights apart, the one was given the request, and that is all they differ in. -/
structure Unnoticed (request : CompileRequest) (before kept deleted : Preview σ) : Prop where
  told : ∃ events,
    told kept.session.trace =
      told before.session.trace ++ (before.session.now, .accepted request) :: events ∧
    told deleted.session.trace = told before.session.trace ++ events
  host : kept.session.host = deleted.session.host
  level : kept.session.level = deleted.session.level

theorem unnoticed_of_gone (setup : Setup σ) {before bare : Preview σ} {request : CompileRequest}
    (twins : Twins before.levelWith before bare) (alert : bare.Alert) (poised : bare.Poised)
    (unpolled : bare.Unpolled) (serving : bare.life = .serving) (empty : bare.slot.pending = none)
    {later others : List (Move σ)} (few : (later.filterMap Move.request?).length < UInt64.size)
    (steady : ∀ move ∈ later, move ≠ .work) (steadyToo : ∀ move ∈ others, move ≠ .work)
    (same : later.filter (!·.isPoll) = others.filter (!·.isPoll))
    (gone : (before.step setup (.message (.compile request))).Gone setup later) :
    Unnoticed request before ((before.step setup (.message (.compile request))).play setup later)
      (before.play setup others) := by
  have acceptedToo : (bare.step setup (.message (.compile request))).Unpolled :=
    (upheld_unpolled setup).input unpolled rfl
  have twinsToo : Twins before.levelWith (before.step setup (.message (.compile request)))
      (bare.step setup (.message (.compile request))) :=
    twins_input setup twins (.message (.compile request))
  obtain ⟨toldKept, hostKept, levelKept⟩ := told_bare setup twinsToo steady
  obtain ⟨toldDeleted, hostDeleted, levelDeleted⟩ := told_bare setup twins steadyToo
  have toldAccepted := (told_bare setup twinsToo (List.forall_mem_nil _)).1
  have toldBefore := (told_bare setup twins (List.forall_mem_nil _)).1
  simp only [play, List.foldl_nil] at toldAccepted toldBefore
  rw [play_of_unpolled setup acceptedToo] at toldKept hostKept levelKept
  rw [play_of_unpolled setup unpolled, ← same] at toldDeleted hostDeleted levelDeleted
  have goneToo : (bare.step setup (.message (.compile request))).Gone setup
      (later.filter (!·.isPoll)) := by
    unfold Gone at gone ⊢
    simpa only [moments_told, toldKept, toldAccepted] using gone
  have fewer : ((later.filter (!·.isPoll)).filterMap Move.request?).length < UInt64.size :=
    few.trans_le' (List.filter_sublist.filterMap _).length_le
  have steadyThen : ∀ move ∈ later.filter (!·.isPoll), move ≠ .work :=
    fun move among => steady move (List.mem_of_mem_filter among)
  have started := inStep_accepted setup request alert poised serving empty
  have inStep := inStep_play setup (by omega) started steadyThen (.inr ⟨acceptedToo, unpolled⟩)
  obtain ⟨⟨events, seenKept, seenDeleted⟩, present⟩ := unmarked_of_gone setup serving inStep goneToo
  have now : before.session.now = bare.session.now := twins.alike.session.now
  refine ⟨⟨told events, ?_, ?_⟩, ?_, ?_⟩
  · rw [toldKept, ← told_seen, seenKept, told_append, told_seen, ← toldBefore, now]
    rfl
  · rw [toldDeleted, ← told_seen, seenDeleted, told_append, told_seen, toldBefore]
  · rw [hostKept, hostDeleted]
    exact congrArg (·.host) present
  · rw [levelKept, levelDeleted]
    exact congrArg (·.level) present

theorem input?_eq_some {move : Move σ} {input : Input σ} :
    move.input? = some input ↔ move = .input input := by
  cases move <;> simp [Move.input?]

theorem requests_eq (moves : List (Move σ)) :
    moves.filterMap Move.request? = (moves.filterMap Move.input?).filterMap Input.request? :=
  (List.filterMap_filterMap ..).symm

theorem exists_singles (setup : Setup σ) (preview : Preview σ) (moves : List (Move σ)) :
    ∃ singles : List (Move σ), (∀ move ∈ singles, move.IsSingle) ∧
      singles.filterMap Move.input? = moves.filterMap Move.input? ∧
      preview.play setup singles = preview.play setup moves := by
  induction moves generalizing preview with
  | nil => exact ⟨[], by simp, rfl, rfl⟩
  | cons move rest ih =>
      obtain ⟨others, single, inputs, same⟩ := ih (preview.move setup move)
      cases given : move.input? with
      | some input =>
          obtain rfl := input?_eq_some.mp given
          refine ⟨.input input :: others, ?_, ?_, same⟩
          · exact List.forall_mem_cons.mpr ⟨trivial, single⟩
          · rw [List.filterMap_cons_some given, List.filterMap_cons_some given, inputs]
      | none =>
          have aside : ∀ input, move ≠ .input input := by
            rintro input rfl
            cases given
          obtain ⟨first, alone, moved⟩ := exists_singles_move setup preview aside
          have nothing : first.filterMap Move.input? = [] := by
            rw [List.filterMap_eq_nil_iff]
            intro other among
            rw [Option.eq_none_iff_forall_ne_some]
            exact fun input gives => (alone other among).2 input (input?_eq_some.mp gives)
          refine ⟨first ++ others, ?_, ?_, ?_⟩
          · exact List.forall_mem_append.mpr ⟨fun other among => (alone other among).1, single⟩
          · rw [List.filterMap_append, nothing, List.filterMap_cons_none given, inputs,
              List.nil_append]
          · rw [play_append, ← moved]
            exact same

/-- What comes of a request that is given before the moves `later`, and that need not be given. -/
structure Untraced (setup : Setup σ) (request : CompileRequest) (before : Preview σ)
    (later : List (Move σ)) (kept : Preview σ) : Prop where
  /-- All but heights is the same without it, in whatever order the poller has its turns. -/
  turns : (∀ move ∈ later, move ≠ .work) →
    ∀ others : List (Move σ), (∀ move ∈ others, move ≠ .work) →
      later.filter (!·.isPoll) = others.filter (!·.isPoll) →
        Unnoticed request before kept (before.play setup others)
  /-- Heights are the same too if the order is the same. -/
  heights : (∀ move ∈ later, move ≠ .work) →
    (∀ move ∈ later, ∀ milliseconds, move ≠ .wait milliseconds) →
      Unmarked request before kept (before.play setup later)
  /-- Taken apart into single moves they are the same too, for some steps of the worker. -/
  singles : ∃ singles others : List (Move σ), (∀ move ∈ singles, move.IsSingle) ∧
    singles.filterMap Move.input? = later.filterMap Move.input? ∧
    (before.step setup (.message (.compile request))).play setup singles = kept ∧
    others.filter (!·.isWork) = singles.filter (!·.isWork) ∧
    Unmarked request before kept (before.play setup others)

/-- Whatever came before and whatever follows, a request that is accepted while none is pending,
and then replaced or dropped before its cycle starts, might as well not have been given.  The
generations of the slot must not have come full circle meanwhile. -/
theorem run_coalesced (setup : Setup σ) (settings : Settings) (listening : Bool)
    (level : LogLevel) (tasks : Nat) (host : σ) (moves : List (Move σ))
    (request : CompileRequest) (later : List (Move σ)) :
    let before := (start settings listening level tasks host).play setup moves
    let accepted := before.step setup (.message (.compile request))
    let kept := accepted.play setup later
    let since := (moments kept.session.trace).drop (moments accepted.session.trace).length
    before.life = .serving → before.slot.pending = none →
    (later.filterMap Move.request?).length < UInt64.size →
    (Moment.fate since = .replaced ∨ Moment.fate since = .dropped) →
      Untraced setup request before later kept := by
  intro before accepted kept since serving empty few gone
  have alert : before.Alert :=
    (upheld_alert setup).play (alert_start settings listening level tasks host) moves
  have poised : before.Poised :=
    (upheld_poised setup).play (poised_start settings listening level tasks host) moves
  have prompt : before.Prompt :=
    (upheld_prompt setup).play (prompt_start settings listening level tasks host) moves
  have started := inStep_accepted setup request alert poised serving empty
  constructor
  case turns =>
    intro steady others steadyToo same
    exact unnoticed_of_gone setup (twins_unpolled alert.attended) ⟨alert.attended, alert.heard⟩
      ⟨poised.near, poised.awake⟩ ⟨prompt, rfl, rfl⟩ serving empty few steady steadyToo same gone
  case heights =>
    intro steady untimed
    have inStep := inStep_play setup (by omega) started steady (.inl untimed)
    exact unmarked_of_gone setup serving inStep gone
  case singles =>
    obtain ⟨singles, single, inputs, same⟩ := exists_singles setup accepted later
    have goneToo : accepted.Gone setup singles := by
      unfold Gone
      rwa [same]
    rw [requests_eq, ← inputs, ← requests_eq] at few
    obtain ⟨others, worked, inStep⟩ := inStep_singles setup (by omega) started single
    have unmarked := unmarked_of_gone setup serving inStep goneToo
    change Unmarked request before (accepted.play setup singles) _ at unmarked
    rw [same] at unmarked
    exact ⟨singles, others, single, inputs, same, worked, unmarked⟩

end Preview

namespace Headless

open LivePreview.Preview LivePreview.Session

theorem run_coalesced_bodily :
    let request : CompileRequest :=
      { CompileRequest.ofTemplate none with
        logLevel := some .trace
        hasFileResolver := true
        devTools := some .latest }
    let other : Input Headless := .message (.compile (.ofTemplate none))
    let before := (start ⟨2, 2, .react, .info⟩ true .info 0 fresh).play bodily [.work, .tick]
    let accepted := before.step bodily (.message (.compile request))
    let later : List (Move Headless) :=
      [.wait 1, .input (.hostChanged refilled), .input other, .wait 1, .poll, .tick, .workOn]
    let others : List (Move Headless) :=
      [.wait 1, .input (.hostChanged refilled), .input other, .wait 1, .tick, .workOn, .pollOn]
    let kept := accepted.play bodily later
    let deleted := before.play bodily others
    let since := (moments kept.session.trace).drop (moments accepted.session.trace).length
    before.life = .serving ∧ before.slot.pending = none ∧
      (later.filterMap Move.request?).length < UInt64.size ∧ Moment.fate since = .replaced ∧
      (∀ move ∈ later, move ≠ .work) ∧ (∀ move ∈ others, move ≠ .work) ∧
      later.filter (!·.isPoll) = others.filter (!·.isPoll) ∧
      Untraced bodily request before later kept ∧ Unnoticed request before kept deleted :=
  have result := run_coalesced bodily ⟨2, 2, .react, .info⟩ true .info 0 fresh [.work, .tick]
    { CompileRequest.ofTemplate none with
      logLevel := some .trace
      hasFileResolver := true
      devTools := some .latest }
    [.wait 1, .input (.hostChanged refilled), .input (.message (.compile (.ofTemplate none))),
      .wait 1, .poll, .tick, .workOn]
    rfl rfl (by decide) (.inl rfl)
  ⟨rfl, rfl, by decide, rfl, by simp, by simp, rfl, result,
    result.turns (by simp) [.wait 1, .input (.hostChanged refilled),
      .input (.message (.compile (.ofTemplate none))), .wait 1, .tick, .workOn, .pollOn] (by simp)
      rfl⟩

/-- A worker that has slept in two stretches is overtaken by the poller, which then finds a height
that would otherwise be gone before anybody measured it. -/
theorem not_coalesced_bodily :
    let request : CompileRequest := .ofTemplate none
    let before := (start ⟨3, 2, .react, .off⟩ false .off 0 fresh).play bodily [.wait 0]
    let accepted := before.step bodily (.message (.compile request))
    let later : List (Move Headless) :=
      [.wait 1, .input (.message (.compile request)), .wait 2, .input (.hostChanged refilled),
        .wait 1]
    let kept := accepted.play bodily later
    let deleted := before.play bodily later
    let since := (moments kept.session.trace).drop (moments accepted.session.trace).length
    before.life = .serving ∧ before.slot.pending = none ∧ Moment.fate since = .replaced ∧
      heights kept.session.trace = [5, 21] ∧ heights deleted.session.trace = [21] ∧
      ¬ ∃ events,
        seen kept.session.trace = seen before.session.trace ++
          ⟨before.session.now, .caller, .accepted request⟩ :: events ∧
        seen deleted.session.trace = seen before.session.trace ++ events := by
  intro request before accepted later kept deleted since
  have heightsKept : heights kept.session.trace = [5, 21] := by decide +kernel
  have heightsDeleted : heights deleted.session.trace = [21] := by decide +kernel
  have replaced : Moment.fate since = .replaced := by decide +kernel
  refine ⟨rfl, rfl, replaced, heightsKept, heightsDeleted, ?_⟩
  rintro ⟨events, seenKept, seenDeleted⟩
  have unchanged : heights kept.session.trace = heights deleted.session.trace := by
    rw [← heights_seen, ← heights_seen deleted.session.trace, seenKept, seenDeleted,
      heights_append, heights_append]
    rfl
  rw [heightsKept, heightsDeleted] at unchanged
  simp at unchanged

end Headless

end LivePreview
