import LivePreview.Proofs.Session.Polls
import LivePreview.Proofs.Preview.Reporting

namespace LivePreview

namespace Preview

open LivePreview.Cycle LivePreview.Session

variable {σ : Type u} {setup : Setup σ} {preview next begun : Preview σ}
variable {found told : Option UInt32}

/-! The height is measured by polls, and by workers whose programs have run.  Whoever finds a new
one sets it down in one step and reports it in the next; other parts may go on in between. -/

/-- The heights that have been set down and are still to be reported. -/
def owed (preview : Preview σ) : List UInt32 :=
  preview.session.unreported.toList ++ preview.reporting?.toList

/-- The host once the worker has taken a step in which a program runs, and runs well. -/
def ran? (setup : Setup σ) (preview : Preview σ) : Option σ :=
  match preview.worker.labour with
  | .busy wake stage =>
    if wake ≤ preview.session.now then stage.ran? setup preview.session.host else none
  | _ => none

/-- The height that a single move finds. -/
def found? (setup : Setup σ) (preview : Preview σ) : Move σ → Option UInt32
  | .poll => preview.session.polled? setup.document
  | .work => (preview.ran? setup).bind setup.document.measured?
  | _ => none

/-- The height that a single move reports. -/
def told? (preview : Preview σ) : Move σ → Option UInt32
  | .poll => preview.session.unreported
  | .work => preview.reporting?
  | .input (.message .refresh) => if preview.life = .serving then preview.reporting? else none
  | _ => none

def foundAlong (setup : Setup σ) (preview : Preview σ) : List (Move σ) → List UInt32
  | [] => []
  | move :: rest =>
    (preview.found? setup move).toList ++ foundAlong setup (preview.move setup move) rest

theorem ran?_of_not_busy (idle : ∀ wake stage, preview.worker.labour ≠ .busy wake stage) :
    preview.ran? setup = none := by
  unfold ran?
  split
  next wake stage busy => exact (idle wake stage busy).elim
  next => rfl

theorem found?_of_told {move : Move σ} (tells : (preview.told? move).isSome = true) :
    preview.found? setup move = none := by
  obtain ⟨height, tells⟩ := Option.isSome_iff_exists.mp tells
  cases move with
  | poll =>
      have owes : preview.session.unreported = some height := tells
      simp [found?, polled?, owes]
  | work =>
      obtain ⟨wake, busy⟩ := reporting?_eq_some.mp tells
      simp only [found?, ran?, busy]
      split <;> rfl
  | input | listen | tick | workOn | pollOn | listenOn | wait => rfl

/-- Neither the poller nor the worker does anything about heights. -/
structure Mute (preview next : Preview σ) : Prop where
  seen : ∃ events, seen next.session.trace = seen preview.session.trace ++ events ∧
    ∀ stamped ∈ events, stamped.event.height? = none ∧ ∀ task, stamped.part ≠ .worker task
  shown : next.session.shown = preview.session.shown
  unreported : next.session.unreported = preview.session.unreported
  reporting : next.reporting? = preview.reporting?
  task : next.reporting?.isSome = true → next.worker.task = preview.worker.task
  poller : next.session.poller = preview.session.poller ∨
    next.life = .stopped ∧ next.session.poller = none

/-- A step of the worker by what it finds and what it tells. -/
inductive Works (preview : Preview σ) : Option UInt32 → Option UInt32 → Preview σ → Prop
  | mute {next : Preview σ} (mute : Mute preview next) : Works preview none none next
  | measures {next : Preview σ} {found : Option UInt32} {progress : Progress}
      (silent : preview.reporting? = none)
      (measures : Measures preview.workerSession (progress, next.session) found)
      (reporting : next.reporting? = progress.reporting?)
      (task : next.worker.task = preview.worker.task) : Works preview found none next
  | reports {next : Preview σ} {height : UInt32} (reporting : preview.reporting? = some height)
      (reports : Reports preview.workerSession next.session height)
      (silent : next.reporting? = none) : Works preview none (some height) next

theorem mute_of_silent {part : Part} (beside : ∀ task, part ≠ .worker task)
    (silent : Silent (preview.session.handTo part) next.session)
    (worker : next.worker = preview.worker) : Mute preview next where
  seen := by
    obtain ⟨events, adds, nothing⟩ := silent.adds
    refine ⟨_, adds.seen, fun stamped among => ?_⟩
    obtain ⟨event, member, rfl⟩ := List.mem_map.mp among
    exact ⟨nothing event member, beside⟩
  shown := silent.shown
  unreported := silent.unreported
  reporting := by simp only [reporting?, worker]
  task _ := congrArg Worker.task worker
  poller := .inl silent.poller

theorem mute_refl (preview : Preview σ) : Mute preview preview :=
  ⟨⟨[], by simp⟩, rfl, rfl, rfl, fun _ => rfl, .inl rfl⟩

theorem works_mute (mute : Mute preview next) (finds : found = none) (tells : told = none) :
    Works preview found told next := by
  rw [finds, tells]
  exact .mute mute

theorem mute_stop (preview : Preview σ) : Mute preview preview.stop := by
  have told := silent_logAll (preview.session.handTo .caller) preview.worker.obituary
  have logged := silent_log
    ((preview.session.handTo .caller).logAll preview.worker.obituary).stopPolling
    (.info "sandbox stopped" [])
  have poller : preview.stop.session.poller = none := logged.poller
  refine ⟨⟨[], ?_, by simp⟩, logged.shown.trans told.shown, logged.unreported.trans told.unreported,
    rfl, fun _ => rfl, .inr ⟨rfl, poller⟩⟩
  exact (adds_stop preview).seen

theorem Advance.works (advance : Advance setup preview next) :
    Works preview (preview.found? setup .work) (preview.told? .work) next := by
  have idle (still : ∀ wake stage, preview.worker.labour ≠ .busy wake stage) :
      preview.found? setup .work = none ∧ preview.reporting? = none := by
    simp [found?, ran?_of_not_busy still, reporting?_of_not_busy still]
  cases advance with
  | moves waiting | retires waiting =>
      obtain ⟨finds, silent⟩ := idle (by simp [waiting])
      exact works_mute ⟨⟨[], by simp [become]⟩, rfl, rfl, silent.symm, fun _ => rfl, .inl rfl⟩ finds
        silent
  | takes waiting | takesLast waiting =>
      obtain ⟨finds, silent⟩ := idle (by simp [waiting])
      have begun := measures_begin setup ‹CompileRequest› preview.workerSession
      rw [finds, told?, silent]
      exact .measures silent begun (reporting?_continueWith _ _) rfl
  | @resumes wake stage busy awake =>
      have ran : preview.ran? setup = stage.ran? setup preview.session.host := by
        simp only [ran?, busy, if_pos awake]
      simp only [found?, told?, ran]
      cases reporting : preview.reporting? with
      | some height =>
          obtain ⟨_, same⟩ := reporting?_eq_some.mp reporting
          rw [busy] at same
          cases same
          exact .reports reporting (reports_resume setup _ height) rfl
      | none =>
          have silent : ∀ height, stage ≠ .reporting height := by
            rintro height rfl
            rw [reporting?_eq_some.mpr ⟨wake, busy⟩] at reporting
            cases reporting
          exact .measures reporting (measures_resume setup preview.workerSession silent)
            (reporting?_continueWith _ _) rfl
  | stops idleness =>
      obtain ⟨finds, silent⟩ :=
        idle (by rcases idleness with retired | ⟨note, dead⟩ <;> simp [*])
      exact works_mute (mute_stop preview) finds silent

theorem mute_tick (preview : Preview σ) : Mute preview preview.tick :=
  ⟨⟨[], (List.append_nil _).symm, by simp⟩, rfl, rfl, rfl, fun _ => rfl, .inl rfl⟩

theorem mute_listen (preview : Preview σ) : Mute preview preview.listen := by
  have beside : ∀ task, Part.listener ≠ .worker task := by simp
  unfold listen
  split
  · exact mute_refl preview
  · exact mute_refl preview
  · exact mute_of_silent beside (silent_log _ _) rfl
  · exact mute_of_silent beside (silent_raise _ _) rfl

theorem beside_caller (task : Nat) : Part.caller ≠ .worker task := by
  simp

theorem mute_refresh (silent : preview.reporting? = none) :
    Mute preview (preview.refresh setup) := by
  have reloads : Silent (preview.session.handTo .caller) (preview.reloaded setup).2 :=
    silent_ask _ _ _
  cases crash : (preview.reloaded setup).1.crash? with
  | some note =>
      rw [refresh_of_crash crash]
      exact mute_of_silent beside_caller reloads rfl
  | none =>
      have renewed (session : Session σ) :
          Silent session { session with firstLoad := true, ready := none } :=
        (silent_firstLoad session true).trans (silent_ready _ none)
      have restarts (preview : Preview σ) : Silent preview.session preview.restart.session :=
        (silent_logAll _ _).trans ((renewed _).trans
          ((silent_log _ (.info "sandbox refreshed" [])).trans (silent_send _ .refresh rfl)))
      rw [refresh_of_returns crash]
      generalize restarted : Preview.restart _ = next
      have restarts :=
        reloads.trans (restarts { preview with session := (preview.reloaded setup).2 })
      rw [restarted] at restarts
      have moves : Mute preview { preview with session := next.session } :=
        mute_of_silent beside_caller restarts rfl
      have waits : next.reporting? = none := by
        rw [← restarted]
        rfl
      refine ⟨moves.seen, moves.shown, moves.unreported, waits.trans silent.symm, ?_,
        .inl restarts.poller⟩
      rw [waits]
      exact nofun

theorem mute_evaluate (setup : Setup σ) (command : String) (preview : Preview σ) :
    Mute preview (preview.evaluate setup command) := by
  have answered := silent_take (preview.session.handTo .caller)
    (setup.backend.command command preview.session.host)
  simp only [evaluate, onSession]
  split
  · exact mute_of_silent beside_caller (answered.trans (silent_send _ _ rfl)) rfl
  · exact mute_of_silent beside_caller answered rfl

theorem told?_of_ready {input : Input σ} (prompt : preview.Prompt)
    (ready : preview.letReport setup input = preview) : preview.told? (.input input) = none := by
  cases input with
  | message message =>
      cases message with
      | compile | evaluate => rfl
      | refresh =>
          simp only [told?]
          split
          next serving => exact reporting?_of_ready prompt serving ready
          next => rfl
  | raised | eventsClosed | hostChanged | shutdown => rfl

theorem mute_input (setup : Setup σ) (input : Input σ) (prompt : preview.Prompt)
    (ready : preview.letReport setup input = preview) :
    Mute preview (preview.step setup input) := by
  cases input with
  | message message =>
      simp only [step]
      split
      next serving =>
          cases message with
          | compile request =>
              exact mute_of_silent beside_caller ((silent_note _ rfl rfl).trans
                (silent_logAll _ preview.slot.scheduleRecords)) rfl
          | refresh => exact mute_refresh (reporting?_of_ready prompt serving ready)
          | evaluate command => exact mute_evaluate setup command preview
      next => exact mute_refl preview
  | raised event =>
      simp only [step, enqueue]
      split
      · exact ⟨⟨[], by simp⟩, rfl, rfl, rfl, fun _ => rfl, .inl rfl⟩
      · exact mute_refl preview
      · exact mute_refl preview
  | eventsClosed | hostChanged =>
      exact ⟨⟨[], by simp [step, closeEvents, onSession]⟩, rfl, rfl, rfl, fun _ => rfl, .inl rfl⟩
  | shutdown =>
      simp only [step]
      split
      · exact ⟨⟨[], by simp⟩, rfl, rfl, rfl, fun _ => rfl, .inl rfl⟩
      · exact mute_refl preview

/-- Between two previews a height has been found, if any, and one reported, if any. -/
structure Checks (preview next : Preview σ) (found told : Option UInt32) : Prop where
  heights : heights next.session.trace = heights preview.session.trace ++ told.toList
  shown : next.session.shown = found.or preview.session.shown
  owed : (told.toList ++ next.owed).Perm
    (preview.owed ++ (newly preview.session.shown found).toList)

theorem Checks.trans {middle : Preview σ} (checks : Checks preview middle found told)
    (mute : Checks middle next none none) : Checks preview next found told where
  heights := by rw [mute.heights, checks.heights, Option.toList_none, List.append_nil]
  shown := by rw [mute.shown, checks.shown, Option.none_or]
  owed := by
    have same : next.owed.Perm middle.owed := by simpa using mute.owed
    exact (same.append_left _).trans checks.owed

theorem Mute.checks (mute : Mute preview next) : Checks preview next none none where
  heights := by
    obtain ⟨events, seen, silent⟩ := mute.seen
    have none : LivePreview.heights events = [] :=
      List.filterMap_eq_nil_iff.mpr fun stamped among => (silent stamped among).1
    rw [← heights_seen, seen, heights_append, none, heights_seen]
    rfl
  shown := mute.shown
  owed := by simp [owed, mute.reporting, mute.unreported]

theorem checks_poll (setup : Setup σ) (preview : Preview σ) :
    Checks preview (preview.poll setup) (preview.session.polled? setup.document)
      preview.session.unreported where
  heights := heights_poll setup.document preview.session
  shown := shown_poll setup.document preview.session
  owed := by
    have owes : (preview.poll setup).owed =
        (newly preview.session.shown (preview.session.polled? setup.document)).toList ++
          preview.reporting?.toList := by
      rw [← unreported_poll]
      rfl
    rw [owes, owed, List.append_assoc]
    exact List.perm_append_comm.append_left _

theorem Works.checks (works : Works preview found told next) : Checks preview next found told := by
  cases works with
  | mute mute => exact mute.checks
  | measures silent measures reporting =>
      obtain ⟨events, adds, nothing, _⟩ := measures.adds
      have none : LivePreview.heights (events.map preview.workerSession.stamp) = [] := by
        rw [LivePreview.heights, List.filterMap_map, List.filterMap_eq_nil_iff]
        exact nothing
      refine ⟨?_, measures.shown, ?_⟩
      · rw [← heights_seen, adds.seen, heights_append, none, heights_seen]
        rfl
      · have unreported : next.session.unreported = preview.session.unreported :=
          measures.unreported
        have found := reporting.trans measures.reporting
        simp only [owed, silent, found, unreported]
        simp [workerSession, handTo]
  | @reports _ height reporting reports silent =>
      refine ⟨?_, reports.shown, ?_⟩
      · rw [← heights_seen, reports.adds.seen, heights_append, heights_seen]
        rfl
      · have unreported : next.session.unreported = preview.session.unreported :=
          reports.unreported
        simpa [owed, reporting, silent, unreported] using (List.perm_append_singleton height _).symm

theorem ran?_of_rest (rest : preview.advance? setup = none) : preview.ran? setup = none := by
  unfold ran?
  split
  next wake stage busy =>
      refine if_neg fun awake => ?_
      rw [advance?_of_awake busy awake] at rest
      cases rest
  next => rfl

theorem checks_work (setup : Setup σ) (prompt : preview.Prompt) :
    Checks preview (preview.move setup .work) (preview.found? setup .work)
      (preview.told? .work) := by
  simp only [Preview.move]
  cases advance : preview.advance? setup with
  | some next => exact (advance?_cases advance).works.checks
  | none =>
      rw [found?, ran?_of_rest advance, told?, reporting?_of_rest advance prompt]
      exact (mute_refl preview).checks

theorem checks_input (setup : Setup σ) (prompt : preview.Prompt) (input : Input σ) :
    Checks preview (preview.move setup (.input input)) none (preview.told? (.input input)) := by
  have lets := (upheld_prompt setup).letReport prompt input
  have mute := (mute_input setup input lets (letReport_letReport ..)).checks
  by_cases ready : preview.letReport setup input = preview
  · rw [ready] at mute
    rw [told?_of_ready prompt ready, Preview.move, ready]
    exact mute
  · obtain ⟨rfl, serving, reports, works⟩ := letReport_of_ne ready
    have told : preview.told? (.input (.message .refresh)) = preview.told? .work := by
      simp only [told?, serving, if_true]
    have finds : preview.found? setup .work = none := found?_of_told reports
    have checks := checks_work setup prompt
    rw [finds, ← works] at checks
    rw [told]
    exact checks.trans mute

theorem checks_move (setup : Setup σ) (prompt : preview.Prompt) {move : Move σ}
    (single : move.IsSingle) :
    Checks preview (preview.move setup move) (preview.found? setup move) (preview.told? move) := by
  cases move with
  | input input => exact checks_input setup prompt input
  | work => exact checks_work setup prompt
  | poll => exact checks_poll setup preview
  | listen => exact (mute_listen preview).checks
  | tick => exact (mute_tick preview).checks
  | workOn | pollOn | listenOn | wait => exact single.elim

/-- Heights are reported by the poller and by workers, and by these where they should. -/
structure Placing (preview : Preview σ) : Prop where
  placed : ∀ task, Placed (doneBy (.worker task) preview.session.trace)
  evaluated : preview.reporting?.isSome = true → ∃ program earlier,
    doneBy (.worker preview.worker.task) preview.session.trace =
      earlier ++ [.called (.evaluate program)]
  others : ∀ stamped ∈ seen preview.session.trace, stamped.event.height?.isSome = true →
    stamped.part = .poller ∨ ∃ task, stamped.part = .worker task

theorem doneBy_of_beside {trace more events : List Stamped} {part : Part}
    (split : seen more = seen trace ++ events) (beside : ∀ stamped ∈ events, stamped.part ≠ part) :
    doneBy part more = doneBy part trace := by
  rw [doneBy, split, List.filterMap_append]
  have none : events.filterMap (fun stamped =>
      if stamped.part = part then some stamped.event else none) = [] := by
    rw [List.filterMap_eq_nil_iff]
    exact fun stamped among => if_neg (beside stamped among)
  rw [none, List.append_nil, doneBy]

theorem Placing.beside (placing : preview.Placing) {events : List Stamped}
    (split : seen next.session.trace = seen preview.session.trace ++ events)
    (beside : ∀ stamped ∈ events, ∀ task, stamped.part ≠ .worker task)
    (others : ∀ stamped ∈ events, stamped.event.height?.isSome = true → stamped.part = .poller)
    (reporting : next.reporting? = preview.reporting?)
    (task : next.reporting?.isSome = true → next.worker.task = preview.worker.task) :
    next.Placing where
  placed task := by
    rw [doneBy_of_beside split fun stamped among => beside stamped among task]
    exact placing.placed task
  evaluated reports := by
    rw [doneBy_of_beside split fun stamped among => beside stamped among _, task reports]
    exact placing.evaluated (reporting ▸ reports)
  others stamped among isHeight := by
    rw [split] at among
    rcases List.mem_append.mp among with before | new
    · exact placing.others stamped before isHeight
    · exact .inl (others stamped new isHeight)

theorem Placing.works (placing : preview.Placing) {events : List Event}
    (adds : preview.workerSession.Adds next.session events)
    (placed : Placed (doneBy (.worker preview.worker.task) preview.session.trace ++ events))
    (evaluated : next.reporting?.isSome = true → next.worker.task = preview.worker.task ∧
      ∃ program earlier, events = earlier ++ [.called (.evaluate program)]) : next.Placing := by
  have own : doneBy (.worker preview.worker.task) next.session.trace =
      doneBy (.worker preview.worker.task) preview.session.trace ++ events := adds.brings.done
  constructor
  · intro task
    by_cases same : task = preview.worker.task
    · rw [same, own]
      exact placed
    · have beside : ∀ stamped ∈ events.map preview.workerSession.stamp,
          stamped.part ≠ .worker task := by
        intro stamped among
        obtain ⟨event, _, rfl⟩ := List.mem_map.mp among
        exact fun part => same (Part.worker.inj part).symm
      rw [doneBy_of_beside adds.seen beside]
      exact placing.placed task
  · intro reports
    obtain ⟨task, program, earlier, rfl⟩ := evaluated reports
    rw [task, own]
    exact ⟨program, _, (List.append_assoc ..).symm⟩
  · intro stamped among isHeight
    rw [adds.seen] at among
    rcases List.mem_append.mp among with before | new
    · exact placing.others stamped before isHeight
    · obtain ⟨event, _, rfl⟩ := List.mem_map.mp new
      exact .inr ⟨_, rfl⟩

theorem Mute.placing (mute : Mute preview next) (placing : preview.Placing) : next.Placing := by
  obtain ⟨events, seen, silent⟩ := mute.seen
  refine placing.beside seen (fun stamped among => (silent stamped among).2) ?_ mute.reporting
    mute.task
  intro stamped among isHeight
  rw [(silent stamped among).1] at isHeight
  cases isHeight

theorem Placing.poll (placing : preview.Placing) (setup : Setup σ) :
    (preview.poll setup).Placing := by
  refine placing.beside (polled_poll setup.document preview.session).seen ?_ ?_ rfl fun _ => rfl
  · intro stamped among task
    obtain ⟨height, _, rfl⟩ := List.mem_map.mp among
    exact nofun
  · intro stamped among _
    obtain ⟨height, _, rfl⟩ := List.mem_map.mp among
    rfl

theorem Works.placing (works : Works preview found told next) (placing : preview.Placing) :
    next.Placing := by
  cases works with
  | mute mute => exact mute.placing placing
  | measures silent measures reporting task =>
      obtain ⟨events, adds, nothing, ends⟩ := measures.adds
      refine placing.works adds ((placing.placed _).append nothing) fun reports => ⟨task, ends ?_⟩
      rwa [← reporting]
  | reports reporting reports silent =>
      obtain ⟨program, earlier, evaluated⟩ := placing.evaluated (by simp [reporting])
      refine placing.works reports.adds ?_ (by simp [silent])
      exact (placing.placed _).reports evaluated _ (by simp [Event.height?])

theorem upheld_placing (setup : Setup σ) :
    Upheld setup fun preview => preview.Prompt ∧ preview.Placing where
  advance kept advance := ⟨advance.prompt, advance.works.placing kept.2⟩
  poll kept := ⟨(upheld_prompt setup).poll kept.1, kept.2.poll setup⟩
  listen kept := ⟨(upheld_prompt setup).listen kept.1,
    (mute_listen _).placing kept.2⟩
  tick kept := ⟨(upheld_prompt setup).tick kept.1,
    (mute_tick _).placing kept.2⟩
  input kept ready := ⟨(upheld_prompt setup).input kept.1 ready,
    (mute_input setup _ kept.1 ready).placing kept.2⟩

theorem placing_start (settings : Settings) (listening : Bool) (level : LogLevel) (tasks : Nat)
    (host : σ) : (start settings listening level tasks host).Placing := by
  have announced := seen_start settings listening level tasks host
  refine ⟨fun task => ?_, nofun, ?_⟩
  · simp only [doneBy, announced]
    exact placed_nil
  · intro stamped among isHeight
    rw [announced, List.mem_singleton] at among
    rw [among] at isHeight
    cases isHeight

/-- Until the preview ends there are polls, at multiples of the interval, unless one crashes. -/
structure Ticking (setup : Setup σ) (interval : Option Nat) (preview : Preview σ) : Prop where
  ticks : preview.session.Ticks interval
  polling : (∀ host, (setup.document.height host).Steady) → interval.isSome = true →
    preview.life ≠ .stopped → preview.session.poller.isSome = true

theorem life_deed {given : Option CompileRequest} (deed : Deed setup preview given next)
    (goesOn : next.life ≠ .stopped) : preview.life ≠ .stopped := by
  cases deed with
  | accepts request serving | refreshes serving | closes serving => simp [serving]
  | stops => exact (goesOn rfl).elim
  | aside | watches | begins | resumes | retires => exact goesOn

theorem Ticking.later {interval : Option Nat} {given : Option CompileRequest}
    (ticking : Ticking setup interval preview) (deed : Deed setup preview given next)
    (now : preview.session.now ≤ next.session.now)
    (poller : next.session.poller = preview.session.poller ∨
      next.life = .stopped ∧ next.session.poller = none) : Ticking setup interval next := by
  rcases poller with same | ⟨stopped, none⟩
  · refine ⟨ticking.ticks.congr same now, fun steady polled goesOn => ?_⟩
    rw [same]
    exact ticking.polling steady polled (life_deed deed goesOn)
  · refine ⟨?_, fun _ _ goesOn => (goesOn stopped).elim⟩
    intro poller given
    rw [none] at given
    cases given

theorem Works.poller (works : Works preview found told next) :
    next.session.poller = preview.session.poller ∨
      next.life = .stopped ∧ next.session.poller = none := by
  cases works with
  | mute mute => exact mute.poller
  | measures _ measures => exact .inl measures.poller
  | reports _ reports => exact .inl reports.poller

theorem upheld_ticking (setup : Setup σ) (interval : Option Nat) :
    Upheld setup fun preview => preview.Prompt ∧ Ticking setup interval preview where
  advance kept advance := ⟨advance.prompt,
    kept.2.later advance.deed (Nat.le_of_eq advance.now.symm) advance.works.poller⟩
  poll := by
    intro preview kept
    refine ⟨(upheld_prompt setup).poll kept.1, kept.2.ticks.poll setup.document, ?_⟩
    intro steady polled goesOn
    exact (isSome_poller_poll steady preview.session).trans (kept.2.polling steady polled goesOn)
  listen kept := ⟨(upheld_prompt setup).listen kept.1,
    kept.2.later (deed_listen setup _) (Nat.le_of_eq (idled_listen _).now.symm)
      (mute_listen _).poller⟩
  tick kept := ⟨(upheld_prompt setup).tick kept.1,
    kept.2.later (deed_tick setup _) (Nat.le_succ _) (mute_tick _).poller⟩
  input kept ready := ⟨(upheld_prompt setup).input kept.1 ready,
    kept.2.later (deed_input setup _ _) (Nat.le_of_eq (now_input setup _ _).symm)
      (mute_input setup _ kept.1 ready).poller⟩

theorem ticks_start (settings : Settings) (listening : Bool) (level : LogLevel) (tasks : Nat)
    (host : σ) :
    (start settings listening level tasks host).session.poller =
      settings.pollInterval.map fun every => ⟨every, 0⟩ := by
  rw [session_start]
  exact (silent_log _ _).poller

theorem ticking_start (setup : Setup σ) (settings : Settings) (listening : Bool) (level : LogLevel)
    (tasks : Nat) (host : σ) :
    Ticking setup settings.pollInterval (start settings listening level tasks host) where
  ticks := by
    intro poller given
    rw [ticks_start] at given
    obtain ⟨every, interval, rfl⟩ := Option.map_eq_some_iff.mp given
    exact ⟨interval, Nat.dvd_zero _, Nat.zero_le _⟩
  polling := by
    intro _ polled _
    rw [ticks_start, Option.isSome_map]
    exact polled

/-- The heights found so far are those reported or still owed, but for those that changed
nothing. -/
structure Tells (found : List UInt32) (preview : Preview σ) : Prop where
  heights : (heights preview.session.trace ++ preview.owed).Perm (found.destutter (· ≠ ·))
  shown : preview.session.shown = found.getLast?

theorem Tells.later {values : List UInt32} (tells : preview.Tells values)
    (checks : Checks preview next found told) : next.Tells (values ++ found.toList) where
  heights := by
    rw [checks.heights, List.append_assoc, destutter_append_newly, ← tells.shown]
    refine (checks.owed.append_left _).trans ?_
    rw [← List.append_assoc]
    exact tells.heights.append_right _
  shown := by
    rw [checks.shown, tells.shown]
    cases found <;> simp

theorem foundAlong_append (preview : Preview σ) (first second : List (Move σ)) :
    preview.foundAlong setup (first ++ second) =
      preview.foundAlong setup first ++ (preview.play setup first).foundAlong setup second := by
  induction first generalizing preview with
  | nil => rfl
  | cons move rest ih =>
      simp only [List.cons_append, foundAlong, ih, List.append_assoc]
      rfl

theorem tells_play {found : List UInt32} (tells : preview.Tells found) (prompt : preview.Prompt)
    {moves : List (Move σ)} (singles : ∀ move ∈ moves, move.IsSingle) :
    (preview.play setup moves).Tells (found ++ preview.foundAlong setup moves) := by
  induction moves generalizing preview found with
  | nil => simpa [foundAlong, play] using tells
  | cons move rest ih =>
      have moved := tells.later (checks_move setup prompt (singles move (by simp)))
      have played := ih moved ((upheld_prompt setup).move prompt move)
        fun move among => singles move (by simp [among])
      rwa [List.append_assoc] at played

/-- No check is interrupted by another: while a height that has been set down is still to be
reported, none is found. -/
def Uninterrupted (setup : Setup σ) (preview : Preview σ) : List (Move σ) → Prop
  | [] => True
  | move :: rest =>
    (preview.owed = [] ∨ preview.found? setup move = none) ∧
      Uninterrupted setup (preview.move setup move) rest

/-- The heights that changed have been reported in the order in which they were found, and at most
the last is still owed. -/
structure InOrder (found : List UInt32) (preview : Preview σ) : Prop where
  heights : heights preview.session.trace ++ preview.owed = found.destutter (· ≠ ·)
  shown : preview.session.shown = found.getLast?
  few : preview.owed.length ≤ 1

theorem eq_of_perm_of_short {first second : List UInt32} (perm : first.Perm second)
    (short : second.length ≤ 1) : first = second := by
  cases second with
  | nil => exact perm.eq_nil
  | cons height rest =>
      obtain rfl : rest = [] := List.length_eq_zero_iff.mp (by simpa using short)
      exact List.perm_singleton.mp perm

/-- With at most one height in play, order does not matter. -/
theorem Checks.exact (checks : Checks preview next found told) (few : preview.owed.length ≤ 1)
    (uninterrupted : preview.owed = [] ∨ found = none) :
    told.toList ++ next.owed = preview.owed ++ (newly preview.session.shown found).toList ∧
      next.owed.length ≤ 1 := by
  have short : (preview.owed ++ (newly preview.session.shown found).toList).length ≤ 1 := by
    rcases uninterrupted with nothing | nothing
    · rw [nothing]
      exact Option.length_toList_le
    · simpa [nothing] using few
  have same := eq_of_perm_of_short checks.owed short
  refine ⟨same, ?_⟩
  rw [← same, List.length_append] at short
  omega

theorem InOrder.later {values : List UInt32} (inOrder : preview.InOrder values)
    (checks : Checks preview next found told)
    (uninterrupted : preview.owed = [] ∨ found = none) :
    next.InOrder (values ++ found.toList) := by
  obtain ⟨owed, few⟩ := checks.exact inOrder.few uninterrupted
  refine ⟨?_, ?_, few⟩
  · rw [checks.heights, List.append_assoc, owed, ← List.append_assoc, inOrder.heights,
      destutter_append_newly, ← inOrder.shown]
  · rw [checks.shown, inOrder.shown]
    cases found <;> simp

theorem inOrder_play {found : List UInt32} (inOrder : preview.InOrder found)
    (prompt : preview.Prompt) {moves : List (Move σ)} (singles : ∀ move ∈ moves, move.IsSingle)
    (uninterrupted : Uninterrupted setup preview moves) :
    (preview.play setup moves).InOrder (found ++ preview.foundAlong setup moves) := by
  induction moves generalizing preview found with
  | nil => simpa [foundAlong, play] using inOrder
  | cons move rest ih =>
      obtain ⟨first, later⟩ := uninterrupted
      have moved := inOrder.later (checks_move setup prompt (singles move (by simp))) first
      have played := ih moved ((upheld_prompt setup).move prompt move)
        (fun move among => singles move (by simp [among])) later
      rwa [List.append_assoc] at played

/-- Single moves that interrupt no check lead from one to the other. -/
def Unwinds (setup : Setup σ) (begun reached : Preview σ) : Prop :=
  ∃ moves : List (Move σ), (∀ move ∈ moves, move.IsSingle) ∧ Uninterrupted setup begun moves ∧
    reached = begun.play setup moves

theorem uninterrupted_append {first second : List (Move σ)} :
    Uninterrupted setup preview (first ++ second) ↔
      Uninterrupted setup preview first ∧
        Uninterrupted setup (preview.play setup first) second := by
  induction first generalizing preview with
  | nil => simp [Uninterrupted, play]
  | cons move rest ih =>
      simp only [List.cons_append, Uninterrupted, ih, and_assoc]
      rfl

theorem Unwinds.move (unwinds : Unwinds setup begun preview) {move : Move σ}
    (single : move.IsSingle) (free : preview.owed = [] ∨ preview.found? setup move = none) :
    Unwinds setup begun (preview.move setup move) := by
  obtain ⟨moves, singles, uninterrupted, rfl⟩ := unwinds
  refine ⟨moves ++ [move], ?_, uninterrupted_append.mpr ⟨uninterrupted, free, trivial⟩, ?_⟩
  · simpa [or_imp, forall_and] using ⟨singles, single⟩
  · simp [Preview.play]

theorem owed_eq_nil :
    preview.owed = [] ↔ preview.session.unreported = none ∧ preview.reporting? = none := by
  simp [owed]

/-- Within a whole move of the worker nobody else owes a report. -/
structure Working (setup : Setup σ) (begun reached : Preview σ) : Prop where
  unwinds : Unwinds setup begun reached
  reported : reached.session.unreported = none
  prompt : reached.Prompt

/-- Between whole moves nobody owes one. -/
structure Cleared (setup : Setup σ) (begun reached : Preview σ) : Prop
    extends Working setup begun reached where
  silent : reached.reporting? = none
  attended : reached.Attended

theorem Cleared.owed (cleared : Cleared setup begun preview) : preview.owed = [] :=
  owed_eq_nil.mpr ⟨cleared.reported, cleared.silent⟩

theorem Works.unreported (works : Works preview found told next) :
    next.session.unreported = preview.session.unreported := by
  cases works with
  | mute mute => exact mute.unreported
  | measures _ measures => exact measures.unreported
  | reports _ reports => exact reports.unreported

theorem Working.advance (working : Working setup begun preview)
    (advance : Advance setup preview next) : Working setup begun next := by
  have free : preview.owed = [] ∨ preview.found? setup .work = none := by
    cases reporting : preview.reporting? with
    | none => exact .inl (owed_eq_nil.mpr ⟨working.reported, reporting⟩)
    | some height => exact .inr (found?_of_told (by simp [told?, reporting]))
  have worked : Unwinds setup begun (preview.move setup .work) :=
    working.unwinds.move trivial free
  rw [Preview.move, advance.advance?] at worked
  exact ⟨worked, advance.works.unreported.trans working.reported, advance.prompt⟩

theorem Cleared.workOn (cleared : Cleared setup begun preview) :
    Cleared setup begun (preview.workOn setup) := by
  have working : Working setup begun (preview.workOn setup) :=
    holds_advanceUpTo Working.advance cleared.toWorking preview.effort
  obtain ⟨rest, attended⟩ := workOn_rests setup cleared.attended
  exact ⟨working, reporting?_of_rest rest working.prompt, attended⟩

theorem reportOn_of_none (nothing : preview.session.unreported = none) :
    preview.reportOn = preview := by
  simp [reportOn, reportFound, nothing]

theorem reportOn_of_some (setup : Setup σ) {height : UInt32}
    (owes : preview.session.unreported = some height) : preview.reportOn = preview.poll setup := by
  simp [reportOn, Preview.poll, poll_of_unreported setup.document owes, pollerStirs, owes]

theorem Cleared.pollOn (cleared : Cleared setup begun preview) :
    Cleared setup begun (preview.pollOn setup) := by
  have polled : Unwinds setup begun (preview.move setup .poll) :=
    cleared.unwinds.move trivial (.inl cleared.owed)
  have first := idled_poll setup preview
  rw [pollOn_eq, reportOn_of_none cleared.reported]
  cases owes : (preview.poll setup).session.unreported with
  | none =>
      rw [reportOn_of_none owes]
      exact ⟨⟨polled, owes, first.prompt cleared.prompt⟩, first.silent cleared.silent,
        first.attended cleared.attended⟩
  | some height =>
      have idled := first.trans (idled_poll setup _)
      have tells : Unwinds setup begun ((preview.poll setup).move setup .poll) :=
        polled.move trivial (.inr (found?_of_told (by simp [told?, Preview.move, owes])))
      have reported : ((preview.poll setup).poll setup).session.unreported = none := by
        rw [← reportOn_of_some setup owes]
        exact unreported_reportFound _
      rw [reportOn_of_some setup owes]
      exact ⟨⟨tells, reported, idled.prompt cleared.prompt⟩, idled.silent cleared.silent,
        idled.attended cleared.attended⟩

theorem turns_cleared (setup : Setup σ) (begun : Preview σ) :
    Turns setup (Cleared setup begun) where
  workOn cleared := cleared.workOn
  pollOn cleared := cleared.pollOn
  listen := by
    intro preview cleared
    have listened : Unwinds setup begun (preview.move setup .listen) :=
      cleared.unwinds.move trivial (.inl cleared.owed)
    have idled := idled_listen preview
    exact ⟨⟨listened, (mute_listen preview).unreported.trans cleared.reported,
      idled.prompt cleared.prompt⟩, idled.silent cleared.silent, idled.attended cleared.attended⟩
  tick := by
    intro preview cleared
    have ticked : Unwinds setup begun (preview.move setup .tick) :=
      cleared.unwinds.move trivial (.inl cleared.owed)
    exact ⟨⟨ticked, cleared.reported, (idled_tick preview).prompt cleared.prompt⟩, cleared.silent,
      cleared.attended⟩

theorem Cleared.input (cleared : Cleared setup begun preview) (input : Input σ) :
    Cleared setup begun (preview.move setup (.input input)) := by
  have ready : preview.letReport setup input = preview := by
    by_contra lets
    have reports := (letReport_of_ne lets).2.2.1
    rw [cleared.silent] at reports
    cases reports
  have moved : Unwinds setup begun (preview.move setup (.input input)) :=
    cleared.unwinds.move trivial (.inl cleared.owed)
  have mute := mute_input setup input cleared.prompt ready
  rw [Preview.move, ready] at moved ⊢
  exact ⟨⟨moved, mute.unreported.trans cleared.reported,
    (upheld_prompt setup).input cleared.prompt ready⟩, mute.reporting.trans cleared.silent,
    (upheld_attended setup).input cleared.attended ready⟩

theorem cleared_start (setup : Setup σ) (settings : Settings) (listening : Bool) (level : LogLevel)
    (tasks : Nat) (host : σ) :
    Cleared setup (start settings listening level tasks host)
      (start settings listening level tasks host) where
  unwinds := ⟨[], by simp, trivial, rfl⟩
  reported := by
    rw [session_start]
    exact (silent_log _ _).unreported
  prompt := prompt_start settings listening level tasks host
  silent := rfl
  attended := attended_start settings listening level tasks host

/-- What single moves have to do with heights, and when polls come, at a moment of a run. -/
structure Reports (setup : Setup σ) (settings : Settings) (reached : Preview σ) : Prop where
  /-- What a move finds is owed unless it is known, and what it tells was owed. -/
  checks : ∀ move : Move σ, move.IsSingle → Checks reached (reached.move setup move)
    (reached.found? setup move) (reached.told? move)
  /-- Workers report after their programs have run, and before they say so. -/
  placed : ∀ task, Placed (doneBy (.worker task) reached.session.trace)
  /-- The poller reports too, and nobody else does. -/
  others : ∀ stamped ∈ seen reached.session.trace, stamped.event.height?.isSome = true →
    stamped.part = .poller ∨ ∃ task, stamped.part = .worker task
  /-- Polls come at multiples of the interval. -/
  polls : reached.session.polls = false → (reached.tick.session.polls = true ↔
    reached.session.poller.isSome = true ∧
      ∃ every, settings.pollInterval = some every ∧ every ∣ reached.session.now + 1)
  polling : (∀ host, (setup.document.height host).Steady) →
    settings.pollInterval.isSome = true → reached.life ≠ .stopped →
      reached.session.poller.isSome = true

/-- What runs from a new preview tell of heights. -/
structure TellsHeights (setup : Setup σ) (settings : Settings) (begun : Preview σ) : Prop where
  /-- The heights reported or still owed are those found, but for those that changed nothing. -/
  complete : ∀ moves : List (Move σ), (∀ move ∈ moves, move.IsSingle) →
    (heights (begun.play setup moves).session.trace ++ (begun.play setup moves).owed).Perm
      ((begun.foundAlong setup moves).destutter (· ≠ ·))
  /-- They are reported in the order in which they were found, if no check is interrupted. -/
  changes : ∀ moves : List (Move σ), (∀ move ∈ moves, move.IsSingle) →
    Uninterrupted setup begun moves →
      heights (begun.play setup moves).session.trace ++ (begun.play setup moves).owed =
        (begun.foundAlong setup moves).destutter (· ≠ ·)
  /-- Then no height is reported twice in a row. -/
  varied : ∀ moves : List (Move σ), (∀ move ∈ moves, move.IsSingle) →
    Uninterrupted setup begun moves →
      (heights (begun.play setup moves).session.trace).IsChain (· ≠ ·)
  /-- And a height that is found is the one reported last, or is reported next. -/
  current : ∀ (moves : List (Move σ)) (last : Move σ) (height : UInt32),
    (∀ move ∈ moves ++ [last], move.IsSingle) → Uninterrupted setup begun (moves ++ [last]) →
      (begun.play setup moves).found? setup last = some height →
        let reached := (begun.play setup moves).move setup last
        (heights reached.session.trace ++ reached.owed).getLast? = some height
  /-- Where the worker and the poller go on until they wait no check is interrupted, and at last
  nothing is owed. -/
  whole : ∀ moves : List (Move σ), (∀ move ∈ moves, move.IsWhole) →
    let reached := begun.play setup moves
    (Unwinds setup begun reached ∧ reached.owed = []) ∧
      Unwinds setup begun (reached.shutdown setup) ∧ (reached.shutdown setup).owed = []
  moments : ∀ moves : List (Move σ), Reports setup settings (begun.play setup moves)

theorem inOrder_start (setup : Setup σ) (settings : Settings) (listening : Bool) (level : LogLevel)
    (tasks : Nat) (host : σ) : (start settings listening level tasks host).InOrder [] := by
  have announced := seen_start settings listening level tasks host
  have cleared := cleared_start setup settings listening level tasks host
  have shown : (start settings listening level tasks host).session.shown = none := by
    rw [session_start]
    exact (silent_log _ _).shown
  refine ⟨?_, shown, by simp [cleared.owed]⟩
  rw [← heights_seen, announced, cleared.owed]
  rfl

theorem reports_play (setup : Setup σ) (settings : Settings) (listening : Bool)
    (level : LogLevel) (tasks : Nat) (host : σ) (moves : List (Move σ)) :
    Reports setup settings ((start settings listening level tasks host).play setup moves) := by
  have prompt := prompt_start settings listening level tasks host
  obtain ⟨_, placing⟩ := (upheld_placing setup).play
    ⟨prompt, placing_start settings listening level tasks host⟩ moves
  obtain ⟨stays, ticking⟩ := (upheld_ticking setup settings.pollInterval).play
    ⟨prompt, ticking_start setup settings listening level tasks host⟩ moves
  exact ⟨fun move single => checks_move setup stays single, placing.placed, placing.others,
    ticking.ticks.polls_tick_iff, ticking.polling⟩

end Preview

namespace Headless

open LivePreview.Preview LivePreview.Session

/-- A document as high as its body is long. -/
def bodily : Setup Headless :=
  { setup with
    document :=
      { document with
        height := fun host => .ok (host.markup.map fun markup => markup.body.length.toUInt32) } }

def refilled (host : Headless) : Headless :=
  { host with markup := some ⟨none, "hello"⟩ }

/-- A poll that is interrupted by a cycle reports the height it has found after that of the cycle,
which was found later. -/
example :
    heights ((start ⟨0, 2, .react, .off⟩ false .off 0 fresh).play bodily
      [.input (.hostChanged refilled), .poll, .input (.message (.compile (.ofTemplate none))),
        .workOn, .poll]).session.trace = [21, 5] := by
  decide +kernel

end Headless

end LivePreview
