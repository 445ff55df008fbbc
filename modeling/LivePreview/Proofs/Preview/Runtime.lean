import LivePreview.Proofs.Preview.Alongside

namespace LivePreview

/-! Commands for the console, and what the running program raises.  Commands are answered when they
come, events are forwarded in turn by the listener, and a run without them is the same run
otherwise. -/

/-- Sent for a command or for an event of the program. -/
def Stamped.isRuntime (stamped : Stamped) : Bool :=
  match stamped.part, stamped.event with
  | .listener, _ => true
  | .caller, .sent (.console _) => true
  | _, _ => false

def ofRuntime (trace : List Stamped) : List Stamped :=
  (seen trace).filter Stamped.isRuntime

def ofCompiles (trace : List Stamped) : List Stamped :=
  (seen trace).filter fun stamped => !stamped.isRuntime

def Outcome.ofExcept : Except Failure α → Outcome α
  | .ok value => .ok value
  | .error failure => .failed failure

/-- Commands are answered by what they say alone, and change nothing. -/
structure Backend.Aloof (backend : Backend σ) (reply : String → Except Failure Json) : Prop where
  keeps : ∀ command host, (backend.command command host).host = host
  answers : ∀ command host, (backend.command command host).value = .ofExcept (reply command)

def replyEntry : Except Failure Json → ConsoleEntry
  | .ok value => ⟨"result", [value]⟩
  | .error failure => ⟨"error", [.string failure.message]⟩

theorem consoleEntry?_ofExcept (reply : Except Failure Json) :
    Preview.consoleEntry? (.ofExcept reply) = some (replyEntry reply) := by
  cases reply <;> rfl

/-- An action for an error; the console for what was written to it, if anything was. -/
def forwarded : ProgramEvent → List Outbound
  | .error raised => [.action raised.report.action]
  | .console [] => []
  | .console (entry :: rest) => [.console (entry :: rest)]

theorem toList_message? (event : ProgramEvent) : event.message?.toList = forwarded event := by
  cases event with
  | error raised => rfl
  | console log => cases log <;> rfl

/-- What the listener sends for the events. -/
def forwardedAt (time : Nat) (events : List ProgramEvent) : List Stamped :=
  (events.flatMap forwarded).map fun message => ⟨time, .listener, .sent message⟩

theorem isRuntime_forwardedAt {time : Nat} {events : List ProgramEvent} {stamped : Stamped}
    (member : stamped ∈ forwardedAt time events) : stamped.isRuntime = true := by
  obtain ⟨message, _, rfl⟩ := List.mem_map.mp member
  rfl

theorem forwardedAt_append (time : Nat) (first second : List ProgramEvent) :
    forwardedAt time (first ++ second) = forwardedAt time first ++ forwardedAt time second := by
  simp [forwardedAt]

@[simp] theorem saidBy_forwardedAt (time : Nat) (events : List ProgramEvent) :
    saidBy .listener (forwardedAt time events) = events.flatMap forwarded := by
  rw [saidBy, forwardedAt, List.filterMap_map]
  exact List.filterMap_some ..

/-- The answers to commands. -/
def answersIn (trace : List Stamped) : List Stamped :=
  (ofRuntime trace).filter fun stamped => stamped.part = .caller

@[simp] theorem answers_forwardedAt (time : Nat) (events : List ProgramEvent) :
    ((forwardedAt time events).filter Stamped.isRuntime).filter
      (fun stamped => stamped.part = .caller) = [] := by
  rw [List.filter_eq_nil_iff]
  intro stamped member
  obtain ⟨message, _, rfl⟩ := List.mem_map.mp (List.mem_of_mem_filter member)
  simp

theorem saidBy_ofRuntime (trace : List Stamped) :
    saidBy .listener (ofRuntime trace) = saidBy .listener trace := by
  rw [← saidBy_seen _ trace, saidBy, ofRuntime, List.filterMap_filter, saidBy]
  congr 1
  funext stamped
  obtain ⟨time, part, event⟩ := stamped
  cases part <;> simp [Stamped.isRuntime]

namespace Preview

open LivePreview.Cycle LivePreview.Session

variable {σ : Type u} {setup : Setup σ} {reply : String → Except Failure Json}
variable {kept spared preview next : Preview σ}

/-- What a command is answered at once, whatever the worker does. -/
def answer (reply : String → Except Failure Json) (preview : Preview σ) : Move σ → List Stamped
  | .input (.message (.evaluate command)) =>
    if preview.life = .serving then
      [⟨preview.session.now, .caller, .sent (.console [replyEntry (reply command)])⟩]
    else []
  | _ => []

/-- The event that the listener is given to forward. -/
def heard (preview : Preview σ) : Move σ → List ProgramEvent
  | .input (.raised event) => if preview.listening then [event] else []
  | _ => []

theorem isRuntime_answer {move : Move σ} {stamped : Stamped}
    (member : stamped ∈ answer reply preview move) : stamped.isRuntime = true := by
  unfold answer at member
  split at member
  · split at member
    · cases List.mem_singleton.mp member
      rfl
    · cases member
  · cases member

theorem answers_answer (move : Move σ) :
    ((answer reply preview move).filter Stamped.isRuntime).filter
      (fun stamped => stamped.part = .caller) = answer reply preview move := by
  unfold answer
  split
  · split <;> rfl
  · rfl

theorem saidBy_answer (move : Move σ) : saidBy .listener (answer reply preview move) = [] := by
  unfold answer
  split
  · split <;> rfl
  · rfl

/-- What comes together along the moves. -/
def gathered (setup : Setup σ) (what : Preview σ → Move σ → List α) (preview : Preview σ) :
    List (Move σ) → List α
  | [] => []
  | move :: rest => what preview move ++ gathered setup what (preview.move setup move) rest

theorem answer_other {move : Move σ} (lasts : move.isRuntime = false) :
    answer reply preview move = [] := by
  unfold answer
  split
  · cases lasts
  · rfl

theorem heard_other {move : Move σ} (lasts : move.isRuntime = false) :
    heard preview move = [] := by
  unfold heard
  split
  · cases lasts
  · rfl

theorem adds_commanded (aloof : setup.backend.Aloof reply) (command : String)
    (session : Session σ) :
    session.Adds (commanded setup command session)
        [.sent (.console [replyEntry (reply command)])] ∧
      (commanded setup command session).present = session.present := by
  have answer := aloof.answers command session.host
  unfold commanded
  rw [answer, consoleEntry?_ofExcept]
  refine ⟨(adds_take session _).trans (adds_send _ _), ?_⟩
  refine (present_logAll _ (setup.backend.command command session.host).records).trans ?_
  rw [aloof.keeps]

/-- The move is over at once, and only the trace shows that it was made. -/
inductive Answers (reply : String → Except Failure Json) (preview : Preview σ) (command : String) :
    Preview σ → Prop
  | intro {session : Session σ}
      (told : seen session.trace = seen preview.session.trace ++
        answer reply preview (.input (.message (.evaluate command))))
      (present : session.present = preview.session.present) :
      Answers reply preview command { preview with session }

theorem Answers.told {command : String} (answers : Answers reply preview command next) :
    seen next.session.trace = seen preview.session.trace ++
      answer reply preview (.input (.message (.evaluate command))) := by
  cases answers with
  | intro told present => exact told

theorem answers_evaluate (aloof : setup.backend.Aloof reply) (preview : Preview σ)
    (command : String) :
    Answers reply preview command (preview.move setup (.input (.message (.evaluate command)))) := by
  change Answers reply preview command (preview.step setup (.message (.evaluate command)))
  simp only [step]
  split
  next serving =>
      obtain ⟨adds, present⟩ := adds_commanded aloof command (preview.session.handTo .caller)
      refine .intro ?_ present
      rw [answer, if_pos serving]
      exact adds.seen
  next deaf =>
      refine .intro ?_ rfl
      rw [answer, if_neg deaf, List.append_nil]

structure Forwards (count : Nat) (preview next : Preview σ) : Prop where
  told : seen next.session.trace =
    seen preview.session.trace ++ forwardedAt preview.session.now (preview.queued.take count)
  queued : next.queued = preview.queued.drop count
  listening : next.listening = preview.listening
  present : next.session.present = preview.session.present
  same : next = { preview with session := next.session, listener := next.listener }

theorem Forwards.now {count : Nat} (forwards : Forwards count preview next) :
    next.session.now = preview.session.now :=
  congrArg (·.now) forwards.present

theorem forwards_none (preview : Preview σ) : Forwards 0 preview preview :=
  ⟨by simp [forwardedAt], rfl, rfl, rfl, rfl⟩

theorem Forwards.of_idle {first second : Nat} (forwards : Forwards first preview next)
    (idle : preview.queued = []) : Forwards second preview next := by
  obtain ⟨told, queued, listening, present, same⟩ := forwards
  rw [idle, List.take_nil] at told
  rw [idle, List.drop_nil] at queued
  refine ⟨?_, ?_, listening, present, same⟩
  · rwa [idle, List.take_nil]
  · rwa [idle, List.drop_nil]

theorem forwards_listen (preview : Preview σ) : Forwards 1 preview preview.listen := by
  unfold listen
  split
  next none =>
      have idle : preview.queued = [] := by simp [queued, none]
      exact (forwards_none preview).of_idle idle
  next waits =>
      have idle : preview.queued = [] := by simp [queued, waits]
      exact (forwards_none preview).of_idle idle
  next ends =>
      have idle : preview.queued = [] := by simp [queued, ends]
      have deaf : preview.listening = false := by simp [listening, ends]
      refine ⟨?_, ?_, deaf.symm, ?_, rfl⟩
      · rw [idle]
        exact (adds_log (preview.session.handTo .listener) eventsClosedRecord).seen
      · rw [idle]
        rfl
      · exact present_log (preview.session.handTo .listener) eventsClosedRecord
  next event queue isOpen takes =>
      have busy : preview.queued = event :: queue := by simp [queued, takes]
      have hears : preview.listening = isOpen := by simp [listening, takes]
      refine ⟨?_, ?_, hears.symm, ?_, rfl⟩
      · have told := (adds_raise (preview.session.handTo .listener) event).seen
        rw [toList_message?, List.map_map] at told
        rw [busy, List.take_succ_cons, List.take_zero, forwardedAt, List.flatMap_singleton]
        exact told
      · rw [busy]
        rfl
      · cases event with
        | error raised => exact present_log _ _
        | console log => cases log <;> rfl

theorem Forwards.trans {middle : Preview σ} {count : Nat} (first : Forwards 1 preview middle)
    (second : Forwards count middle next) : Forwards (count + 1) preview next := by
  have parts : preview.queued.take (count + 1) =
      preview.queued.take 1 ++ (preview.queued.drop 1).take count := by
    rw [Nat.add_comm, List.take_add]
  refine ⟨?_, ?_, second.listening.trans first.listening, second.present.trans first.present, ?_⟩
  · rw [second.told, first.told, first.queued, first.now, List.append_assoc, ← forwardedAt_append,
      ← parts]
  · rw [second.queued, first.queued, List.drop_drop, Nat.add_comm]
  · rw [second.same, first.same]

theorem forwards_listenUpTo (count : Nat) (preview : Preview σ) :
    Forwards count preview (preview.listenUpTo count) := by
  induction count generalizing preview with
  | zero => exact forwards_none preview
  | succ count ih => exact (forwards_listen preview).trans (ih preview.listen)

theorem length_queued_le_backlog (preview : Preview σ) :
    preview.queued.length ≤ preview.backlog := by
  cases held : preview.listener <;> simp [queued, backlog, held]

theorem forwards_listenOn (preview : Preview σ) :
    Forwards preview.queued.length preview preview.listenOn := by
  have forwards := forwards_listenUpTo preview.backlog preview
  have enough := length_queued_le_backlog preview
  refine ⟨?_, ?_, forwards.listening, forwards.present, forwards.same⟩
  · rw [List.take_length, ← List.take_of_length_le enough]
    exact forwards.told
  · rw [List.drop_length, ← List.drop_of_length_le enough]
    exact forwards.queued

theorem ofRuntime_of_adds {part : Part} {session : Session σ} {events : List Event}
    (adds : (preview.session.handTo part).Adds session events)
    (other : ∀ event ∈ events, Stamped.isRuntime ⟨preview.session.now, part, event⟩ = false) :
    ofRuntime session.trace = ofRuntime preview.session.trace := by
  have none : (events.map (preview.session.handTo part).stamp).filter Stamped.isRuntime = [] := by
    rw [List.filter_eq_nil_iff]
    intro stamped member
    obtain ⟨event, among, rfl⟩ := List.mem_map.mp member
    exact Bool.eq_false_iff.mp (other event among)
  rw [ofRuntime, adds.seen, List.filter_append, none, List.append_nil]
  rfl

theorem ofRuntime_poll (setup : Setup σ) (preview : Preview σ) :
    ofRuntime (preview.poll setup).session.trace = ofRuntime preview.session.trace := by
  have polled := (polled_poll setup.document preview.session).seen
  have none : (preview.session.unreported.toList.map fun height =>
      (⟨preview.session.now, .poller, .sent (.resize height)⟩ : Stamped)).filter
        Stamped.isRuntime = [] := by
    simp [List.filter_eq_nil_iff, Stamped.isRuntime]
  rw [ofRuntime, poll, polled, List.filter_append, none, List.append_nil, ofRuntime]

theorem Advance.ofRuntime_eq (advance : Advance setup preview next) :
    ofRuntime next.session.trace = ofRuntime preview.session.trace := by
  cases advance with
  | moves | retires => rfl
  | @takes watch request | @takesLast watch request =>
      obtain ⟨events, adds⟩ := exists_adds_begin setup request preview.workerSession
      exact ofRuntime_of_adds adds fun _ _ => rfl
  | @resumes wake stage =>
      obtain ⟨events, adds, _⟩ := (lawful_resume setup stage preview.workerSession).adds
      exact ofRuntime_of_adds adds fun _ _ => rfl
  | stops => exact ofRuntime_of_adds (adds_stop preview) (by simp)

theorem ofRuntime_refresh (setup : Setup σ) (preview : Preview σ) :
    ofRuntime (preview.refresh setup).session.trace = ofRuntime preview.session.trace := by
  have reloads := adds_reloaded setup preview
  cases crash : (preview.reloaded setup).1.crash? with
  | some note =>
      rw [refresh_of_crash crash]
      exact ofRuntime_of_adds reloads (by simp [Stamped.isRuntime])
  | none =>
      have restarts := adds_restart { preview with session := (preview.reloaded setup).2 }
      rw [refresh_of_returns crash]
      exact ofRuntime_of_adds (reloads.trans restarts)
        (by simp [Stamped.isRuntime])

theorem ofRuntime_input (setup : Setup σ) (preview : Preview σ) {input : Input σ}
    (lasts : (Move.input input).isRuntime = false) :
    ofRuntime (preview.step setup input).session.trace = ofRuntime preview.session.trace := by
  cases input with
  | raised => cases lasts
  | hostChanged | eventsClosed => rfl
  | shutdown =>
      simp only [step]
      split <;> rfl
  | message message =>
      simp only [step]
      split
      · cases message with
        | evaluate => cases lasts
        | refresh => exact ofRuntime_refresh setup preview
        | compile request =>
            exact ofRuntime_of_adds (adds_schedule request preview) (by simp [Stamped.isRuntime])
      · rfl

structure Spares (kept spared : Preview σ) : Prop where
  alongside : Alongside (seen kept.session.trace) (seen spared.session.trace) kept spared
  told : seen spared.session.trace = ofCompiles kept.session.trace

theorem Spares.alike {late early : Preview σ} (spares : Spares kept spared)
    (moved : Alongside (seen kept.session.trace) (seen spared.session.trace) late early)
    (silent : ofRuntime late.session.trace = ofRuntime kept.session.trace) :
    Spares late early := by
  obtain ⟨rest, keeps, tells⟩ := moved.sessions.told
  have none : rest.filter Stamped.isRuntime = [] := by
    simpa [ofRuntime, keeps] using silent
  have all : rest.filter (fun stamped => !stamped.isRuntime) = rest := by
    rw [List.filter_eq_self]
    intro stamped member
    simpa using List.filter_eq_nil_iff.mp none stamped member
  refine ⟨moved.renew, ?_⟩
  rw [tells, spares.told, ofCompiles, ofCompiles, keeps, List.filter_append, all]

theorem Spares.apart {entries : List Stamped} (spares : Spares kept spared)
    (same : next = { kept with session := next.session, listener := next.listener })
    (present : next.session.present = kept.session.present)
    (listening : next.listening = kept.listening)
    (told : seen next.session.trace = seen kept.session.trace ++ entries)
    (runtime : ∀ stamped ∈ entries, stamped.isRuntime = true) : Spares next spared := by
  have none : entries.filter (fun stamped => !stamped.isRuntime) = [] := by
    rw [List.filter_eq_nil_iff]
    intro stamped member
    simp [runtime stamped member]
  have alongside := spares.alongside
  refine ⟨alongside_of (abreast_of_present (present.trans alongside.sessions.present)) ?_
    (alongside.listening.trans listening.symm) alongside.idle, ?_⟩
  · rw [same]
    exact alongside.same
  · rw [spares.told, ofCompiles, ofCompiles, told, List.filter_append, none, List.append_nil]

theorem Spares.advance? (spares : Spares kept spared) (setup : Setup σ) :
    Option.Rel Spares (kept.advance? setup) (spared.advance? setup) := by
  have steps := alongside_advance? spares.alongside setup
  cases advances : kept.advance? setup with
  | none =>
      rw [advances] at steps
      generalize spared.advance? setup = early at steps ⊢
      cases steps
      exact .none
  | some late =>
      have silent := (advance?_cases advances).ofRuntime_eq
      rw [advances] at steps
      generalize spared.advance? setup = early at steps ⊢
      cases steps with
      | some moved => exact .some (spares.alike moved silent)

theorem Spares.work (spares : Spares kept spared) (setup : Setup σ) :
    Spares (kept.move setup .work) (spared.move setup .work) := by
  have steps := spares.advance? setup
  simp only [Preview.move]
  generalize kept.advance? setup = late, spared.advance? setup = early at steps ⊢
  cases steps with
  | none => exact spares
  | some spares => exact spares

theorem Spares.advanceUpTo (spares : Spares kept spared) (setup : Setup σ) (count : Nat) :
    Spares (kept.advanceUpTo setup count) (spared.advanceUpTo setup count) := by
  induction count generalizing kept spared with
  | zero => exact spares
  | succ count ih =>
      have steps := spares.advance? setup
      unfold Preview.advanceUpTo
      generalize kept.advance? setup = late, spared.advance? setup = early at steps ⊢
      cases steps with
      | none => exact spares
      | some spares => exact ih spares

theorem Spares.workOn (spares : Spares kept spared) (setup : Setup σ) :
    Spares (kept.workOn setup) (spared.workOn setup) := by
  unfold Preview.workOn
  rw [spares.alongside.effort]
  exact spares.advanceUpTo setup kept.effort

theorem Spares.poll (spares : Spares kept spared) (setup : Setup σ) :
    Spares (kept.poll setup) (spared.poll setup) :=
  spares.alike (alongside_poll spares.alongside setup) (ofRuntime_poll setup kept)

theorem Spares.reportOn (spares : Spares kept spared) (setup : Setup σ) :
    Spares kept.reportOn spared.reportOn := by
  have same : kept.session.unreported = spared.session.unreported :=
    congrArg (·.unreported) spares.alongside.sessions.present
  cases owes : kept.session.unreported with
  | none =>
      rw [reportOn_of_none owes, reportOn_of_none (same.symm.trans owes)]
      exact spares
  | some height =>
      rw [reportOn_of_some setup owes, reportOn_of_some setup (same.symm.trans owes)]
      exact spares.poll setup

theorem Spares.pollOn (spares : Spares kept spared) (setup : Setup σ) :
    Spares (kept.pollOn setup) (spared.pollOn setup) := by
  rw [pollOn_eq, pollOn_eq]
  exact ((spares.reportOn setup).poll setup).reportOn setup

theorem Spares.tick (spares : Spares kept spared) : Spares kept.tick spared.tick :=
  spares.alike (alongside_tick spares.alongside) rfl

theorem Spares.listens {count : Nat} (spares : Spares kept spared)
    (forwards : Forwards count kept next) : Spares next spared := by
  exact spares.apart forwards.same forwards.present forwards.listening forwards.told
    fun _ => isRuntime_forwardedAt

theorem Spares.idles {count : Nat} (spares : Spares kept spared)
    (forwards : Forwards count spared next) : Spares kept next := by
  have alongside := spares.alongside
  obtain ⟨told, queued, listening, present, same⟩ := forwards
  rw [alongside.idle, List.take_nil] at told
  rw [alongside.idle, List.drop_nil] at queued
  refine ⟨alongside_of (abreast_of_present (alongside.sessions.present.trans present.symm)) ?_
    (listening.trans alongside.listening) queued, ?_⟩
  · rw [same, alongside.same]
  · rw [told, spares.told]
    exact List.append_nil _

theorem Spares.listenUpTo (spares : Spares kept spared) (count other : Nat) :
    Spares (kept.listenUpTo count) (spared.listenUpTo other) :=
  (spares.listens (forwards_listenUpTo count kept)).idles (forwards_listenUpTo other spared)

theorem Spares.settle (spares : Spares kept spared) (setup : Setup σ) :
    Spares (kept.settle setup) (spared.settle setup) := by
  have listened : Spares kept.listenOn spared.listenOn := spares.listenUpTo _ _
  have first := listened.alongside.pollsFirst
  unfold Preview.settle
  rw [spares.alongside.isOver]
  simp only [first]
  split
  · exact (spares.workOn setup).pollOn setup
  · split
    · exact (listened.pollOn setup).workOn setup
    · exact (listened.workOn setup).pollOn setup

theorem Spares.pass (spares : Spares kept spared) (setup : Setup σ) (milliseconds : Nat) :
    Spares (kept.pass setup milliseconds) (spared.pass setup milliseconds) := by
  induction milliseconds generalizing kept spared with
  | zero => exact spares
  | succ milliseconds ih => exact ih (spares.tick.settle setup)

theorem Spares.letReport (spares : Spares kept spared) (setup : Setup σ) (input : Input σ) :
    Spares (kept.letReport setup input) (spared.letReport setup input) := by
  cases input with
  | message message =>
      cases message with
      | compile | evaluate => exact spares
      | refresh =>
          rw [letReport_refresh, letReport_refresh, spares.alongside.life,
            spares.alongside.reporting?]
          split
          · exact spares.work setup
          · exact spares
  | raised | eventsClosed | hostChanged | shutdown => exact spares

/-- A move of the runtime is made by the first alone. -/
theorem Spares.runtime (spares : Spares kept spared) (aloof : setup.backend.Aloof reply)
    {move : Move σ} (runtime : move.isRuntime = true) : Spares (kept.move setup move) spared := by
  cases move with
  | work | poll | listen | tick | workOn | pollOn | listenOn | wait => cases runtime
  | input input =>
      cases input with
      | eventsClosed | hostChanged | shutdown => cases runtime
      | raised event =>
          have same := enqueue_eq event kept
          have listening := listening_enqueue event kept
          change Spares (kept.enqueue event) spared
          generalize kept.enqueue event = next at same listening ⊢
          have unchanged : next.session = kept.session := by rw [same]
          refine spares.apart ?_ (congrArg present unchanged) listening ?_ (List.forall_mem_nil _)
          · rwa [unchanged]
          · rw [List.append_nil, unchanged]
      | message message =>
          cases message with
          | compile | refresh => cases runtime
          | evaluate command =>
              have answers := answers_evaluate aloof kept command
              generalize kept.move setup (.input (.message (.evaluate command))) = next at answers ⊢
              cases answers with
              | intro told present =>
                  exact spares.apart rfl present rfl told fun _ => isRuntime_answer

/-- Any other move is made by both. -/
theorem Spares.other (spares : Spares kept spared) (setup : Setup σ) {move : Move σ}
    (lasts : move.isRuntime = false) : Spares (kept.move setup move) (spared.move setup move) := by
  cases move with
  | input input =>
      have ready := spares.letReport setup input
      exact ready.alike (alongside_input ready.alongside setup lasts)
        (ofRuntime_input setup _ lasts)
  | work => exact spares.work setup
  | poll => exact spares.poll setup
  | listen => exact spares.listenUpTo 1 1
  | tick => exact spares.tick
  | workOn => exact spares.workOn setup
  | pollOn => exact spares.pollOn setup
  | listenOn => exact spares.listenUpTo _ _
  | wait milliseconds => exact (spares.settle setup).pass setup milliseconds

theorem Spares.play (spares : Spares kept spared) (aloof : setup.backend.Aloof reply)
    (moves : List (Move σ)) :
    Spares (kept.play setup moves)
      (spared.play setup (moves.filter fun move => !move.isRuntime)) := by
  induction moves generalizing kept spared with
  | nil => exact spares
  | cons move rest ih =>
      cases runtime : move.isRuntime with
      | true =>
          rw [List.filter_cons_of_neg (by simp [runtime])]
          exact ih (spares.runtime aloof runtime)
      | false =>
          rw [List.filter_cons_of_pos (by simp [runtime])]
          exact ih (spares.other setup runtime)

theorem ofRuntime_start (settings : Settings) (listening : Bool)
    (level : LogLevel) (tasks : Nat) (host : σ) :
    ofRuntime (start settings listening level tasks host).session.trace = [] := by
  rw [ofRuntime, seen_start]
  rfl

theorem queued_start (settings : Settings) (listening : Bool) (level : LogLevel) (tasks : Nat)
    (host : σ) : (start settings listening level tasks host).queued = [] := by
  cases listening <;> rfl

theorem spares_start (settings : Settings) (listening : Bool) (level : LogLevel) (tasks : Nat)
    (host : σ) :
    Spares (start settings listening level tasks host)
      (start settings listening level tasks host) := by
  refine ⟨alongside_self _ (queued_start settings listening level tasks host), ?_⟩
  rw [ofCompiles, seen_start]
  rfl

structure Accounts (answers : List Stamped) (raised : List ProgramEvent) (preview : Preview σ) :
    Prop where
  answered : answersIn preview.session.trace = answers
  forwarded : ∃ done lost, saidBy .listener preview.session.trace = done.flatMap forwarded ∧
    raised = done ++ preview.queued ++ lost ∧
    (lost = [] ∨ preview.life = .stopped ∧ preview.listening = false)

variable {answers : List Stamped} {raised : List ProgramEvent}

theorem Accounts.beside (accounts : Accounts answers raised preview)
    (silent : ofRuntime next.session.trace = ofRuntime preview.session.trace)
    (queued : next.queued = preview.queued)
    (ended : preview.life = .stopped → preview.listening = false →
      next.life = .stopped ∧ next.listening = false) : Accounts answers raised next := by
  obtain ⟨answered, done, lost, said, all, losing⟩ := accounts
  refine ⟨?_, done, lost, ?_, ?_, losing.imp id fun lost => ended lost.1 lost.2⟩
  · rw [answersIn, silent]
    exact answered
  · rw [← saidBy_ofRuntime, silent, saidBy_ofRuntime, said]
  · rw [queued, all]

theorem Accounts.forwards {count : Nat} (accounts : Accounts answers raised preview)
    (forwards : Forwards count preview next) : Accounts answers raised next := by
  obtain ⟨answered, done, lost, said, all, losing⟩ := accounts
  have others : answersIn next.session.trace = answersIn preview.session.trace := by
    simp only [answersIn, ofRuntime, forwards.told, List.filter_append, answers_forwardedAt,
      List.append_nil]
  have sends : saidBy .listener next.session.trace =
      (done ++ preview.queued.take count).flatMap LivePreview.forwarded := by
    rw [← saidBy_seen, forwards.told, saidBy_append, saidBy_seen, said, saidBy_forwardedAt,
      List.flatMap_append]
  refine ⟨others.trans answered, done ++ preview.queued.take count, lost, sends, ?_,
    losing.imp_right fun ended => ⟨?_, forwards.listening.trans ended.2⟩⟩
  · rw [all, forwards.queued, List.append_assoc done (preview.queued.take count),
      List.take_append_drop]
  · rw [forwards.same]
    exact ended.1

theorem lasting_accounts (setup : Setup σ) (answers : List Stamped) (raised : List ProgramEvent) :
    Lasting setup (Accounts answers raised) where
  tick accounts := accounts.beside rfl rfl fun stopped deaf => ⟨stopped, deaf⟩
  poll accounts := accounts.beside (ofRuntime_poll setup _) rfl fun stopped deaf => ⟨stopped, deaf⟩
  listen accounts := accounts.forwards (forwards_listen _)
  advance := by
    intro preview next accounts advance
    have silent := advance.ofRuntime_eq
    cases advance with
    | moves | takes | takesLast | retires | resumes =>
        exact accounts.beside silent rfl fun stopped deaf => ⟨stopped, deaf⟩
    | stops idle closing =>
        obtain ⟨answered, done, lost, said, all, losing⟩ := accounts
        have none : lost = [] := losing.resolve_right (by simp [closing])
        subst none
        refine ⟨?_, done, preview.queued, ?_, ?_, .inr ⟨rfl, rfl⟩⟩
        · rw [answersIn, silent]
          exact answered
        · rw [← saidBy_ofRuntime, silent, saidBy_ofRuntime, said]
        · rw [all, List.append_nil]
          exact congrArg (· ++ preview.queued) (List.append_nil done).symm

theorem Accounts.input (accounts : Accounts answers raised preview) (setup : Setup σ)
    {input : Input σ} (lasts : (Move.input input).isRuntime = false) :
    Accounts answers raised (preview.step setup input) := by
  have silent := ofRuntime_input setup preview lasts
  cases input with
  | raised => cases lasts
  | hostChanged => exact accounts.beside silent rfl fun stopped deaf => ⟨stopped, deaf⟩
  | eventsClosed =>
      exact accounts.beside silent (queued_closeEvents preview) fun stopped _ =>
        ⟨stopped, listening_closeEvents preview⟩
  | shutdown =>
      simp only [step] at silent ⊢
      split
      next serving =>
          exact accounts.beside rfl rfl fun stopped _ => by simp [serving] at stopped
      next => exact accounts
  | message message =>
      simp only [step] at silent ⊢
      split
      next serving =>
          rw [if_pos serving] at silent
          exact accounts.beside silent (queued_congr (listener_receive setup preview message))
            fun stopped _ => by simp [serving] at stopped
      next => exact accounts

theorem Accounts.enqueue (accounts : Accounts answers raised preview) (event : ProgramEvent) :
    Accounts answers (raised ++ if preview.listening then [event] else [])
      (preview.enqueue event) := by
  obtain ⟨answered, done, lost, said, all, losing⟩ := accounts
  have same := enqueue_eq event preview
  have queued := queued_enqueue event preview
  have listening := listening_enqueue event preview
  generalize preview.enqueue event = next at same queued listening ⊢
  have session : next.session = preview.session := by rw [same]
  have life : next.life = preview.life := by rw [same]
  refine ⟨session ▸ answered, done, lost, session ▸ said, ?_, ?_⟩
  · rw [all, queued]
    rcases losing with rfl | ⟨_, deaf⟩
    · simp
    · simp [deaf]
  · rwa [life, listening]

theorem Accounts.command {command : String} (accounts : Accounts answers raised preview)
    (given : Answers reply preview command next) :
    Accounts (answers ++ answer reply preview (.input (.message (.evaluate command)))) raised
      next := by
  obtain ⟨answered, done, lost, said, all, losing⟩ := accounts
  cases given with
  | @intro session told present =>
      refine ⟨?_, done, lost, ?_, all, losing⟩
      · rw [← answered, answersIn, ofRuntime, told, List.filter_append, List.filter_append,
          answers_answer, answersIn, ofRuntime]
      · rw [← saidBy_seen, told, saidBy_append, saidBy_answer, List.append_nil, saidBy_seen, said]

theorem Accounts.runtime (accounts : Accounts answers raised preview)
    (aloof : setup.backend.Aloof reply) {move : Move σ} (runtime : move.isRuntime = true) :
    Accounts (answers ++ answer reply preview move) (raised ++ heard preview move)
      (preview.move setup move) := by
  cases move with
  | work | poll | listen | tick | workOn | pollOn | listenOn | wait => cases runtime
  | input input =>
      cases input with
      | eventsClosed | hostChanged | shutdown => cases runtime
      | raised event =>
          rw [answer, List.append_nil]
          · exact accounts.enqueue event
          · simp
      | message message =>
          cases message with
          | compile | refresh => cases runtime
          | evaluate command =>
              rw [heard, List.append_nil]
              · exact accounts.command (answers_evaluate aloof preview command)
              · simp

theorem Accounts.move (accounts : Accounts answers raised preview)
    (aloof : setup.backend.Aloof reply) (move : Move σ) :
    Accounts (answers ++ answer reply preview move) (raised ++ heard preview move)
      (preview.move setup move) := by
  have lasting := lasting_accounts setup answers raised
  cases runtime : move.isRuntime with
  | true => exact accounts.runtime aloof runtime
  | false =>
      rw [answer_other runtime, heard_other runtime, List.append_nil, List.append_nil]
      cases move with
      | input input => exact (lasting.letReport accounts input).input setup runtime
      | work | poll | listen | tick | workOn | pollOn | listenOn | wait =>
          exact lasting.move accounts (by simp)

theorem Accounts.play (accounts : Accounts answers raised preview)
    (aloof : setup.backend.Aloof reply) (moves : List (Move σ)) :
    Accounts (answers ++ gathered setup (answer reply) preview moves)
      (raised ++ gathered setup heard preview moves) (preview.play setup moves) := by
  induction moves generalizing preview answers raised with
  | nil =>
      rw [gathered, gathered, List.append_nil, List.append_nil]
      exact accounts
  | cons move rest ih =>
      have later := ih (accounts.move aloof move)
      rwa [List.append_assoc, List.append_assoc] at later

theorem accounts_start (settings : Settings) (listening : Bool) (level : LogLevel) (tasks : Nat)
    (host : σ) : Accounts [] [] (start settings listening level tasks host) := by
  have none := ofRuntime_start settings listening level tasks host
  refine ⟨?_, [], [], ?_, ?_, .inl rfl⟩
  · rw [answersIn, none]
    rfl
  · rw [← saidBy_ofRuntime, none]
    rfl
  · rw [queued_start]
    rfl

structure Open (messages events : Prop) (preview : Preview σ) : Prop where
  serving : preview.life = .serving ↔ messages
  listening : preview.listening = true ↔ events ∧ preview.life ≠ .stopped

variable {messages events : Prop}

theorem Open.same (isOpen : Open messages events preview) (life : next.life = preview.life)
    (listening : next.listening = preview.listening) : Open messages events next := by
  refine ⟨?_, ?_⟩
  · rw [life]
    exact isOpen.serving
  · rw [life, listening]
    exact isOpen.listening

theorem Open.congr {taken heard : Prop} (isOpen : Open messages events preview)
    (sameMessages : messages ↔ taken) (sameEvents : events ↔ heard) :
    Open taken heard preview := by
  rwa [← propext sameMessages, ← propext sameEvents]

theorem lasting_open (setup : Setup σ) (messages events : Prop) :
    Lasting setup (Open messages events) where
  poll isOpen := isOpen.same rfl rfl
  listen isOpen := isOpen.same (idled_listen _).life (forwards_listen _).listening
  tick isOpen := isOpen.same rfl rfl
  advance := by
    intro preview next isOpen advance
    cases advance with
    | moves | takes | takesLast | retires | resumes => exact isOpen.same rfl rfl
    | stops idle closing =>
        have ended : ¬ messages := by
          rw [← isOpen.serving, closing]
          simp
        have stopped : preview.stop.life = .stopped := rfl
        have deaf : preview.stop.listening = false := rfl
        exact ⟨by simp [stopped, ended], by simp [stopped, deaf]⟩

theorem listening_step (setup : Setup σ) (preview : Preview σ) {input : Input σ}
    (hears : input ≠ .eventsClosed) :
    (preview.step setup input).listening = preview.listening := by
  cases input with
  | eventsClosed => exact (hears rfl).elim
  | hostChanged => rfl
  | raised event => exact listening_enqueue event preview
  | message message =>
      simp only [step]
      split
      · exact listening_congr (listener_receive setup preview message)
      · rfl
  | shutdown =>
      simp only [step]
      split <;> rfl

theorem open_shutdown (setup : Setup σ) (isOpen : Open messages events preview) :
    Open False events (preview.step setup .shutdown) := by
  simp only [step]
  split
  next serving =>
      have listening : { preview with life := .closing }.listening = preview.listening := rfl
      exact ⟨by simp, by simpa [serving, listening] using isOpen.listening⟩
  next closed => exact ⟨iff_false_intro closed, isOpen.listening⟩

theorem Open.input (isOpen : Open messages events preview) (setup : Setup σ) (input : Input σ) :
    Open (messages ∧ input ≠ .shutdown) (events ∧ input ≠ .eventsClosed)
      (preview.step setup input) := by
  by_cases ends : input = .shutdown
  · subst ends
    exact (open_shutdown setup isOpen).congr (by simp) (by simp)
  · have life := serving_input setup preview ends
    by_cases closes : input = .eventsClosed
    · subst closes
      have deaf : (preview.step setup .eventsClosed).listening = false :=
        listening_closeEvents preview
      refine ⟨?_, by simp [deaf]⟩
      rw [life, isOpen.serving]
      simp
    · exact (isOpen.same life (listening_step setup preview closes)).congr (by simp [ends])
        (by simp [closes])

theorem Open.move (isOpen : Open messages events preview) (setup : Setup σ) (move : Move σ) :
    Open (messages ∧ move ≠ .input .shutdown) (events ∧ move ≠ .input .eventsClosed)
      (preview.move setup move) := by
  have lasting := lasting_open setup messages events
  cases move with
  | input input =>
      exact ((lasting.letReport isOpen input).input setup input).congr (by simp) (by simp)
  | work | poll | listen | tick | workOn | pollOn | listenOn | wait =>
      exact (lasting.move isOpen (by simp)).congr (by simp) (by simp)

theorem Open.play (isOpen : Open messages events preview) (setup : Setup σ)
    (moves : List (Move σ)) :
    Open (messages ∧ ∀ move ∈ moves, move ≠ .input .shutdown)
      (events ∧ ∀ move ∈ moves, move ≠ .input .eventsClosed) (preview.play setup moves) := by
  induction moves generalizing preview messages events with
  | nil => exact isOpen.congr (by simp) (by simp)
  | cons move rest ih =>
      refine (ih (isOpen.move setup move)).congr ?_ ?_
      · rw [List.forall_mem_cons, and_assoc]
      · rw [List.forall_mem_cons, and_assoc]

theorem lasting_idle (setup : Setup σ) : Lasting setup fun preview => preview.queued = [] where
  poll idle := idle
  tick idle := idle
  listen idle := by rw [(forwards_listen _).queued, idle, List.drop_nil]
  advance := by
    intro preview next idle advance
    cases advance with
    | moves | takes | takesLast | retires | resumes => exact idle
    | stops => rfl

theorem queued_workOn (setup : Setup σ) (finished : preview.isOver = true) :
    (preview.workOn setup).queued = [] := by
  have closing : preview.life = .closing := by
    unfold isOver at finished
    split at finished <;> simp_all
  have stops : preview.advance? setup = some preview.stop := by
    unfold isOver at finished
    unfold advance?
    split at finished <;> simp_all
  obtain ⟨count, effort⟩ : ∃ count, preview.effort = count + 1 := by
    refine ⟨preview.effort - 1, ?_⟩
    simp only [Preview.effort, closing, if_true]
    omega
  rw [workOn, effort, advanceUpTo_succ stops]
  exact holds_advanceUpTo (lasting_idle setup).advance rfl count

theorem queued_settle (setup : Setup σ) (preview : Preview σ) :
    (preview.settle setup).queued = [] := by
  have turns := (lasting_idle setup).turns
  have listened : preview.listenOn.queued = [] := by
    rw [(forwards_listenOn preview).queued, List.drop_length]
  unfold settle
  split
  next finished => exact turns.pollOn (queued_workOn setup finished)
  next =>
      simp only
      split
      · exact turns.workOn (turns.pollOn listened)
      · exact turns.pollOn (turns.workOn listened)

theorem queued_wait (setup : Setup σ) (preview : Preview σ) (milliseconds : Nat) :
    (preview.wait setup milliseconds).queued = [] :=
  (lasting_idle setup).turns.pass (queued_settle setup preview) milliseconds

/-- A run from the first preview to the second, and the same run without the runtime, to the
third. -/
structure Undisturbed (setup : Setup σ) (reply : String → Except Failure Json)
    (moves : List (Move σ)) (initial run spared : Preview σ) : Prop where
  serving : run.life = .serving ↔ ∀ move ∈ moves, move ≠ .input .shutdown
  listening : run.listening = true ↔
    initial.listening = true ∧ run.life ≠ .stopped ∧ ∀ move ∈ moves, move ≠ .input .eventsClosed
  answered : ∀ command, Answers reply run command
    (run.move setup (.input (.message (.evaluate command))))
  answers : answersIn run.session.trace = gathered setup (answer reply) initial moves
  /-- In the order in which they were raised, and each of them once. -/
  forwarded : ∃ done lost,
    saidBy .listener run.session.trace = done.flatMap LivePreview.forwarded ∧
      gathered setup heard initial moves = done ++ run.queued ++ lost ∧
      (run.life ≠ .stopped → lost = [])
  /-- A turn of the listener, whatever the worker does, leaves none of them to be forwarded. -/
  forwards : Forwards run.queued.length run run.listenOn
  waits : ∀ milliseconds, (run.wait setup milliseconds).queued = []
  others : seen spared.session.trace = ofCompiles run.session.trace
  same : spared = { run with session := spared.session, listener := spared.listener } ∧
    spared.session.present = run.session.present ∧ spared.listening = run.listening

end Preview

namespace Headless

/-- A host that answers a command with the command itself. -/
def echoing : Backend Headless :=
  { backend with command := fun command host => ⟨host, .ok (.string command), []⟩ }

theorem aloof_echoing : echoing.Aloof fun command => .ok (.string command) :=
  ⟨fun _ _ => rfl, fun _ _ => rfl⟩

/-- An event that is raised just before the end is lost. -/
example :
    saidBy .listener
      ((Preview.start .default true .info 0 fresh).play setup
        [.input (.raised (.console [⟨"log", []⟩])), .input .shutdown,
          .workOn]).session.trace = [] :=
  rfl

end Headless

end LivePreview
