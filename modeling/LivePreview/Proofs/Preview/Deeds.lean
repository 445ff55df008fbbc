import LivePreview.Proofs.Preview.Runs

namespace LivePreview

/-! What a preview does, as far as its requests and its worker are concerned.  Every step of a
run, of whatever kind, is one of these deeds. -/

/-- What parts other than the worker do at any time. -/
def Event.IsAside : Event → Prop
  | .sent (.action _) | .sent (.console _) | .sent (.resize _) | .called .reload => True
  | _ => False

/-- Done beside the worker, at any time. -/
def Stamped.IsAside (stamped : Stamped) : Prop :=
  (∀ task, stamped.part ≠ .worker task) ∧ stamped.event.IsAside

def Input.request? : Input σ → Option CompileRequest
  | .message (.compile request) => some request
  | _ => none

namespace Preview

open LivePreview.Cycle LivePreview.Session

variable {σ : Type u} {setup : Setup σ} {holds : Preview σ → Prop} {preview next : Preview σ}

/-- The request is the one that is taken in. -/
inductive Deed (setup : Setup σ) (before : Preview σ) : Option CompileRequest → Preview σ → Prop
  | aside {session : Session σ} {listener : Option Listener} {pollsFirst : Bool}
      (events : List Stamped)
      (adds : seen session.trace = seen before.session.trace ++ events)
      (aside : ∀ stamped ∈ events, stamped.IsAside)
      (firstLoad : session.firstLoad = before.session.firstLoad) :
      Deed setup before none { before with session, listener, pollsFirst }
  | watches {watch next : Watch} {slot : Debounce CompileRequest}
      (waiting : before.worker.labour = .waiting watch)
      (pending : slot.pending = before.slot.pending) :
      Deed setup before none ({ before with slot }.become (.waiting next))
  | accepts {session : Session σ} {slot : Debounce CompileRequest} (request : CompileRequest)
      (serving : before.life = .serving) (pending : slot.pending = some request)
      (adds : (before.session.handTo .caller).Adds session [.accepted request])
      (firstLoad : session.firstLoad = before.session.firstLoad) :
      Deed setup before (some request) { before with session, slot }
  | refreshes {session : Session σ} {slot : Debounce CompileRequest}
      (serving : before.life = .serving) (empty : slot.pending = none)
      (adds : (before.session.handTo .caller).Adds session [.called .reload, .sent .refresh])
      (firstLoad : session.firstLoad = true) :
      Deed setup before none
        { before with
          session
          slot
          worker := ⟨before.tasks + 1, .waiting .looking⟩
          tasks := before.tasks + 1 }
  | begins {watch : Watch} {slot : Debounce CompileRequest} (request : CompileRequest)
      (waiting : before.worker.labour = .waiting watch)
      (pending : before.slot.pending = some request) (empty : slot.pending = none) :
      Deed setup before none (before.takeUp setup request slot)
  | resumes {wake : Nat} {stage : Stage} (busy : before.worker.labour = .busy wake stage) :
      Deed setup before none (before.continueWith (resume setup stage before.workerSession))
  | closes (serving : before.life = .serving) :
      Deed setup before none { before with life := .closing }
  | retires {watch : Watch} {slot : Debounce CompileRequest}
      (waiting : before.worker.labour = .waiting watch) (ending : before.life ≠ .serving)
      (pending : before.slot.pending = none) (empty : slot.pending = none) :
      Deed setup before none ({ before with slot }.become .retired)
  | stops {session : Session σ}
      (idle : before.worker.labour = .retired ∨ ∃ note, before.worker.labour = .dead note)
      (adds : (before.session.handTo .caller).Adds session [])
      (firstLoad : session.firstLoad = before.session.firstLoad) :
      Deed setup before none { before with session, listener := none, life := .stopped }

theorem deed_of_adds {part : Part} {session : Session σ} {events : List Event}
    (adds : (preview.session.handTo part).Adds session events)
    (firstLoad : session.firstLoad = preview.session.firstLoad)
    (beside : ∀ task, part ≠ .worker task) (aside : ∀ event ∈ events, event.IsAside)
    (listener : Option Listener) :
    Deed setup preview none { preview with session, listener } := by
  refine .aside _ adds.seen ?_ firstLoad
  intro stamped member
  obtain ⟨event, among, rfl⟩ := List.mem_map.mp member
  exact ⟨beside, aside event among⟩

theorem deed_nothing (setup : Setup σ) (preview : Preview σ) : Deed setup preview none preview :=
  .aside [] (by simp) (by simp) rfl

theorem deed_tick (setup : Setup σ) (preview : Preview σ) : Deed setup preview none preview.tick :=
  .aside [] (List.append_nil _).symm (by simp) rfl

theorem deed_poll (setup : Setup σ) (preview : Preview σ) :
    Deed setup preview none (preview.poll setup) := by
  have polled := polled_poll setup.document preview.session
  refine .aside _ polled.seen ?_ (firstLoad_of_memory polled.memory)
  intro stamped member
  obtain ⟨height, _, rfl⟩ := List.mem_map.mp member
  exact ⟨by simp, trivial⟩

theorem aside_of_program (program : ProgramEvent) :
    ∀ event ∈ program.message?.toList.map Event.sent, event.IsAside := by
  cases program with
  | error raised => simp [ProgramEvent.message?, Event.IsAside]
  | console log => cases log <;> simp [ProgramEvent.message?, Event.IsAside]

theorem deed_listen (setup : Setup σ) (preview : Preview σ) :
    Deed setup preview none preview.listen := by
  unfold listen
  split
  · exact deed_nothing setup preview
  · exact deed_nothing setup preview
  · have adds : (preview.session.handTo .listener).Adds
        ((preview.session.handTo .listener).log eventsClosedRecord) [] :=
      adds_log _ eventsClosedRecord
    exact deed_of_adds adds (firstLoad_of_memory (memory_log _ _)) (by simp) (by simp) none
  · exact deed_of_adds (adds_raise (preview.session.handTo .listener) _)
      (firstLoad_of_memory (memory_raise _ _)) (by simp) (aside_of_program _) _

theorem adds_stopPolling (session : Session σ) : session.Adds session.stopPolling [] :=
  adds_of_trace_eq rfl rfl rfl

theorem adds_stop (preview : Preview σ) :
    (preview.session.handTo .caller).Adds preview.stop.session [] :=
  (adds_logAll _ preview.worker.obituary).trans
    ((adds_stopPolling _).trans (adds_log _ (.info "sandbox stopped" [])))

theorem Advance.deed (advance : Advance setup preview next) : Deed setup preview none next := by
  cases advance with
  | moves waiting serving turn =>
      exact .watches waiting (by rw [Debounce.slot_of_moved turn])
  | takes waiting serving turn =>
      obtain ⟨pending, rfl, _⟩ := Debounce.turn_ready turn
      exact .begins _ waiting pending rfl
  | takesLast waiting ending pending => exact .begins _ waiting pending rfl
  | retires waiting ending pending => exact .retires waiting ending pending rfl
  | resumes busy awake => exact .resumes busy
  | stops idle closing =>
      exact .stops idle (adds_stop preview) (firstLoad_of_memory
        ((memory_log _ (.info "sandbox stopped" [])).trans (memory_logAll _ _)))

theorem adds_evaluate (setup : Setup σ) (command : String) (preview : Preview σ) :
    ∃ events, (∀ event ∈ events, event.IsAside) ∧
      (preview.session.handTo .caller).Adds (preview.evaluate setup command).session events ∧
      (preview.evaluate setup command).session.firstLoad = preview.session.firstLoad := by
  have answered := adds_take (preview.session.handTo .caller)
    (setup.backend.command command preview.session.host)
  have same := firstLoad_of_memory (memory_take (preview.session.handTo .caller)
    (setup.backend.command command preview.session.host))
  simp only [evaluate, onSession]
  cases consoleEntry? (setup.backend.command command preview.session.host).value with
  | none => exact ⟨[], by simp, answered, same⟩
  | some entry =>
      exact ⟨[.sent (.console [entry])], by simp [Event.IsAside], answered.trans (adds_send _ _),
        same⟩

theorem adds_renewed (session : Session σ) :
    session.Adds { session with firstLoad := true, ready := none } [] :=
  adds_of_trace_eq rfl rfl rfl

theorem adds_restart (preview : Preview σ) :
    preview.session.Adds preview.restart.session [.sent .refresh] :=
  (adds_logAll _ _).trans ((adds_renewed _).trans
    ((adds_log _ (.info "sandbox refreshed" [])).trans (adds_send _ .refresh)))

theorem memory_restart (preview : Preview σ) : preview.restart.session.memory = (true, none) :=
  memory_log _ (.info "sandbox refreshed" [])

/-- The answer to the reload that a refresh begins with, and the session after it. -/
def reloaded (setup : Setup σ) (preview : Preview σ) : Outcome Unit × Session σ :=
  (preview.session.handTo .caller).ask .reload setup.document.reload

theorem adds_reloaded (setup : Setup σ) (preview : Preview σ) :
    (preview.session.handTo .caller).Adds (preview.reloaded setup).2 [.called .reload] :=
  adds_ask _ _ _

theorem refresh_of_returns (returns : (preview.reloaded setup).1.Steady) :
    preview.refresh setup = { preview with session := (preview.reloaded setup).2 }.restart := by
  simp only [refresh]
  rw [← reloaded, returns]

theorem refresh_of_crash {note : Option String}
    (crashes : (preview.reloaded setup).1.crash? = some note) :
    preview.refresh setup = { preview with session := (preview.reloaded setup).2 } := by
  simp only [refresh]
  rw [← reloaded, crashes]

theorem deed_refresh (serving : preview.life = .serving) :
    Deed setup preview none (preview.refresh setup) := by
  have reloads := adds_reloaded setup preview
  cases crash : (preview.reloaded setup).1.crash? with
  | none =>
      have restarts := adds_restart { preview with session := (preview.reloaded setup).2 }
      rw [refresh_of_returns crash]
      exact .refreshes serving rfl (reloads.trans restarts) (congrArg Prod.fst (memory_restart _))
  | some note =>
      rw [refresh_of_crash crash]
      exact deed_of_adds reloads (firstLoad_of_memory (memory_ask _ _ _)) (by simp)
        (by simp [Event.IsAside]) preview.listener

theorem adds_schedule (request : CompileRequest) (preview : Preview σ) :
    (preview.session.handTo .caller).Adds (preview.schedule request).session
      [.accepted request] :=
  (adds_note _ rfl).trans (adds_logAll _ preview.slot.scheduleRecords)

def taken? (preview : Preview σ) (input : Input σ) : Option CompileRequest :=
  if preview.life = .serving then input.request? else none

theorem taken?_of_none {input : Input σ} (empty : input.request? = none) :
    preview.taken? input = none := by
  unfold taken?
  split
  · exact empty
  · rfl

theorem deed_message (serving : preview.life = .serving) (message : Inbound) :
    Deed setup preview (preview.taken? (.message message)) (preview.receive setup message) := by
  simp only [taken?, serving, if_true]
  cases message with
  | compile request =>
      exact .accepts request serving rfl (adds_schedule request preview)
        (firstLoad_of_memory (memory_logAll _ _))
  | refresh => exact deed_refresh serving
  | evaluate command =>
      obtain ⟨events, aside, adds, firstLoad⟩ := adds_evaluate setup command preview
      exact deed_of_adds adds firstLoad (by simp) aside preview.listener

theorem deed_input (setup : Setup σ) (preview : Preview σ) (input : Input σ) :
    Deed setup preview (preview.taken? input) (preview.step setup input) := by
  cases input with
  | message message =>
      simp only [step]
      split
      next serving => exact deed_message serving message
      next deaf =>
          simp only [taken?, deaf, if_false]
          exact deed_nothing setup preview
  | raised event =>
      rw [taken?_of_none rfl]
      simp only [step, enqueue]
      split
      · exact .aside [] (by simp) (by simp) rfl
      · exact deed_nothing setup preview
      · exact deed_nothing setup preview
  | eventsClosed =>
      rw [taken?_of_none rfl]
      exact .aside [] (List.append_nil _).symm (by simp) rfl
  | hostChanged change =>
      rw [taken?_of_none rfl]
      exact .aside [] (by simp) (by simp) rfl
  | shutdown =>
      rw [taken?_of_none rfl]
      simp only [step]
      split
      next serving => exact .closes serving
      next => exact deed_nothing setup preview

/-- What no deed ends holds along every run. -/
theorem upheld_of_deed
    (kept : ∀ {preview next given}, holds preview → Deed setup preview given next → holds next) :
    Upheld setup holds where
  advance start advance := kept start advance.deed
  poll start := kept start (deed_poll setup _)
  listen start := kept start (deed_listen setup _)
  tick start := kept start (deed_tick setup _)
  input start _ := kept start (deed_input setup _ _)

/-- A session with its poller, before anything happens. -/
def unbegun (settings : Settings) (level : LogLevel) (host : σ) : Session σ :=
  { Session.start host level with poller := settings.pollInterval.map fun every => ⟨every, 0⟩ }

theorem session_start (settings : Settings) (listening : Bool) (level : LogLevel) (tasks : Nat)
    (host : σ) :
    (start settings listening level tasks host).session =
      ((unbegun settings level host).send .initialized).log (.info "sandbox started"
        [("debounce_ms", decimal settings.window),
          ("default_preset", settings.defaultPreset.name)]) := by
  unfold start unbegun
  cases settings.pollInterval <;> rfl

theorem adds_start (settings : Settings) (listening : Bool) (level : LogLevel) (tasks : Nat)
    (host : σ) :
    (unbegun settings level host).Adds (start settings listening level tasks host).session
      [.sent .initialized] := by
  rw [session_start]
  exact (adds_send _ .initialized).trans (adds_log _ _)

theorem seen_start (settings : Settings) (listening : Bool) (level : LogLevel) (tasks : Nat)
    (host : σ) :
    seen (start settings listening level tasks host).session.trace =
      [⟨0, .caller, .sent .initialized⟩] :=
  (adds_start settings listening level tasks host).seen

end Preview

end LivePreview
