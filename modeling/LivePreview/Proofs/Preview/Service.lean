import LivePreview.Proofs.Cycle.Idling
import LivePreview.Proofs.Preview.Progress
import LivePreview.Proofs.Preview.Requests

namespace LivePreview

namespace Preview

open LivePreview.Cycle

variable {σ : Type u} {setup : Setup σ} {preview next : Preview σ}

/-! Every cycle comes to its idle status and every request to its fate, unless a call that nothing
guards crashes the worker. -/

def Crashed (preview : Preview σ) : Prop :=
  ∃ note, preview.worker.labour = .dead note

/-- What has become of requests, in a preview that has nothing more to do. -/
structure Served (setup : Setup σ) (requests : List CompileRequest) (preview : Preview σ) :
    Prop where
  idling : Idling preview.Crashed (seen preview.session.trace)
  settled : ¬ preview.Crashed → Settled requests preview.session.trace
  steady : setup.Steady → ¬ preview.Crashed

/-- What holds of every preview, as far as its worker is concerned. -/
structure Employed (setup : Setup σ) (preview : Preview σ) : Prop where
  kept : preview.Kept
  booked : preview.Booked
  alert : preview.Alert
  accounted : setup.Steady → preview.Accounted

theorem upheld_employed (setup : Setup σ) : Upheld setup (Employed setup) where
  advance employed advance :=
    { kept := (upheld_kept setup).advance employed.kept advance
      booked := (upheld_booked setup).advance employed.booked advance
      alert := advance.alert employed.alert
      accounted := fun steady =>
        (upheld_accounted steady).advance (employed.accounted steady) advance }
  poll employed :=
    { kept := (upheld_kept setup).poll employed.kept
      booked := (upheld_booked setup).poll employed.booked
      alert := (upheld_alert setup).poll employed.alert
      accounted := fun steady => (upheld_accounted steady).poll (employed.accounted steady) }
  listen employed :=
    { kept := (upheld_kept setup).listen employed.kept
      booked := (upheld_booked setup).listen employed.booked
      alert := (upheld_alert setup).listen employed.alert
      accounted := fun steady => (upheld_accounted steady).listen (employed.accounted steady) }
  tick employed :=
    { kept := (upheld_kept setup).tick employed.kept
      booked := (upheld_booked setup).tick employed.booked
      alert := (upheld_alert setup).tick employed.alert
      accounted := fun steady => (upheld_accounted steady).tick (employed.accounted steady) }
  input employed ready :=
    { kept := (upheld_kept setup).input employed.kept ready
      booked := (upheld_booked setup).input employed.booked ready
      alert := (upheld_alert setup).input employed.alert ready
      accounted := fun steady =>
        (upheld_accounted steady).input (employed.accounted steady) ready }

theorem employed_start (setup : Setup σ) (settings : Settings) (listening : Bool)
    (level : LogLevel) (tasks : Nat) (host : σ) :
    (start settings listening level tasks host).Employed setup where
  kept := kept_start settings listening level tasks host
  booked := (accounted_start settings listening level tasks host).toBooked
  alert := alert_start settings listening level tasks host
  accounted := fun _ => accounted_start settings listening level tasks host

theorem Employed.served (employed : preview.Employed setup) (ease : preview.AtEase) :
    preview.Served setup preview.taken := by
  have replays := employed.booked.replays
  have retired := employed.booked.retired
  obtain ⟨standing, stands, orderly⟩ := employed.kept.orderly
  have steady (safe : setup.Steady) : ¬ preview.Crashed := by
    rintro ⟨note, dead⟩
    have sound := (employed.accounted safe).sound
    rw [dead] at sound
    exact sound
  unfold AtEase at ease
  cases labour : preview.worker.labour with
  | waiting watch =>
      rw [labour] at ease stands
      subst stands
      rw [ease] at replays
      exact ⟨orderly.idling fun busy => (busy rfl).elim,
        fun _ => settled_of_resting orderly replays, steady⟩
  | retired =>
      rw [labour] at stands
      subst stands
      rw [(retired labour).2] at replays
      exact ⟨orderly.idling fun busy => (busy rfl).elim,
        fun _ => settled_of_resting orderly replays, steady⟩
  | dead note =>
      have crashed : preview.Crashed := ⟨note, labour⟩
      exact ⟨orderly.idling fun _ => crashed, fun alive => (alive crashed).elim, steady⟩
  | busy wake stage =>
      rw [labour] at ease
      exact ease.elim

theorem Booked.atEase (booked : preview.Booked) (stopped : preview.life = .stopped) :
    preview.AtEase := by
  rcases booked.ended stopped with retired | ⟨note, dead⟩
  · simp [AtEase, retired]
  · simp [AtEase, dead]

/-- Whatever happens before, and in whatever order: left alone for long enough, or shut down, a
preview has served its requests. -/
theorem served_play (setup : Setup σ) (settings : Settings) (listening : Bool) (level : LogLevel)
    (tasks : Nat) (host : σ) (moves : List (Move σ)) :
    let played := (start settings listening level tasks host).play setup moves
    (∃ enough, ∀ more,
      (played.wait setup (enough + more)).Served setup (offered moves)) ∧
      (played.shutdown setup).Served setup (offered moves) := by
  intro played
  have upheld := upheld_employed setup
  have employed : played.Employed setup :=
    upheld.play (employed_start setup settings listening level tasks host) moves
  have taken : played.taken = offered moves :=
    taken_played setup settings listening level tasks host moves
  refine ⟨?_, ?_⟩
  · obtain ⟨enough, ease⟩ := exists_wait_atEase setup employed.alert
    refine ⟨enough, fun more => ?_⟩
    have served := (upheld.turns.wait employed (enough + more)).served (ease more)
    rwa [taken_wait, taken] at served
  · have ended := upheld.shutdown employed
    have stopped : (played.shutdown setup).life = .stopped := life_shutdown employed.alert.attended
    have served := ended.served (ended.booked.atEase stopped)
    rwa [taken_shutdown, taken] at served

end Preview

namespace Headless

open LivePreview.Cycle

/-- A host whose developer tools crash while they load. -/
def toolless : Setup Headless :=
  { setup with
    document :=
      { document with
        loadDevTools := fun _ host =>
          ⟨host, ⟨0, .crashed (some "devtools bundle missing")⟩, []⟩ } }

def requestTools : CompileRequest :=
  { CompileRequest.ofTemplate none with devTools := some .latest }

def stranded : Preview Headless :=
  ((Preview.start ⟨0, 0, .react, .off⟩ false .off 0 fresh).play toolless
    [.input (.message (.compile requestTools)), .wait 0,
      .input (.message (.compile (.ofTemplate none))), .wait 0]).shutdown toolless

/-- Nothing guards the loading of the developer tools.  A cycle in which they crash never idles, and
what is accepted after it never begins, not even when the preview is shut down. -/
theorem not_idling_stranded :
    stranded.life = .stopped ∧ ¬ Idling False (seen stranded.session.trace) ∧
      Moment.fates (moments stranded.session.trace) =
        [(requestTools, .started), (.ofTemplate none, .pending)] := by
  let cycle : List Stamped :=
    [.called (.configureFiles false), .sent (.start true), .sent (.status .initializing),
      .called .resetModules, .called (.loadDevTools .latest)].map (Stamped.mk 0 (.worker 1)) ++
      [⟨0, .caller, .accepted (.ofTemplate none)⟩]
  have split : seen stranded.session.trace =
      [⟨0, .caller, .sent .initialized⟩, ⟨0, .caller, .accepted requestTools⟩] ++
        ⟨0, .worker 1, .begun requestTools⟩ :: cycle := rfl
  have goesOn : ∀ other ∈ cycle, ¬ Turns other := by simp [cycle, Turns, Stamped.IsRefresh]
  have said : saidBy (.worker 1) cycle = [.start true, .status .initializing] := rfl
  refine ⟨rfl, fun idling => ?_, rfl⟩
  obtain ⟨earlier, idles, _⟩ := idling.idles_of_last split rfl goesOn
  have last := congrArg List.getLast? (said.symm.trans idles)
  simp at last

end Headless

end LivePreview
