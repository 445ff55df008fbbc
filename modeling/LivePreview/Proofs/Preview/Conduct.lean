import LivePreview.Proofs.Cycle.Orderly
import LivePreview.Proofs.Preview.Deeds

namespace LivePreview

namespace Preview

open LivePreview.Cycle LivePreview.Session

variable {σ : Type u} {setup : Setup σ} {preview next : Preview σ}

/-! A preview keeps its trace orderly: where the worker stands is what it does. -/

def Stands : Labour → Standing → Prop
  | .busy _ _, standing => standing = .within
  | .dead _, standing => standing ≠ .resting
  | .waiting _, standing | .retired, standing => standing = .resting

structure Kept (preview : Preview σ) : Prop where
  orderly : ∃ standing, Stands preview.worker.labour standing ∧
    Orderly preview.worker.task standing (seen preview.session.trace)
  numbered : preview.worker.task ≤ preview.tasks

theorem beside_of_event {time : Nat} {part : Part} {event : Event}
    (beside : ∀ task, part ≠ .worker task) (start : ∀ firstLoad, event ≠ .sent (.start firstLoad))
    (idle : event ≠ .sent (.status .idle)) (goesOn : event ≠ .sent .refresh)
    (begun : ∀ request, event ≠ .begun request)
    (called : ∀ call, event = .called call → call = .reload) :
    (⟨time, part, event⟩ : Stamped).IsBeside where
  part := beside
  start := fun ⟨firstLoad, starts⟩ => start firstLoad starts
  idle := idle
  goesOn := goesOn
  begun := begun
  called := called

theorem beside_of_aside {stamped : Stamped} (aside : stamped.IsAside) : stamped.IsBeside := by
  obtain ⟨time, part, event⟩ := stamped
  obtain ⟨beside, aside⟩ := aside
  refine beside_of_event beside ?_ ?_ ?_ ?_ ?_
  · rintro firstLoad rfl
    exact aside
  · rintro rfl
    exact aside
  · rintro rfl
    exact aside
  · rintro request rfl
    exact aside
  · rintro call rfl
    cases call with
    | reload => rfl
    | configureFiles | resetModules | load | build | evaluate | replaceDocument | loadDevTools =>
        exact aside.elim

theorem stands_after (progress : Progress) : Stands (.after progress) (standingAfter progress) := by
  cases progress with
  | asleep wake stage => rfl
  | ended => rfl
  | crashed note => simp [Labour.after, Stands, standingAfter]

theorem orderly_step {session : Session σ} {step : Progress × Session σ}
    (orderly : Orderly task .within (seen session.trace)) (part : session.part = .worker task)
    (lawful : Lawful safe bound session step) :
    Orderly task (standingAfter step.1) (seen step.2.trace) := by
  obtain ⟨inner, adds, within⟩ := lawful.adds
  have longer := orderly.append_step within step.1 session.now
  rw [adds.seen]
  rwa [← part] at longer

theorem orderly_begin (setup : Setup σ) (request : CompileRequest) {session : Session σ}
    (orderly : Orderly task .resting (seen session.trace)) (part : session.part = .worker task) :
    ∃ standing, Stands (.after (begin setup request session).1) standing ∧
      Orderly task standing (seen (begin setup request session).2.trace) := by
  have adds := adds_configured setup request session
  have configured := orderly.append_configured request session.now
  rw [← part] at configured
  change Orderly task .opening (_ ++ List.map session.stamp _) at configured
  rw [← adds.seen] at configured
  rcases begin_cases setup request session with ⟨note, crashed, _⟩ | announced
  · rw [crashed]
    exact ⟨.opening, by simp [Labour.after, Stands], configured⟩
  · rw [announced]
    have part := adds.part.trans part
    generalize (Cycle.configured setup request session).2 = session at configured part
    have announces := adds_announced setup session
    have started := configured.append_announcement session.firstLoad session.now
    rw [← part] at started
    change Orderly task .within (_ ++ List.map session.stamp _) at started
    rw [← announces.seen] at started
    exact ⟨_, stands_after _, orderly_step started (announces.part.trans part)
      (lawful_announce setup request session)⟩

theorem kept_deed (kept : preview.Kept) (deed : Deed setup preview given next) : next.Kept := by
  obtain ⟨⟨standing, stands, orderly⟩, numbered⟩ := kept
  have called (event : Event)
      (aside : event = .called .reload ∨ ∃ request, event = .accepted request) :
      Orderly preview.worker.task standing
        (seen preview.session.trace ++ [⟨preview.session.now, .caller, event⟩]) := by
    refine orderly.snoc (.beside ?_)
    rcases aside with rfl | ⟨request, rfl⟩ <;>
      exact beside_of_event (by simp) (by simp) (by simp) (by simp) (by simp) (by simp)
  cases deed with
  | aside events adds aside =>
      refine ⟨⟨standing, stands, ?_⟩, numbered⟩
      simp only [adds]
      exact orderly.append_beside fun stamped member => beside_of_aside (aside stamped member)
  | watches waiting pending =>
      rw [waiting] at stands
      exact ⟨⟨standing, stands, orderly⟩, numbered⟩
  | accepts request serving pending adds =>
      refine ⟨⟨standing, stands, ?_⟩, numbered⟩
      simp only [adds.seen]
      exact called (.accepted request) (.inr ⟨request, rfl⟩)
  | refreshes serving empty adds =>
      refine ⟨⟨.resting, rfl, ?_⟩, Nat.le_refl _⟩
      simp only [adds.seen]
      have started := (called (.called .reload) (.inl rfl)).snoc
        (.refreshed preview.session.now (Nat.lt_add_one_of_le numbered))
      rwa [List.append_assoc] at started
  | @begins watch slot request waiting pending empty =>
      rw [waiting] at stands
      subst stands
      refine ⟨?_, numbered⟩
      have before : Orderly preview.worker.task .resting (seen preview.workerSession.trace) :=
        orderly
      exact orderly_begin setup request before rfl
  | @resumes wake stage busy =>
      rw [busy] at stands
      subst stands
      refine ⟨?_, numbered⟩
      have before : Orderly preview.worker.task .within (seen preview.workerSession.trace) :=
        orderly
      exact ⟨_, stands_after _,
        orderly_step before rfl (lawful_resume setup stage preview.workerSession)⟩
  | closes serving => exact ⟨⟨standing, stands, orderly⟩, numbered⟩
  | retires waiting ending pending empty =>
      rw [waiting] at stands
      exact ⟨⟨standing, stands, orderly⟩, numbered⟩
  | stops idle adds =>
      refine ⟨⟨standing, stands, ?_⟩, numbered⟩
      rw [adds.seen, List.map_nil, List.append_nil]
      exact orderly

theorem upheld_kept (setup : Setup σ) : Upheld setup Kept :=
  upheld_of_deed kept_deed

theorem kept_start (settings : Settings) (listening : Bool) (level : LogLevel)
    (tasks : Nat) (host : σ) : (start settings listening level tasks host).Kept := by
  refine ⟨⟨.resting, rfl, ?_⟩, Nat.le_refl _⟩
  rw [seen_start]
  refine (Orderly.nil _).append_beside ?_
  rintro stamped member
  rw [List.mem_singleton.mp member]
  exact beside_of_event (by simp) (by simp) (by simp) (by simp) (by simp) (by simp)

/-- Whatever happens, and in whatever order, at most one cycle shows at a time, and a refresh cuts
it off. -/
theorem conduct_play (setup : Setup σ) (settings : Settings) (listening : Bool) (level : LogLevel)
    (tasks : Nat) (host : σ) (moves : List (Move σ)) :
    let played := (start settings listening level tasks host).play setup moves
    Conduct (seen played.session.trace) ∧
      Conduct (seen (played.shutdown setup).session.trace) := by
  intro played
  have kept : played.Kept :=
    (upheld_kept setup).play (kept_start settings listening level tasks host) moves
  obtain ⟨_, _, orderly⟩ := kept.orderly
  obtain ⟨_, _, orderlyEnd⟩ := ((upheld_kept setup).shutdown kept).orderly
  exact ⟨orderly.conduct, orderlyEnd.conduct⟩

end Preview

end LivePreview
