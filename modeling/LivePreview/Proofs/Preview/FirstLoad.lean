import LivePreview.Proofs.Cycle.FirstLoad
import LivePreview.Proofs.Preview.Conduct

namespace LivePreview

namespace Preview

open LivePreview.Cycle LivePreview.Session

variable {σ : Type u} {setup : Setup σ} {preview next : Preview σ}

def Pacing (preview : Preview σ) : Prop :=
  Paced preview.session.firstLoad (seen preview.session.trace)

theorem calm_of_aside {event : Event} (aside : event.IsAside) :
    IsPlain event ∧ EndsCompile event = false := by
  unfold Event.IsAside at aside
  split at aside
  · exact ⟨trivial, rfl⟩
  · exact ⟨trivial, rfl⟩
  · exact ⟨trivial, rfl⟩
  · exact ⟨trivial, rfl⟩
  · exact aside.elim

theorem pacing_deed (pacing : preview.Pacing) (deed : Deed setup preview given next) :
    next.Pacing := by
  unfold Pacing at pacing ⊢
  cases deed with
  | aside events adds aside firstLoad =>
      simp only [adds, firstLoad]
      exact pacing.append_calm fun stamped member => calm_of_aside (aside stamped member).2
  | watches | closes | retires => exact pacing
  | accepts request serving pending adds firstLoad =>
      simp only [adds.seen, firstLoad]
      exact pacing.append_calm (by simp [stamp, IsPlain, EndsCompile])
  | refreshes serving empty adds firstLoad =>
      simp only [adds.seen, firstLoad]
      have reloads : Paced preview.session.firstLoad
          (seen preview.session.trace ++ [⟨preview.session.now, .caller, .called .reload⟩]) :=
        pacing.append_calm (by simp [IsPlain, EndsCompile])
      have refreshed := reloads.single ⟨preview.session.now, .caller, .sent .refresh⟩
        (by rintro (_ | _) <;> simp [announcement])
      rwa [List.append_assoc] at refreshed
  | begins request => exact paced_begin setup request pacing
  | @resumes wake stage busy =>
      have before : Paced preview.workerSession.firstLoad (seen preview.workerSession.trace) :=
        pacing
      exact paced_step before (lawful_resume setup stage preview.workerSession)
  | stops idle adds firstLoad =>
      simp only [adds.seen, firstLoad]
      exact pacing.append_calm (by simp)

theorem upheld_pacing (setup : Setup σ) : Upheld setup Pacing :=
  upheld_of_deed pacing_deed

theorem pacing_start (settings : Settings) (listening : Bool) (level : LogLevel)
    (tasks : Nat) (host : σ) : (start settings listening level tasks host).Pacing := by
  have fresh : (start settings listening level tasks host).session.firstLoad = true := by
    rw [session_start]
    exact firstLoad_of_memory (memory_log _ _)
  unfold Pacing
  rw [seen_start, fresh]
  exact Paced.nil.append_calm (by simp [IsPlain, EndsCompile])

/-- Whatever happens, and in whatever order, a preview knows which of its cycles are first loads. -/
theorem firstLoads_play (setup : Setup σ) (settings : Settings) (listening : Bool)
    (level : LogLevel) (tasks : Nat) (host : σ) (moves : List (Move σ)) :
    let played := (start settings listening level tasks host).play setup moves
    FirstLoads (seen played.session.trace) ∧
      FirstLoads (seen (played.shutdown setup).session.trace) := by
  intro played
  have kept : played.Kept :=
    (upheld_kept setup).play (kept_start settings listening level tasks host) moves
  have pacing : played.Pacing :=
    (upheld_pacing setup).play (pacing_start settings listening level tasks host) moves
  obtain ⟨_, _, orderly⟩ := kept.orderly
  obtain ⟨_, _, orderlyEnd⟩ := ((upheld_kept setup).shutdown kept).orderly
  exact ⟨pacing.firstLoads orderly, ((upheld_pacing setup).shutdown pacing).firstLoads orderlyEnd⟩

end Preview

end LivePreview
