import LivePreview.Proofs.Cycle.Orderly
import LivePreview.Proofs.Session.Said

namespace LivePreview

namespace Cycle

variable {task : Nat} {standing : Standing} {stamped : Stamped} {trace : List Stamped}

/-- A part says that it is idle once, and says nothing more. -/
def Idles (part : Part) (cycle : List Stamped) : Prop :=
  ∃ said, saidBy part cycle = said ++ [.status .idle] ∧ .status .idle ∉ said

/-- The start of another cycle, or a refresh. -/
def Turns (stamped : Stamped) : Prop :=
  stamped.IsRefresh ∨ ∃ request, stamped.event = .begun request

/-- Every cycle idles before the next one begins, unless a refresh cuts it off.  The last cycle of
all does not idle if a crash was its end. -/
def Idling (crashed : Prop) (trace : List Stamped) : Prop :=
  ∀ {before cycle after : List Stamped} {first : Stamped} {request : CompileRequest},
    trace = before ++ first :: (cycle ++ after) → first.event = .begun request →
    (∀ other ∈ cycle, ¬ Turns other) → (∀ other ∈ after.head?, Turns other) →
      Idles first.part cycle ∨ .status .idle ∉ saidBy first.part cycle ∧
        ((∃ refresh ∈ after.head?, refresh.IsRefresh) ∨ after = [] ∧ crashed)

theorem saidBy_snoc (part : Part) (cycle : List Stamped) (stamped : Stamped) :
    saidBy part (cycle ++ [stamped]) = saidBy part cycle ++ saidBy part [stamped] :=
  List.filterMap_append

theorem saidBy_own {part : Part} (same : stamped.part = part) :
    saidBy part [stamped] = stamped.event.message?.toList := by
  cases said : stamped.event.message? <;> simp [saidBy, same, said]

theorem saidBy_other {part : Part} (other : stamped.part ≠ part) : saidBy part [stamped] = [] := by
  simp [saidBy, other]

theorem not_idle_snoc {part : Part} {cycle : List Stamped} (same : stamped.part = part)
    (busy : .status .idle ∉ saidBy part cycle) (goesOn : ¬ stamped.IsIdle) :
    .status .idle ∉ saidBy part (cycle ++ [stamped]) := by
  rw [saidBy_snoc, saidBy_own same, List.mem_append, Option.mem_toList]
  rintro (earlier | last)
  · exact busy earlier
  · cases event : stamped.event <;> simp_all [Event.message?, Stamped.IsIdle]

/-- A worker rests after a cycle just if it has said that it is idle. -/
theorem Orderly.idles_or_busy {before cycle : List Stamped} {first : Stamped}
    {request : CompileRequest} (orderly : Orderly task standing (before ++ first :: cycle))
    (begins : first.event = .begun request) (goesOn : ∀ other ∈ cycle, ¬ Turns other) :
    first.part = .worker task ∧
      (standing = .resting ∧ Idles first.part cycle ∨
        standing ≠ .resting ∧ .status .idle ∉ saidBy first.part cycle) := by
  induction cycle using List.reverseRecOn generalizing task standing with
  | nil =>
      obtain ⟨_, _, _, follows⟩ := orderly.last
      obtain ⟨_, rfl, part⟩ := follows.begun_cases begins
      exact ⟨part, .inr ⟨by simp, by simp [saidBy]⟩⟩
  | append_singleton rest stamped ih =>
      rw [← List.cons_append, ← List.append_assoc] at orderly
      obtain ⟨number, stands, earlier, follows⟩ := orderly.last
      obtain ⟨part, course⟩ := ih earlier fun other member => goesOn other (by simp [member])
      have onward : ¬ Turns stamped := goesOn stamped (by simp)
      have busy (within : stands ≠ .resting) : .status .idle ∉ saidBy first.part rest := by
        rcases course with ⟨rests, _⟩ | ⟨_, busy⟩
        · exact (within rests).elim
        · exact busy
      cases follows with
      | beside beside =>
          have other : stamped.part ≠ first.part := fun same => beside.part _ (same.trans part)
          have same : saidBy first.part (rest ++ [stamped]) = saidBy first.part rest := by
            rw [saidBy_snoc, saidBy_other other, List.append_nil]
          exact ⟨part, by simpa only [Idles, same] using course⟩
      | begun time later => exact (onward (.inr ⟨later, rfl⟩)).elim
      | refreshed => exact (onward (.inl rfl)).elim
      | configured time hasResolver =>
          exact ⟨part, .inr ⟨by simp, not_idle_snoc part.symm (busy (by simp)) nofun⟩⟩
      | start time firstLoad =>
          exact ⟨part, .inr ⟨by simp, not_idle_snoc part.symm (busy (by simp)) nofun⟩⟩
      | inner time inner =>
          exact ⟨part, .inr ⟨by simp,
            not_idle_snoc part.symm (busy (by simp)) (not_idle_of_inner inner)⟩⟩
      | idle time =>
          refine ⟨part, .inl ⟨rfl, saidBy first.part rest, ?_, busy (by simp)⟩⟩
          rw [saidBy_snoc, saidBy_own part.symm]
          rfl

theorem Idling.idles_of_last {before cycle : List Stamped} {first : Stamped}
    {request : CompileRequest} (idling : Idling False trace)
    (split : trace = before ++ first :: cycle) (begins : first.event = .begun request)
    (goesOn : ∀ other ∈ cycle, ¬ Turns other) : Idles first.part cycle := by
  have whole : trace = before ++ first :: (cycle ++ []) := by rw [split, List.append_nil]
  rcases idling whole begins goesOn (by simp) with idles | ⟨_, refreshed | ⟨_, never⟩⟩
  · exact idles
  · simp at refreshed
  · exact never.elim

/-- In an orderly trace a cycle is given up for a refresh only, or for good. -/
theorem Orderly.idling (orderly : Orderly task standing trace)
    (given : standing ≠ .resting → crashed) : Idling crashed trace := by
  rintro before cycle after first request rfl begins goesOn turns
  cases after with
  | nil =>
      rw [List.append_nil] at orderly
      rcases (orderly.idles_or_busy begins goesOn).2 with ⟨_, idles⟩ | ⟨busy, silent⟩
      · exact .inl idles
      · exact .inr ⟨silent, .inr ⟨rfl, given busy⟩⟩
  | cons other rest =>
      rw [← List.cons_append, ← List.append_assoc] at orderly
      obtain ⟨number, stands, _, _, earlier, follows, _⟩ := orderly.last_of_append
      rcases (earlier.idles_or_busy begins goesOn).2 with ⟨_, idles⟩ | ⟨busy, silent⟩
      · exact .inl idles
      · refine .inr ⟨silent, .inl ⟨other, rfl, ?_⟩⟩
        rcases turns other rfl with refresh | ⟨later, begun⟩
        · exact refresh
        · exact (busy (follows.begun_cases begun).1).elim

end Cycle

end LivePreview
