import LivePreview.Proofs.Debounce.Turns
import LivePreview.Proofs.Session.Alike

namespace LivePreview

/-! Two slots that count from different numbers and at different times.  Their consumers take the
same turns, but for a signal that one of them has kept. -/

def Watch.later (apart : Apart) : Watch → Watch
  | .looking => .looking
  | .listening => .listening
  | .sleeping generation deadline =>
    .sleeping (generation + apart.offset) (deadline + apart.delay)

namespace Debounce

variable {α : Type u} {apart : Apart} {old fresh : Debounce α} {watch : Watch} {now : Nat}

/-- A deadline counts only as long as something is pending. -/
structure Alike (apart : Apart) (old fresh : Debounce α) : Prop where
  window : old.window = fresh.window
  pending : old.pending = fresh.pending
  generation : old.generation = fresh.generation + apart.offset
  deadline : fresh.hasPending = true → old.deadline = fresh.deadline + apart.delay
  waiter : old.signal.waiter = fresh.signal.waiter

theorem Alike.cancel (alike : Alike apart old fresh) :
    Alike apart old.cancel.2 fresh.cancel.2 :=
  ⟨alike.window, rfl, alike.generation, by simp, alike.waiter⟩

theorem waiter_give_congr {first second : Signal} (same : first.waiter = second.waiter) :
    first.give.waiter = second.give.waiter := by
  unfold Signal.give
  rw [same]
  cases second.waiter <;> rfl

theorem Alike.schedule (alike : Alike apart old fresh) (now : Nat) (value : α) :
    Alike apart (old.schedule (now + apart.delay) value).2 (fresh.schedule now value).2 where
  window := alike.window
  pending := rfl
  generation := by
    simp only [Debounce.schedule, alike.generation]
    rw [UInt64.add_assoc, UInt64.add_comm apart.offset, ← UInt64.add_assoc]
  deadline := by
    intro _
    simp only [Debounce.schedule, alike.window]
    omega
  waiter := waiter_give_congr alike.waiter

theorem Alike.leave (alike : Alike apart old fresh) : Alike apart old.leave fresh.leave :=
  ⟨alike.window, alike.pending, alike.generation, alike.deadline, by simp [Debounce.leave]⟩

theorem Alike.signal (alike : Alike apart old fresh) {first second : Signal}
    (same : first.waiter = second.waiter) :
    Alike apart { old with signal := first } { fresh with signal := second } :=
  ⟨alike.window, alike.pending, alike.generation, alike.deadline, same⟩

inductive TurnAlike (apart : Apart) : Turn α → Turn α → Prop
  | ready {old fresh : Debounce α} (value : α) (alike : Alike apart old fresh) :
      TurnAlike apart (.ready value old) (.ready value fresh)
  | moved {old fresh : Debounce α} (watch : Watch) (alike : Alike apart old fresh) :
      TurnAlike apart (.moved old (watch.later apart)) (.moved fresh watch)
  | resting : TurnAlike apart .resting .resting

theorem alike_looking (alike : Alike apart old fresh) (absent : fresh.signal.waiter = .absent)
    (calm : fresh.pending = none → old.signal.kept = false ∧ fresh.signal.kept = false) :
    TurnAlike apart (old.turn (now + apart.delay) .looking) (fresh.turn now .looking) := by
  have absentOld : old.signal.waiter = .absent := alike.waiter.trans absent
  have same := alike.pending
  cases pending : fresh.pending with
  | some value =>
      rw [pending] at same
      have due : old.deadline = fresh.deadline + apart.delay :=
        alike.deadline (by simp [hasPending, pending])
      simp only [Debounce.turn, same, pending, alike.generation, due]
      exact .moved (.sleeping fresh.generation fresh.deadline) alike
  | none =>
      rw [pending] at same
      obtain ⟨keptOld, keptFresh⟩ := calm pending
      simp only [Debounce.turn, Signal.await, same, pending, absentOld, absent, keptOld, keptFresh,
        Bool.false_eq_true, if_false]
      refine .moved .listening ⟨alike.window, rfl, alike.generation, ?_, rfl⟩
      simp [hasPending]

theorem alike_listening (alike : Alike apart old fresh) (queued : fresh.signal.waiter ≠ .absent) :
    TurnAlike apart (old.turn (now + apart.delay) .listening) (fresh.turn now .listening) := by
  have same := alike.waiter
  cases waiter : fresh.signal.waiter with
  | absent => exact (queued waiter).elim
  | queued =>
      rw [waiter] at same
      simp only [Debounce.turn, Signal.await, same, waiter, Bool.false_eq_true, if_false]
      exact .resting
  | woken =>
      rw [waiter] at same
      simp only [Debounce.turn, Signal.await, same, waiter, if_true]
      exact .moved .looking (alike.signal rfl)

theorem alike_sleeping (alike : Alike apart old fresh) (generation : UInt64) (deadline : Nat) :
    TurnAlike apart
      (old.turn (now + apart.delay)
        (.sleeping (generation + apart.offset) (deadline + apart.delay)))
      (fresh.turn now (.sleeping generation deadline)) := by
  have same := alike.pending
  have early : now + apart.delay < deadline + apart.delay ↔ now < deadline := by omega
  have seen : old.generation = generation + apart.offset ↔ fresh.generation = generation := by
    rw [alike.generation]
    exact UInt64.add_left_inj apart.offset
  simp only [Debounce.turn, early, seen]
  split
  · exact .resting
  · cases pending : fresh.pending with
    | none =>
        rw [pending] at same
        simp only [same]
        exact .moved .looking alike
    | some value =>
        rw [pending] at same
        simp only [same]
        split
        · exact .ready value alike.cancel
        · exact .moved .looking alike

theorem alike_turn (alike : Alike apart old fresh) (now : Nat) (attended : fresh.Attended watch)
    (calm : watch = .looking → fresh.pending = none →
      old.signal.kept = false ∧ fresh.signal.kept = false) :
    TurnAlike apart (old.turn (now + apart.delay) (watch.later apart)) (fresh.turn now watch) := by
  cases watch with
  | looking => exact alike_looking alike (attended.mpr (by simp)) (calm rfl)
  | listening => exact alike_listening alike fun absent => attended.mp absent rfl
  | sleeping generation deadline => exact alike_sleeping alike generation deadline

/-- A kept signal makes a consumer look again, to no effect. -/
theorem turn_kept {slot : Debounce α} (pending : slot.pending = none)
    (absent : slot.signal.waiter = .absent) (kept : slot.signal.kept = true) :
    slot.turn now .looking = .moved { slot with signal := .silent } .looking := by
  obtain ⟨window, _, generation, deadline, _, _⟩ := slot
  subst pending absent kept
  rfl

end Debounce

end LivePreview
