import LivePreview.Debounce

namespace LivePreview

/-! What a turn of a slot's consumer can be.  It takes what is due, or it moves on to watch in
another way, which it can do a few times only. -/

namespace Debounce

variable {α : Type u} {slot after : Debounce α} {watch next : Watch}

/-- The consumer is queued for the signal, or has been woken by it, just when it listens. -/
def Attended (slot : Debounce α) (watch : Watch) : Prop :=
  slot.signal.waiter = .absent ↔ watch ≠ .listening

theorem attended_ofWindow (window : Nat) : (ofWindow window : Debounce α).Attended .looking := by
  simp [Attended, ofWindow, Signal.silent]

theorem attended_leave (slot : Debounce α) : slot.leave.Attended .looking := by
  simp [Attended, leave]

theorem waiter_give (signal : Signal) :
    signal.give.waiter = .absent ↔ signal.waiter = .absent := by
  obtain ⟨kept, waiter⟩ := signal
  cases waiter <;> simp [Signal.give]

theorem attended_schedule (attended : slot.Attended watch) (now : Nat) (value : α) :
    (slot.schedule now value).2.Attended watch :=
  (waiter_give slot.signal).trans attended

theorem turn_ready {value : α} (turn : slot.turn now watch = .ready value after) :
    slot.pending = some value ∧ after = { slot with pending := none } ∧
      ∃ deadline, watch = .sleeping slot.generation deadline ∧ deadline ≤ now := by
  cases watch with
  | looking =>
      unfold Debounce.turn at turn
      cases pending : slot.pending <;> simp [pending] at turn
  | listening =>
      simp only [Debounce.turn] at turn
      split at turn <;> simp at turn
  | sleeping generation deadline =>
      simp only [Debounce.turn] at turn
      split at turn
      · simp at turn
      · next due =>
          cases pending : slot.pending with
          | none => simp [pending] at turn
          | some value =>
              simp only [pending] at turn
              split at turn
              · next same =>
                  obtain ⟨rfl, rfl⟩ := turn
                  exact ⟨rfl, rfl, deadline, by rw [same], Nat.le_of_not_lt due⟩
              · simp at turn

/-- The ways in which a consumer moves on. -/
inductive Moves (slot : Debounce α) (now : Nat) : Watch → Debounce α → Watch → Prop
  | sees {value : α} (pending : slot.pending = some value) :
      Moves slot now .looking slot (.sleeping slot.generation slot.deadline)
  | awaits (empty : slot.pending = none) :
      Moves slot now .looking { slot with signal := slot.signal.await.2 }
        (if slot.signal.await.1 then .looking else .listening)
  | hears (given : slot.signal.await.1 = true) :
      Moves slot now .listening { slot with signal := slot.signal.await.2 } .looking
  | misses {generation : UInt64} {deadline : Nat} (late : deadline ≤ now)
      (gone : slot.hasPending = true → slot.generation ≠ generation) :
      Moves slot now (.sleeping generation deadline) slot .looking

theorem moves_of_turn (turn : slot.turn now watch = .moved after next) :
    slot.Moves now watch after next := by
  cases watch with
  | looking =>
      simp only [Debounce.turn] at turn
      split at turn
      · next value pending =>
          obtain ⟨rfl, rfl⟩ := turn
          exact .sees pending
      · next empty =>
          obtain ⟨rfl, rfl⟩ := turn
          exact .awaits empty
  | listening =>
      simp only [Debounce.turn] at turn
      split at turn
      · obtain ⟨rfl, rfl⟩ := turn
        exact .hears ‹_›
      · cases turn
  | sleeping generation deadline =>
      simp only [Debounce.turn] at turn
      split at turn
      · cases turn
      · next awake =>
          have late := Nat.le_of_not_lt awake
          split at turn
          · split at turn
            · cases turn
            · next other =>
                obtain ⟨rfl, rfl⟩ := turn
                exact .misses late fun _ => other
          · next empty =>
              obtain ⟨rfl, rfl⟩ := turn
              exact .misses late (by simp [hasPending, empty])

theorem slot_of_moved (turn : slot.turn now watch = .moved after next) :
    after = { slot with signal := after.signal } := by
  cases moves_of_turn turn <;> rfl

theorem turn_moved (attended : slot.Attended watch)
    (turn : slot.turn now watch = .moved after next) :
    after.Attended next ∧ after.effort next < slot.effort watch := by
  have moves := moves_of_turn turn
  obtain ⟨window, pending, generation, deadline, kept, waiter⟩ := slot
  cases moves with
  | sees pending =>
      have absent : waiter = .absent := attended.mpr (by simp)
      exact ⟨by simp [Attended, absent], by simp_all [effort, hasPending]⟩
  | awaits empty =>
      have absent : waiter = .absent := attended.mpr (by simp)
      subst absent
      cases kept with
      | false => exact ⟨by simp [Attended, Signal.await], by simp [effort, Signal.await]⟩
      | true => exact ⟨by simp [Attended, Signal.await], by simp [effort, Signal.await]⟩
  | hears given =>
      cases waiter with
      | absent => simp [Attended] at attended
      | queued => simp [Signal.await] at given
      | woken => exact ⟨by simp [Attended, Signal.await], by simp [effort, Signal.await]⟩
  | misses late gone =>
      have absent : waiter = .absent := attended.mpr (by simp)
      refine ⟨by simp [Attended, absent], ?_⟩
      have other : ¬ (pending.isSome = true ∧ generation = _) := fun both => gone both.1 both.2
      simp [effort, hasPending, other]

/-- A consumer that listens while something is pending has been woken. -/
def Heard (slot : Debounce α) (watch : Watch) : Prop :=
  watch = .listening → slot.hasPending = true → slot.signal.waiter = .woken

theorem heard_of_deaf (deaf : watch ≠ .listening) : slot.Heard watch :=
  fun listens => (deaf listens).elim

theorem heard_of_empty (empty : slot.pending = none) : slot.Heard watch := by
  intro _ pending
  simp [hasPending, empty] at pending

theorem heard_schedule (attended : slot.Attended watch) (now : Nat) (value : α) :
    (slot.schedule now value).2.Heard watch := by
  rintro rfl _
  have present : slot.signal.waiter ≠ .absent := fun absent => attended.mp absent rfl
  cases waiter : slot.signal.waiter with
  | absent => exact (present waiter).elim
  | queued | woken => simp [schedule, Signal.give, waiter]

theorem heard_of_moved (turn : slot.turn now watch = .moved after next) : after.Heard next := by
  cases moves_of_turn turn with
  | sees | hears | misses => exact heard_of_deaf (by simp)
  | awaits empty => exact heard_of_empty empty

theorem sleeping_of_resting (heard : slot.Heard watch) (pending : slot.hasPending = true)
    (rest : slot.turn now watch = .resting) :
    ∃ generation deadline, watch = .sleeping generation deadline ∧ now < deadline := by
  obtain ⟨value, kept⟩ := Option.isSome_iff_exists.mp pending
  cases watch with
  | looking => simp [Debounce.turn, kept] at rest
  | listening => simp [Debounce.turn, Signal.await, heard rfl pending] at rest
  | sleeping generation deadline =>
      refine ⟨generation, deadline, rfl, Nat.lt_of_not_le fun late => ?_⟩
      simp only [Debounce.turn, kept, if_neg (Nat.not_lt_of_le late)] at rest
      split at rest <;> cases rest

end Debounce

end LivePreview
