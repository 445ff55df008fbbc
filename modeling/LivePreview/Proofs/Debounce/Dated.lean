import LivePreview.Proofs.Debounce.Turns

namespace LivePreview

namespace Debounce

variable {α : Type u} {base : UInt64} {count now : Nat} {slot after first second : Debounce α}
variable {watch next : Watch} {held : Option α}

/-! When a consumer wakes.  It sleeps for the value that was scheduled last when it looked, and no
longer; as long as the generations that have been counted since some base differ, it can tell
whether that is still the last one. -/

/-- So many values have been scheduled since the generation was `base`. -/
structure Dated (base : UInt64) (count now : Nat) (slot : Debounce α) (watch : Watch) : Prop where
  generation : slot.generation = base + UInt64.ofNat count
  near : slot.deadline ≤ now + slot.window
  saw : ∀ generation deadline, watch = .sleeping generation deadline →
    ∃ seen ≤ count, generation = base + UInt64.ofNat seen ∧ deadline ≤ slot.deadline ∧
      (seen = count → deadline = slot.deadline)

theorem dated_of_awake (near : slot.deadline ≤ now + slot.window)
    (awake : ∀ generation deadline, watch ≠ .sleeping generation deadline) :
    Dated slot.generation 0 now slot watch where
  generation := (UInt64.add_zero _).symm
  near := near
  saw generation deadline asleep := (awake generation deadline asleep).elim

theorem Dated.awake (dated : slot.Dated base count now watch)
    (awake : ∀ generation deadline, next ≠ .sleeping generation deadline) :
    slot.Dated base count now next where
  generation := dated.generation
  near := dated.near
  saw generation deadline asleep := (awake generation deadline asleep).elim

theorem Dated.congr (dated : slot.Dated base count now watch) (pending : Option α)
    (signal : Signal) : Dated base count now { slot with pending, signal } watch :=
  ⟨dated.generation, dated.near, dated.saw⟩

theorem Dated.later (dated : slot.Dated base count now watch) {moment : Nat}
    (passes : now ≤ moment) : slot.Dated base count moment watch :=
  ⟨dated.generation, Nat.le_trans dated.near (Nat.add_le_add_right passes _), dated.saw⟩

theorem Dated.schedule (dated : slot.Dated base count now watch) (value : α) :
    (slot.schedule now value).2.Dated base (count + 1) now watch where
  generation := by
    simp only [Debounce.schedule, dated.generation, UInt64.ofNat_add, UInt64.add_assoc]
    rfl
  near := Nat.le_refl _
  saw := by
    intro generation deadline asleep
    obtain ⟨seen, le, same, before, _⟩ := dated.saw generation deadline asleep
    refine ⟨seen, Nat.le_succ_of_le le, same, Nat.le_trans before dated.near, ?_⟩
    intro current
    omega

theorem Dated.moved (dated : slot.Dated base count now watch)
    (turn : slot.turn now watch = .moved after next) : after.Dated base count now next := by
  rw [slot_of_moved turn]
  refine Dated.congr (show slot.Dated base count now next from ?_) slot.pending after.signal
  cases moves_of_turn turn with
  | sees pending =>
      refine ⟨dated.generation, dated.near, ?_⟩
      rintro _ _ ⟨⟩
      exact ⟨count, Nat.le_refl _, dated.generation, Nat.le_refl _, fun _ => rfl⟩
  | awaits empty =>
      refine dated.awake fun generation deadline asleep => ?_
      split at asleep <;> cases asleep
  | hears | misses => exact dated.awake (by simp)

/-- What a consumer takes is due. -/
theorem Dated.due (dated : slot.Dated base count now watch) (few : count < UInt64.size)
    (turn : slot.turn now watch = .ready value after) : slot.deadline ≤ now := by
  obtain ⟨_, _, deadline, asleep, due⟩ := turn_ready turn
  obtain ⟨seen, le, same, _, current⟩ := dated.saw _ _ asleep
  have latest : seen = count := by
    have numbers := congrArg UInt64.toNat
      ((UInt64.add_right_inj base).mp (same.symm.trans dated.generation))
    rwa [UInt64.toNat_ofNat_of_lt' (Nat.lt_of_le_of_lt le few), UInt64.toNat_ofNat_of_lt' few]
      at numbers
  rw [← current latest]
  exact due

/-- What a consumer leaves alone is not due yet. -/
theorem Dated.early (dated : slot.Dated base count now watch) (heard : slot.Heard watch)
    (pending : slot.hasPending = true) (rest : slot.turn now watch = .resting) :
    now < slot.deadline := by
  obtain ⟨generation, deadline, asleep, early⟩ := sleeping_of_resting heard pending rest
  obtain ⟨_, _, _, le, _⟩ := dated.saw generation deadline asleep
  omega

structure Matched (held : Option α) (first second : Debounce α) : Prop where
  window : first.window = second.window
  pending : first.pending = held.or second.pending
  /-- Nothing has been scheduled since. -/
  alone : held.isSome = true → second.pending = none
  deadline : second.hasPending = true → first.deadline = second.deadline

theorem Matched.same (matched : Matched none first second) : first.pending = second.pending :=
  matched.pending

theorem Matched.holds {value : α} (matched : Matched (some value) first second) :
    first.pending = some value :=
  matched.pending

theorem Matched.congr (matched : Matched held first second) {before after : Signal} :
    Matched held { first with signal := before } { second with signal := after } :=
  ⟨matched.window, matched.pending, matched.alone, matched.deadline⟩

theorem Matched.emptied (matched : Matched held first second) :
    Matched none first.cancel.2 second.cancel.2 :=
  ⟨matched.window, rfl, by simp, by simp⟩

theorem Matched.schedule (matched : Matched held first second) (now : Nat) (value : α) :
    Matched none (first.schedule now value).2 (second.schedule now value).2 :=
  ⟨matched.window, rfl, by simp, fun _ => by simp only [Debounce.schedule, matched.window]⟩

/-- Of slots that hold the same, consumers that do not move on take the same, at the same time. -/
theorem Matched.turn {others : UInt64} {counted : Nat} {watchSecond : Watch}
    (matched : Matched none first second)
    (datedFirst : first.Dated base count now watch) (heardFirst : first.Heard watch)
    (datedSecond : second.Dated others counted now watchSecond)
    (heardSecond : second.Heard watchSecond)
    (few : count < UInt64.size) (fewer : counted < UInt64.size)
    (stillFirst : ∀ slot next, first.turn now watch ≠ .moved slot next)
    (stillSecond : ∀ slot next, second.turn now watchSecond ≠ .moved slot next) :
    (first.turn now watch = .resting ∧ second.turn now watchSecond = .resting) ∨
      ∃ value, first.turn now watch = .ready value first.cancel.2 ∧
        second.turn now watchSecond = .ready value second.cancel.2 := by
  have same := matched.same
  cases turnFirst : first.turn now watch with
  | moved slot next => exact (stillFirst slot next turnFirst).elim
  | ready value slot =>
      obtain ⟨pending, rfl, _⟩ := turn_ready turnFirst
      have due := datedFirst.due few turnFirst
      have kept : second.pending = some value := same.symm.trans pending
      have full : second.hasPending = true := by simp [hasPending, kept]
      cases turnSecond : second.turn now watchSecond with
      | moved slot next => exact (stillSecond slot next turnSecond).elim
      | ready other slot =>
          obtain ⟨pendingSecond, rfl, _⟩ := turn_ready turnSecond
          cases kept.symm.trans pendingSecond
          exact .inr ⟨value, rfl, rfl⟩
      | resting =>
          have early := datedSecond.early heardSecond full turnSecond
          have deadline := matched.deadline full
          omega
  | resting =>
      cases turnSecond : second.turn now watchSecond with
      | moved slot next => exact (stillSecond slot next turnSecond).elim
      | resting => exact .inl ⟨rfl, rfl⟩
      | ready value slot =>
          obtain ⟨pending, _⟩ := turn_ready turnSecond
          have due := datedSecond.due fewer turnSecond
          have full : second.hasPending = true := by simp [hasPending, pending]
          have kept : first.hasPending = true := by simp [hasPending, same, pending]
          have early := datedFirst.early heardFirst kept turnFirst
          have deadline := matched.deadline full
          omega

/-- The consumer of the slot that holds the value may take it; the other finds nothing. -/
theorem Matched.turn_held {value : α} {watchSecond : Watch}
    (matched : Matched (some value) first second)
    (stillFirst : ∀ slot next, first.turn now watch ≠ .moved slot next)
    (stillSecond : ∀ slot next, second.turn now watchSecond ≠ .moved slot next) :
    second.turn now watchSecond = .resting ∧
      (first.turn now watch = .resting ∨ ∃ slot, first.turn now watch = .ready value slot) := by
  constructor
  · cases turn : second.turn now watchSecond with
    | moved slot next => exact (stillSecond slot next turn).elim
    | ready value slot => cases (matched.alone rfl).symm.trans (turn_ready turn).1
    | resting => rfl
  · cases turn : first.turn now watch with
    | moved slot next => exact (stillFirst slot next turn).elim
    | resting => exact .inl rfl
    | ready value slot =>
        cases matched.holds.symm.trans (turn_ready turn).1
        exact .inr ⟨slot, rfl⟩

end Debounce

end LivePreview
