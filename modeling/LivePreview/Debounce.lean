import LivePreview.Log

namespace LivePreview

/-! A signal for one waiter.  Given while nobody waits, it is kept for the next who does; more than
one is not kept. -/

inductive Waiter
  | absent
  | queued
  /-- The signal has come, and the waiter has not noticed yet. -/
  | woken
deriving DecidableEq, Repr

structure Signal where
  kept : Bool
  waiter : Waiter
deriving DecidableEq, Repr

namespace Signal

def silent : Signal := ⟨false, .absent⟩

def give (signal : Signal) : Signal :=
  match signal.waiter with
  | .queued => { signal with waiter := .woken }
  | .absent | .woken => { signal with kept := true }

/-- Whether the signal has come.  If it has not, the waiter is queued. -/
def await (signal : Signal) : Bool × Signal :=
  match signal.waiter with
  | .woken => (true, { signal with waiter := .absent })
  | .queued => (false, signal)
  | .absent =>
    if signal.kept then (true, { signal with kept := false })
    else (false, { signal with waiter := .queued })

/-- The waiter goes away; a signal it did not notice is kept. -/
def leave (signal : Signal) : Signal :=
  match signal.waiter with
  | .woken => ⟨true, .absent⟩
  | .absent | .queued => { signal with waiter := .absent }

@[simp] theorem waiter_leave (signal : Signal) : signal.leave.waiter = .absent := by
  unfold leave
  split <;> rfl

end Signal

/-! A slot for one pending value.  A value becomes due when it has been pending for a whole quiet
window; scheduling another replaces it and starts the window anew. -/

structure Debounce (α : Type u) where
  window : Nat
  pending : Option α
  /-- How often a value has been scheduled, as far as a word can count. -/
  generation : UInt64
  /-- When the value scheduled last is due. -/
  deadline : Nat
  signal : Signal
deriving DecidableEq, Repr

inductive Watch
  | looking
  /-- Nothing was pending, so it waits for the signal. -/
  | listening
  /-- It sleeps until what it saw pending is due. -/
  | sleeping (generation : UInt64) (deadline : Nat)
deriving DecidableEq, Repr

inductive Turn (α : Type u)
  | ready (value : α) (slot : Debounce α)
  | moved (slot : Debounce α) (watch : Watch)
  | resting

namespace Debounce

variable {α : Type u}

/-- No window is longer than an hour. -/
def longestWindow : Nat := 60 * 60 * 1000

def ofWindow (window : Nat) : Debounce α :=
  ⟨min window longestWindow, none, 0, 0, .silent⟩

/-- No window at all was given. -/
def unbounded : Debounce α :=
  { ofWindow 0 with window := longestWindow }

def hasPending (slot : Debounce α) : Bool :=
  slot.pending.isSome

/-- The slot, and whether a pending value was replaced. -/
def schedule (slot : Debounce α) (now : Nat) (value : α) : Bool × Debounce α :=
  (slot.hasPending,
    { slot with
      pending := some value
      generation := slot.generation + 1
      deadline := now + slot.window
      signal := slot.signal.give })

def scheduleRecords (slot : Debounce α) : List LogRecord :=
  if slot.hasPending then [.debug "coalesced pending request" []] else []

/-- Takes the pending value, due or not. -/
def flush (slot : Debounce α) : Option α × Debounce α :=
  (slot.pending, { slot with pending := none })

def cancel (slot : Debounce α) : Bool × Debounce α :=
  (slot.hasPending, { slot with pending := none })

def leave (slot : Debounce α) : Debounce α :=
  { slot with signal := slot.signal.leave }

/-- One turn of the consumer.  What was replaced or dropped while it slept is not taken: it looks
again. -/
def turn (slot : Debounce α) (now : Nat) (watch : Watch) : Turn α :=
  match watch with
  | .looking =>
    match slot.pending with
    | some _ => .moved slot (.sleeping slot.generation slot.deadline)
    | none =>
      let (given, signal) := slot.signal.await
      .moved { slot with signal } (if given then .looking else .listening)
  | .listening =>
    let (given, signal) := slot.signal.await
    if given then .moved { slot with signal } .looking else .resting
  | .sleeping generation deadline =>
    if now < deadline then .resting
    else
      match slot.pending with
      | some value =>
        if slot.generation = generation then .ready value { slot with pending := none }
        else .moved slot .looking
      | none => .moved slot .looking

/-- A bound on the turns before the consumer rests or takes what is pending. -/
def effort (slot : Debounce α) (watch : Watch) : Nat :=
  slot.signal.kept.toNat +
    match watch with
    | .looking => 2
    | .listening => if slot.signal.waiter = .woken then 3 else 0
    | .sleeping generation _ =>
      if slot.hasPending = true ∧ slot.generation = generation then 1 else 3

@[simp] theorem pending_ofWindow (window : Nat) :
    (ofWindow window : Debounce α).pending = none := rfl

@[simp] theorem hasPending_schedule (slot : Debounce α) (now : Nat) (value : α) :
    (slot.schedule now value).2.hasPending = true := rfl

@[simp] theorem hasPending_cancel (slot : Debounce α) : slot.cancel.2.hasPending = false := rfl

@[simp] theorem hasPending_flush (slot : Debounce α) : slot.flush.2.hasPending = false := rfl

end Debounce

/-! A slot with a consumer that awaits a number of values, one after the other. -/

structure Consumed (α : Type u) where
  now : Nat
  slot : Debounce α
  awaited : Nat
  watch : Watch
  delivered : List (Nat × α)

namespace Consumed

variable {α : Type u}

def start (slot : Debounce α) : Consumed α :=
  ⟨0, slot, 0, .looking, []⟩

def advance? (state : Consumed α) : Option (Consumed α) :=
  match state.awaited with
  | 0 => none
  | count + 1 =>
    match state.slot.turn state.now state.watch with
    | .ready value slot =>
      some { state with
        slot
        awaited := count
        watch := .looking
        delivered := state.delivered ++ [(state.now, value)] }
    | .moved slot watch => some { state with slot, watch }
    | .resting => none

def effort (state : Consumed α) : Nat :=
  state.slot.effort state.watch + if state.slot.hasPending then 4 else 0

def advanceUpTo : Nat → Consumed α → Consumed α
  | 0, state => state
  | count + 1, state =>
    match state.advance? with
    | some next => advanceUpTo count next
    | none => state

def settle (state : Consumed α) : Consumed α :=
  advanceUpTo state.effort state

inductive Step (α : Type u)
  | schedule (value : α)
  | flush
  | cancel
  | await (count : Nat)
  | giveUp
  /-- The consumer goes on until it waits, and then time passes, millisecond by millisecond. -/
  | wait (milliseconds : Nat)
  /-- A millisecond passes, and what comes next is done before the consumer goes on in it. -/
  | tick

def pass (state : Consumed α) : Nat → Consumed α
  | 0 => state
  | count + 1 => pass (settle { state with now := state.now + 1 }) count

def leave (state : Consumed α) : Consumed α :=
  { state with slot := state.slot.leave, awaited := 0, watch := .looking }

def step (state : Consumed α) : Step α → Consumed α
  | .schedule value => { state with slot := (state.slot.schedule state.now value).2 }
  | .flush => { state with slot := state.slot.flush.2 }
  | .cancel => { state with slot := state.slot.cancel.2 }
  | .await count => { state.leave with awaited := count }
  | .giveUp => state.leave
  | .wait milliseconds => state.settle.pass milliseconds
  | .tick => { state.settle with now := state.settle.now + 1 }

def run (state : Consumed α) (steps : List (Step α)) : Consumed α :=
  steps.foldl step state

end Consumed

end LivePreview
