import LivePreview.Proofs.Debounce.History
import LivePreview.Proofs.Debounce.Turns

namespace LivePreview

namespace Consumed

open Ledger

variable {α : Type u} {quiet count : Nat} {state next : Consumed α} {ledger : Ledger α}

def Step.isSchedule : Step α → Bool
  | .schedule _ => true
  | .flush | .cancel | .await _ | .giveUp | .wait _ | .tick => false

/-- A consumer that has got a value asks for the next at once, if it awaits more. -/
def returns : Nat → List (Nat × α) → History α
  | awaited + 1, (time, value) :: rest =>
    (time, .returned value) :: (if awaited = 0 then [] else [(time, .awaits)]) ++
      returns awaited rest
  | _, _ => []

/-- Whoever still waited for a value goes away. -/
def parting (state : Consumed α) : History α :=
  if state.awaited = 0 then [] else [(state.now, .leaves)]

/-- What the consumer has got by the time it rests. -/
def rests (state later : Consumed α) : History α :=
  returns state.awaited (later.delivered.drop state.delivered.length) ++ [(later.now, .rested)]

def deals (state : Consumed α) : Step α → History α
  | .schedule value => [(state.now, .scheduled value (state.slot.schedule state.now value).1)]
  | .flush => [(state.now, .flushed state.slot.flush.1)]
  | .cancel => [(state.now, .cancelled state.slot.cancel.1)]
  | .await count => state.parting ++ if count = 0 then [] else [(state.now, .awaits)]
  | .giveUp => state.parting
  | .wait milliseconds => state.rests (state.step (.wait milliseconds))
  | .tick => state.rests state.settle

def history (state : Consumed α) : List (Step α) → History α
  | [] => []
  | step :: rest => state.deals step ++ (state.step step).history rest

/-- A consumer that sleeps has seen the slot as it was after some of the schedules so far. -/
def Saw (slot : Debounce α) (count : Nat) (watch : Watch) : Prop :=
  ∀ generation deadline, watch = .sleeping generation deadline →
    ∃ seen ≤ count, generation = UInt64.ofNat seen ∧ deadline ≤ slot.deadline ∧
      (seen = count → deadline = slot.deadline)

theorem saw_of_awake {slot : Debounce α} {watch : Watch}
    (awake : ∀ generation deadline, watch ≠ .sleeping generation deadline) : Saw slot count watch :=
  fun generation deadline asleep => (awake generation deadline asleep).elim

/-- The state of things after so many schedules is as the ledger has it, and nothing is overdue. -/
structure Tallied (quiet count : Nat) (state : Consumed α) (ledger : Ledger α) : Prop where
  window : state.slot.window = quiet
  generation : state.slot.generation = UInt64.ofNat count
  pending : state.slot.pending = ledger.pending.map Prod.snd
  deadline : ∀ scheduled value, ledger.pending = some (scheduled, value) →
    state.slot.deadline = scheduled + quiet
  near : state.slot.deadline ≤ state.now + quiet
  since : ledger.since = none ↔ state.awaited = 0
  began : ∀ since, ledger.since = some since → since ≤ state.now
  time : ledger.time ≤ state.now
  attended : state.slot.Attended state.watch
  heard : state.slot.Heard state.watch
  saw : Saw state.slot count state.watch
  timely : ∀ due, ledger.due? quiet = some due → state.now ≤ due

theorem Tallied.hasPending (tallied : Tallied quiet count state ledger) :
    state.slot.hasPending = ledger.pending.isSome := by
  rw [Debounce.hasPending, tallied.pending, Option.isSome_map]

theorem tallied_start (window : Nat) :
    Tallied (min window Debounce.longestWindow) 0 (start (Debounce.ofWindow window) : Consumed α)
      blank where
  window := rfl
  generation := rfl
  pending := rfl
  deadline := by simp [blank]
  near := Nat.zero_le _
  since := by simp [blank, start]
  began := by simp [blank]
  time := Nat.le_refl 0
  attended := Debounce.attended_ofWindow window
  heard := Debounce.heard_of_deaf (by simp [start])
  saw := saw_of_awake (by simp [start])
  timely := by simp [blank, due?]

theorem advance?_cases (advance : state.advance? = some next) :
    ∃ awaited, state.awaited = awaited + 1 ∧
      ((∃ slot watch, state.slot.turn state.now state.watch = .moved slot watch ∧
          next = { state with slot, watch }) ∨
        ∃ value slot, state.slot.turn state.now state.watch = .ready value slot ∧
          next = { state with
            slot
            awaited
            watch := .looking
            delivered := state.delivered ++ [(state.now, value)] }) := by
  unfold advance? at advance
  split at advance
  next => cases advance
  next awaited waits =>
      refine ⟨awaited, waits, ?_⟩
      split at advance
      next value slot turn =>
          cases advance
          exact .inr ⟨value, slot, turn, rfl⟩
      next slot watch turn =>
          cases advance
          exact .inl ⟨slot, watch, turn, rfl⟩
      next => cases advance

/-- A consumer that rests while something is pending is in time. -/
theorem Tallied.early (tallied : Tallied quiet count state ledger) (rest : state.advance? = none) :
    ∀ due, ledger.due? quiet = some due → state.now < due := by
  intro due is
  obtain ⟨scheduled, value, since, pending, waits, rfl⟩ := due?_eq_some.mp is
  have waiting : state.awaited ≠ 0 := fun idle => by simp [tallied.since.mpr idle] at waits
  obtain ⟨awaited, more⟩ := Nat.exists_eq_succ_of_ne_zero waiting
  have resting : state.slot.turn state.now state.watch = .resting := by
    simp only [advance?, more] at rest
    split at rest
    · cases rest
    · cases rest
    · assumption
  have kept : state.slot.hasPending = true := by rw [tallied.hasPending, pending]; rfl
  obtain ⟨generation, deadline, asleep, early⟩ :=
    Debounce.sleeping_of_resting tallied.heard kept resting
  obtain ⟨seen, _, _, le, _⟩ := tallied.saw generation deadline asleep
  have due := tallied.deadline scheduled value pending
  omega

theorem saw_of_moved {slot after : Debounce α} {watch next : Watch} {now : Nat}
    (turn : slot.turn now watch = .moved after next)
    (generation : slot.generation = UInt64.ofNat count) : Saw after count next := by
  cases Debounce.moves_of_turn turn with
  | sees pending =>
      rintro _ _ ⟨⟩
      exact ⟨count, Nat.le_refl _, generation, Nat.le_refl _, fun _ => rfl⟩
  | awaits empty =>
      refine saw_of_awake fun _ _ asleep => ?_
      split at asleep <;> cases asleep
  | hears | misses => exact saw_of_awake (by simp)

theorem Tallied.moved (tallied : Tallied quiet count state ledger) {slot : Debounce α}
    {watch : Watch} (turn : state.slot.turn state.now state.watch = .moved slot watch) :
    Tallied quiet count { state with slot, watch } ledger := by
  have attended := (Debounce.turn_moved tallied.attended turn).1
  have heard := Debounce.heard_of_moved turn
  have saw := saw_of_moved turn tallied.generation
  have same := Debounce.slot_of_moved turn
  constructor
  case attended => exact attended
  case heard => exact heard
  case saw => exact saw
  case since => exact tallied.since
  case began => exact tallied.began
  case time => exact tallied.time
  case timely => exact tallied.timely
  all_goals rw [same]
  · exact tallied.window
  · exact tallied.generation
  · exact tallied.pending
  · exact tallied.deadline
  · exact tallied.near

theorem ofNat_inj_of_lt {first second : Nat} (few : first < UInt64.size)
    (fewer : second < UInt64.size) (same : UInt64.ofNat first = UInt64.ofNat second) :
    first = second := by
  have numbers := congrArg UInt64.toNat same
  rwa [UInt64.toNat_ofNat_of_lt' few, UInt64.toNat_ofNat_of_lt' fewer] at numbers

/-- What the consumer takes is due at that very moment. -/
theorem Tallied.due (tallied : Tallied quiet count state ledger) (few : count < UInt64.size)
    (waiting : state.awaited ≠ 0) {value : α} {slot : Debounce α}
    (turn : state.slot.turn state.now state.watch = .ready value slot) :
    ledger.pending.map Prod.snd = some value ∧ ledger.due? quiet = some state.now := by
  obtain ⟨kept, _, deadline, asleep, late⟩ := Debounce.turn_ready turn
  obtain ⟨seen, le, same, _, current⟩ := tallied.saw _ deadline asleep
  have latest : seen = count :=
    ofNat_inj_of_lt (Nat.lt_of_le_of_lt le few) few (same.symm.trans tallied.generation)
  rw [tallied.pending] at kept
  obtain ⟨⟨scheduled, value⟩, pending, rfl⟩ := Option.map_eq_some_iff.mp kept
  obtain ⟨since, waits⟩ : ∃ since, ledger.since = some since := by
    rw [← Option.ne_none_iff_exists']
    exact fun idle => waiting (tallied.since.mp idle)
  have due : ledger.due? quiet = some (max (scheduled + quiet) since) :=
    due?_eq_some.mpr ⟨scheduled, value, since, pending, waits, rfl⟩
  refine ⟨by rw [pending]; rfl, due.trans (congrArg some ?_)⟩
  have began := tallied.began since waits
  have timely := tallied.timely _ due
  have window := tallied.deadline scheduled value pending
  have current := current latest
  omega

theorem Tallied.admits (tallied : Tallied quiet count state ledger) {deal : Deal α}
    (answers : deal.Answers ledger.pending) (awaits : deal = .awaits → ledger.since = none)
    (returned : ∀ value, deal ≠ .returned value) (rested : deal = .rested → state.advance? = none) :
    ledger.Admits quiet (state.now, deal) where
  answers := answers
  later := tallied.time
  timely := tallied.timely
  awaits := awaits
  returned := fun value is => (returned value is).elim
  rested := by
    intro rests due
    exact Nat.lt_irrefl _ (tallied.early (rested rests) _ due)

/-- A consumer that has got its value waits anew from now on, if it awaits more. -/
def restarted (now awaited : Nat) : Ledger α :=
  ⟨now, none, if awaited = 0 then none else some now⟩

theorem tally_returns (ledger : Ledger α) (awaited now : Nat) (value : α) :
    ledger.tally (returns (awaited + 1) [(now, value)]) = restarted now awaited := by
  simp only [returns, restarted]
  split <;> rfl

theorem Tallied.taken (tallied : Tallied quiet count state ledger) {value : α} {slot : Debounce α}
    (turn : state.slot.turn state.now state.watch = .ready value slot) (awaited : Nat)
    (delivered : List (Nat × α)) :
    Tallied quiet count ⟨state.now, slot, awaited, .looking, delivered⟩
      (restarted state.now awaited) := by
  obtain ⟨_, rfl, deadline, asleep, _⟩ := Debounce.turn_ready turn
  have absent : state.slot.signal.waiter = .absent := tallied.attended.mpr (by simp [asleep])
  constructor
  case window => exact tallied.window
  case generation => exact tallied.generation
  case pending => rfl
  case deadline => simp [restarted]
  case near => exact tallied.near
  case since => simp [restarted]
  case began => simp [restarted]
  case time => exact Nat.le_refl _
  case attended => exact iff_of_true absent (by simp)
  case heard => exact Debounce.heard_of_deaf (by simp)
  case saw => exact saw_of_awake (by simp)
  case timely => simp [restarted, due?]

theorem replays_returns {now awaited : Nat} {value : α} (time : ledger.time ≤ now)
    (pending : ledger.pending.map Prod.snd = some value) (due : ledger.due? quiet = some now) :
    ledger.Replays quiet (returns (awaited + 1) [(now, value)]) := by
  have returned : ledger.Admits quiet (now, .returned value) := by
    refine ⟨trivial, time, ?_, nofun, ?_, nofun⟩
    · intro other same
      rw [due] at same
      exact Nat.le_of_eq (Option.some.inj same)
    · rintro _ ⟨⟩
      exact ⟨pending, due⟩
  have asked : (ledger.next (now, .returned value)).Admits quiet (now, .awaits) :=
    ⟨trivial, Nat.le_refl _, nofun, fun _ => rfl, nofun, nofun⟩
  simp only [returns]
  split
  · exact ⟨returned, trivial⟩
  · exact ⟨returned, asked, trivial⟩

structure Goes (quiet count : Nat) (state : Consumed α) (ledger : Ledger α) (next : Consumed α)
    (returned : List (Nat × α)) : Prop where
  delivered : next.delivered = state.delivered ++ returned
  awaited : state.awaited = next.awaited + returned.length
  replays : ledger.Replays quiet (returns state.awaited returned)
  tallied : Tallied quiet count next (ledger.tally (returns state.awaited returned))

theorem returns_append (awaited : Nat) (first second : List (Nat × α)) :
    returns (awaited + first.length) (first ++ second) =
      returns (awaited + first.length) first ++ returns awaited second := by
  induction first with
  | nil => cases awaited <;> simp [returns]
  | cons entry rest ih =>
      rw [List.length_cons, ← Nat.add_assoc, List.cons_append]
      simp only [returns, ih, List.cons_append, List.append_assoc]

theorem goes_nil (tallied : Tallied quiet count state ledger) :
    Goes quiet count state ledger state [] where
  delivered := (List.append_nil _).symm
  awaited := rfl
  replays := by cases state.awaited <;> trivial
  tallied := by cases state.awaited <;> exact tallied

theorem Goes.trans {middle : Consumed α} {first second : List (Nat × α)}
    (goes : Goes quiet count state ledger middle first)
    (goesOn : Goes quiet count middle (ledger.tally (returns state.awaited first)) next second) :
    Goes quiet count state ledger next (first ++ second) := by
  have returned : returns state.awaited (first ++ second) =
      returns state.awaited first ++ returns middle.awaited second := by
    rw [goes.awaited]
    exact returns_append middle.awaited first second
  constructor
  case delivered => rw [goesOn.delivered, goes.delivered, List.append_assoc]
  case awaited => rw [goes.awaited, goesOn.awaited, List.length_append]; omega
  case replays =>
    rw [returned]
    exact replays_append.mpr ⟨goes.replays, goesOn.replays⟩
  case tallied =>
    rw [returned, tally_append]
    exact goesOn.tallied

theorem goes_advance (tallied : Tallied quiet count state ledger) (few : count < UInt64.size)
    (advance : state.advance? = some next) :
    ∃ returned, Goes quiet count state ledger next returned := by
  obtain ⟨awaited, more, ⟨slot, watch, turn, rfl⟩ | ⟨value, slot, turn, rfl⟩⟩ :=
    advance?_cases advance
  · have moved := goes_nil (tallied.moved turn)
    exact ⟨[], moved.delivered, moved.awaited, moved.replays, moved.tallied⟩
  · obtain ⟨pending, due⟩ := tallied.due few (by omega) turn
    refine ⟨[(state.now, value)], rfl, more, ?_, ?_⟩
    · rw [more]
      exact replays_returns tallied.time pending due
    · rw [more, tally_returns]
      exact tallied.taken turn awaited _

theorem effort_advance (attended : state.slot.Attended state.watch)
    (advance : state.advance? = some next) : next.effort < state.effort := by
  obtain ⟨awaited, more, ⟨slot, watch, turn, rfl⟩ | ⟨value, slot, turn, rfl⟩⟩ :=
    advance?_cases advance
  · have less := (Debounce.turn_moved attended turn).2
    have same : slot.hasPending = state.slot.hasPending := by
      rw [Debounce.slot_of_moved turn]
      rfl
    simp only [effort, same]
    exact Nat.add_lt_add_right less _
  · obtain ⟨pending, rfl, deadline, asleep, _⟩ := Debounce.turn_ready turn
    have kept : state.slot.hasPending = true := by simp [Debounce.hasPending, pending]
    have empty : ({ state.slot with pending := none } : Debounce α).hasPending = false := rfl
    simp only [effort, Debounce.effort, asleep, kept, empty]
    simp

theorem goes_advanceUpTo (tallied : Tallied quiet count state ledger) (few : count < UInt64.size)
    {bound : Nat} (enough : state.effort ≤ bound) :
    ∃ returned, Goes quiet count state ledger (advanceUpTo bound state) returned ∧
      (advanceUpTo bound state).advance? = none := by
  induction bound generalizing state ledger with
  | zero =>
      refine ⟨[], goes_nil tallied, ?_⟩
      cases advance : state.advance? with
      | none => exact advance
      | some next =>
          have less := effort_advance tallied.attended advance
          omega
  | succ bound ih =>
      unfold advanceUpTo
      cases advance : state.advance? with
      | none => exact ⟨[], goes_nil tallied, advance⟩
      | some next =>
          have less := effort_advance tallied.attended advance
          obtain ⟨first, goes⟩ := goes_advance tallied few advance
          obtain ⟨second, goesOn, rest⟩ := ih goes.tallied (by omega)
          exact ⟨first ++ second, goes.trans goesOn, rest⟩

theorem goes_settle (tallied : Tallied quiet count state ledger) (few : count < UInt64.size) :
    ∃ returned, Goes quiet count state ledger state.settle returned ∧
      state.settle.advance? = none :=
  goes_advanceUpTo tallied few (Nat.le_refl _)

theorem Tallied.tick (tallied : Tallied quiet count state ledger) (rest : state.advance? = none) :
    Tallied quiet count { state with now := state.now + 1 } ledger :=
  { tallied with
    near := Nat.le_trans tallied.near (by dsimp only; omega)
    began := fun since waits => Nat.le_succ_of_le (tallied.began since waits)
    time := Nat.le_succ_of_le tallied.time
    timely := tallied.early rest }

theorem goes_pass (tallied : Tallied quiet count state ledger) (few : count < UInt64.size)
    (rest : state.advance? = none) (milliseconds : Nat) :
    ∃ returned, Goes quiet count state ledger (state.pass milliseconds) returned ∧
      (state.pass milliseconds).advance? = none := by
  induction milliseconds generalizing state ledger with
  | zero => exact ⟨[], goes_nil tallied, rest⟩
  | succ milliseconds ih =>
      have ticked := tallied.tick rest
      obtain ⟨first, goes, rests⟩ := goes_settle ticked few
      obtain ⟨second, goesOn, restsThen⟩ := ih goes.tallied rests
      have whole := goes.trans goesOn
      exact ⟨first ++ second, ⟨whole.delivered, whole.awaited, whole.replays, whole.tallied⟩,
        restsThen⟩

theorem Tallied.scheduled (tallied : Tallied quiet count state ledger) (value : α)
    (replaced : Bool) :
    Tallied quiet (count + 1) (state.step (.schedule value))
      (ledger.next (state.now, .scheduled value replaced)) where
  window := tallied.window
  generation := by
    change state.slot.generation + 1 = _
    rw [tallied.generation, UInt64.ofNat_add]
    rfl
  pending := rfl
  deadline := by
    rintro _ _ ⟨⟩
    exact congrArg (state.now + ·) tallied.window
  near := Nat.le_of_eq (congrArg (state.now + ·) tallied.window)
  since := tallied.since
  began := tallied.began
  time := Nat.le_refl _
  attended := Debounce.attended_schedule tallied.attended state.now value
  heard := Debounce.heard_schedule tallied.attended state.now value
  saw := by
    intro generation deadline asleep
    obtain ⟨seen, le, same, early, _⟩ := tallied.saw generation deadline asleep
    have near := tallied.near
    rw [← tallied.window] at near
    exact ⟨seen, Nat.le_succ_of_le le, same, Nat.le_trans early near, fun last => by omega⟩
  timely := by
    intro due is
    obtain ⟨_, _, since, same, _, rfl⟩ := due?_eq_some.mp is
    cases same
    dsimp only [step]
    omega

theorem Tallied.emptied (tallied : Tallied quiet count state ledger) :
    Tallied quiet count { state with slot := { state.slot with pending := none } }
      { ledger with time := state.now, pending := none } :=
  { tallied with
    pending := rfl
    deadline := nofun
    time := Nat.le_refl _
    heard := Debounce.heard_of_empty rfl
    timely := nofun }

theorem Tallied.left (tallied : Tallied quiet count state ledger) :
    Tallied quiet count state.leave { ledger with since := none } :=
  { tallied with
    since := iff_of_true rfl rfl
    began := nofun
    attended := Debounce.attended_leave state.slot
    heard := Debounce.heard_of_deaf (by simp [leave])
    saw := saw_of_awake (by simp [leave])
    timely := by
      intro due is
      obtain ⟨_, _, _, _, none, _⟩ := due?_eq_some.mp is
      cases none }

theorem Tallied.rested (tallied : Tallied quiet count state ledger) :
    Tallied quiet count state { ledger with time := state.now } :=
  { tallied with time := Nat.le_refl _ }

theorem Goes.rests {returned : List (Nat × α)} (goes : Goes quiet count state ledger next returned)
    (rest : next.advance? = none) :
    ledger.Replays quiet (state.rests next) ∧
      Tallied quiet count next (ledger.tally (state.rests next)) := by
  have rested : (ledger.tally (returns state.awaited returned)).Admits quiet (next.now, .rested) :=
    goes.tallied.admits trivial nofun nofun fun _ => rest
  unfold Consumed.rests
  rw [goes.delivered, List.drop_left, tally_append]
  exact ⟨replays_append.mpr ⟨goes.replays, rested, trivial⟩, goes.tallied.rested⟩

theorem Tallied.parted (tallied : Tallied quiet count state ledger) :
    ledger.Replays quiet state.parting ∧
      Tallied quiet count state.leave (ledger.tally state.parting) ∧
      (ledger.tally state.parting).since = none := by
  have left := tallied.left
  unfold parting
  split
  next idle =>
      have none := tallied.since.mpr idle
      rw [← none] at left
      exact ⟨trivial, left, none⟩
  next =>
      have admits : ledger.Admits quiet (state.now, .leaves) :=
        tallied.admits trivial nofun nofun nofun
      exact ⟨⟨admits, trivial⟩, left.rested, rfl⟩

theorem Tallied.asked (tallied : Tallied quiet count state ledger) (awaited : Nat) :
    Tallied quiet count { state with awaited := awaited + 1 }
      (ledger.next (state.now, .awaits)) :=
  { tallied with
    since := iff_of_false nofun (Nat.succ_ne_zero awaited)
    began := by
      rintro _ ⟨⟩
      exact Nat.le_refl _
    time := Nat.le_refl _
    timely := by
      intro due is
      obtain ⟨_, _, _, _, same, rfl⟩ := due?_eq_some.mp is
      cases same
      exact Nat.le_max_right _ _ }

/-- Whatever is done to the slot, and whatever the consumer does meanwhile, is in order. -/
theorem Tallied.step (tallied : Tallied quiet count state ledger) (step : Step α)
    (few : count + step.isSchedule.toNat < UInt64.size) :
    ledger.Replays quiet (state.deals step) ∧
      Tallied quiet (count + step.isSchedule.toNat) (state.step step)
        (ledger.tally (state.deals step)) := by
  have pending := tallied.hasPending
  cases step with
  | schedule value =>
      have admits : ledger.Admits quiet
          (state.now, .scheduled value (state.slot.schedule state.now value).1) :=
        tallied.admits pending nofun nofun nofun
      exact ⟨⟨admits, trivial⟩, tallied.scheduled value _⟩
  | flush =>
      have admits : ledger.Admits quiet (state.now, .flushed state.slot.flush.1) :=
        tallied.admits tallied.pending nofun nofun nofun
      exact ⟨⟨admits, trivial⟩, tallied.emptied⟩
  | cancel =>
      have admits : ledger.Admits quiet (state.now, .cancelled state.slot.cancel.1) :=
        tallied.admits pending nofun nofun nofun
      exact ⟨⟨admits, trivial⟩, tallied.emptied⟩
  | giveUp =>
      obtain ⟨replays, left, _⟩ := tallied.parted
      exact ⟨replays, left⟩
  | await awaited =>
      obtain ⟨replays, left, none⟩ := tallied.parted
      simp only [deals]
      rw [tally_append, replays_append]
      cases awaited with
      | zero => exact ⟨⟨replays, trivial⟩, left⟩
      | succ awaited =>
          have asks : (ledger.tally state.parting).Admits quiet (state.now, .awaits) :=
            left.admits trivial (fun _ => none) nofun nofun
          exact ⟨⟨replays, asks, trivial⟩, left.asked awaited⟩
  | wait milliseconds =>
      obtain ⟨first, goes, rest⟩ := goes_settle tallied few
      obtain ⟨second, goesOn, rests⟩ := goes_pass goes.tallied few rest milliseconds
      exact (goes.trans goesOn).rests rests
  | tick =>
      obtain ⟨returned, goes, rest⟩ := goes_settle tallied few
      obtain ⟨replays, rested⟩ := goes.rests rest
      exact ⟨replays, rested.tick rest⟩

theorem Tallied.run (tallied : Tallied quiet count state ledger) (steps : List (Step α))
    (few : count + steps.countP Step.isSchedule < UInt64.size) :
    ledger.Replays quiet (state.history steps) ∧
      (state.run steps).slot.pending =
        (ledger.tally (state.history steps)).pending.map Prod.snd := by
  induction steps generalizing count state ledger with
  | nil => exact ⟨trivial, tallied.pending⟩
  | cons step rest ih =>
      have one : step.isSchedule.toNat = if step.isSchedule = true then 1 else 0 := by
        cases step.isSchedule <;> rfl
      rw [List.countP_cons, ← one] at few
      obtain ⟨replays, goesOn⟩ := tallied.step step (by omega)
      obtain ⟨replaysThen, pending⟩ := ih goesOn (by omega)
      rw [history, tally_append]
      exact ⟨replays_append.mpr ⟨replays, replaysThen⟩, pending⟩

/-- Trailing edge: whatever is done to a slot and whenever, as long as its schedules can be counted,
a value is returned once it has been pending for a whole quiet window and the consumer waits, at
that very moment, unless something else becomes of it before. -/
theorem debounced_run (window : Nat) (steps : List (Step α))
    (few : steps.countP Step.isSchedule < UInt64.size) :
    let fresh : Consumed α := start (Debounce.ofWindow window)
    Debounced (min window Debounce.longestWindow) (fresh.history steps)
        (fresh.run steps).slot.pending ∧
      (fresh.run steps).slot.hasPending = (blank.tally (fresh.history steps)).pending.isSome := by
  intro fresh
  obtain ⟨replays, pending⟩ := (tallied_start window).run steps (by omega)
  rw [Debounce.hasPending, pending, Option.isSome_map]
  exact ⟨replays.debounced, rfl⟩

theorem debounced_run_replaced :
    let steps : List (Step Nat) := [.await 1, .schedule 1, .wait 4, .schedule 2, .wait 6, .cancel]
    let fresh : Consumed Nat := start (Debounce.ofWindow 5)
    steps.countP Step.isSchedule < UInt64.size ∧
      Debounced 5 (fresh.history steps) (fresh.run steps).slot.pending ∧
      (fresh.run steps).slot.hasPending = (blank.tally (fresh.history steps)).pending.isSome :=
  ⟨by decide, debounced_run 5 _ (by decide)⟩

/-- A value that is replaced in the very millisecond it is due, before the consumer goes on. -/
example :
    (start (Debounce.ofWindow 5)).history
        [.await 1, .schedule 1, .wait 4, .tick, .schedule 2, .wait 6, .cancel] =
      [(0, .awaits), (0, .scheduled 1 false), (4, .rested), (4, .rested), (5, .scheduled 2 true),
        (10, .returned 2), (11, .rested), (11, .cancelled false)] := by
  rfl

end Consumed

end LivePreview
