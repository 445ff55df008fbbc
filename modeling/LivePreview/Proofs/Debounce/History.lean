import LivePreview.Debounce

namespace LivePreview

/-! The history of a slot and its consumer, and what it has to be like.  Whoever keeps a ledger of
the history knows from it what is pending, and when that is due. -/

inductive Deal (α : Type u)
  | scheduled (value : α) (replaced : Bool)
  | flushed (taken : Option α)
  | cancelled (dropped : Bool)
  /-- The consumer asks for a value. -/
  | awaits
  | leaves
  | returned (value : α)
  /-- The consumer has gone as far as it can at this moment. -/
  | rested

namespace Deal

variable {α : Type u}

/-- Whether the deal changes what is pending. -/
def touches : Deal α → Bool
  | .scheduled _ _ | .flushed _ | .cancelled _ | .returned _ => true
  | .awaits | .leaves | .rested => false

/-- Nobody but the consumer has a part in it, and the consumer stays. -/
def isCalm : Deal α → Bool
  | .awaits | .returned _ | .rested => true
  | .scheduled _ _ | .flushed _ | .cancelled _ | .leaves => false

/-- The deal answers according to what was pending. -/
def Answers (pending : Option (Nat × α)) : Deal α → Prop
  | .scheduled _ replaced => replaced = pending.isSome
  | .cancelled dropped => dropped = pending.isSome
  | .flushed taken => taken = pending.map Prod.snd
  | .awaits | .leaves | .returned _ | .rested => True

/-- The deal is the end of a pending value. -/
def Ends (value : α) : Deal α → Prop
  | .scheduled _ replaced => replaced = true
  | .cancelled dropped => dropped = true
  | .flushed taken => taken = some value
  | .returned other => other = value
  | .awaits | .leaves | .rested => False

def asked? : Nat × Deal α → Option Nat
  | (time, .awaits) => some time
  | _ => none

def returned? : Nat × Deal α → Option (Nat × α)
  | (time, .returned value) => some (time, value)
  | _ => none

end Deal

/-- Deals with their times. -/
abbrev History (α : Type u) := List (Nat × Deal α)

structure Ledger (α : Type u) where
  time : Nat
  /-- The value, with the time it was scheduled at. -/
  pending : Option (Nat × α)
  /-- When the consumer began to wait. -/
  since : Option Nat

namespace Ledger

variable {α : Type u} {quiet : Nat} {ledger : Ledger α}

def blank : Ledger α := ⟨0, none, none⟩

def next (ledger : Ledger α) (entry : Nat × Deal α) : Ledger α :=
  match entry.2 with
  | .scheduled value _ => { ledger with time := entry.1, pending := some (entry.1, value) }
  | .flushed _ | .cancelled _ => { ledger with time := entry.1, pending := none }
  | .awaits => { ledger with time := entry.1, since := some entry.1 }
  | .leaves => { ledger with time := entry.1, since := none }
  | .returned _ => ⟨entry.1, none, none⟩
  | .rested => { ledger with time := entry.1 }

def tally (ledger : Ledger α) (history : History α) : Ledger α :=
  history.foldl next ledger

/-- When the pending value is to be returned, as matters stand. -/
def due? (quiet : Nat) (ledger : Ledger α) : Option Nat :=
  match ledger.pending, ledger.since with
  | some (scheduled, _), some since => some (max (scheduled + quiet) since)
  | _, _ => none

/-- What may come next. -/
structure Admits (quiet : Nat) (ledger : Ledger α) (entry : Nat × Deal α) : Prop where
  answers : entry.2.Answers ledger.pending
  later : ledger.time ≤ entry.1
  timely : ∀ due, ledger.due? quiet = some due → entry.1 ≤ due
  awaits : entry.2 = .awaits → ledger.since = none
  returned : ∀ value, entry.2 = .returned value →
    ledger.pending.map Prod.snd = some value ∧ ledger.due? quiet = some entry.1
  rested : entry.2 = .rested → ledger.due? quiet ≠ some entry.1

def Replays (quiet : Nat) : Ledger α → History α → Prop
  | _, [] => True
  | ledger, entry :: rest => ledger.Admits quiet entry ∧ (ledger.next entry).Replays quiet rest

@[simp] theorem tally_nil (ledger : Ledger α) : ledger.tally [] = ledger := rfl

@[simp] theorem tally_cons (ledger : Ledger α) (entry : Nat × Deal α) (rest : History α) :
    ledger.tally (entry :: rest) = (ledger.next entry).tally rest := rfl

@[simp] theorem tally_append (ledger : Ledger α) (first second : History α) :
    ledger.tally (first ++ second) = (ledger.tally first).tally second :=
  List.foldl_append

theorem replays_append {first second : History α} :
    ledger.Replays quiet (first ++ second) ↔
      ledger.Replays quiet first ∧ (ledger.tally first).Replays quiet second := by
  induction first generalizing ledger with
  | nil => simp [Replays]
  | cons entry rest ih => simp [Replays, ih, and_assoc]

theorem due?_eq_some {due : Nat} :
    ledger.due? quiet = some due ↔ ∃ scheduled value since,
      ledger.pending = some (scheduled, value) ∧ ledger.since = some since ∧
        due = max (scheduled + quiet) since := by
  obtain ⟨time, _ | ⟨scheduled, value⟩, _ | since⟩ := ledger <;> simp [due?, eq_comm]

theorem pending_of_untouched {entry : Nat × Deal α} (untouched : entry.2.touches = false) :
    (ledger.next entry).pending = ledger.pending := by
  obtain ⟨time, deal⟩ := entry
  cases deal <;> first | rfl | cases untouched

/-- A pending value ends with the deal that touches it first, or else it is still pending. -/
theorem Replays.fate {history : History α} {scheduled : Nat} {value : α}
    (replays : ledger.Replays quiet history) (pending : ledger.pending = some (scheduled, value)) :
    match history.find? fun entry => entry.2.touches with
    | some entry => entry.2.Ends value
    | none => (ledger.tally history).pending = some (scheduled, value) := by
  induction history generalizing ledger with
  | nil => exact pending
  | cons entry rest ih =>
      obtain ⟨admits, replays⟩ := replays
      rw [List.find?_cons]
      cases touched : entry.2.touches with
      | false => exact ih replays ((pending_of_untouched touched).trans pending)
      | true =>
          obtain ⟨time, deal⟩ := entry
          have answers := admits.answers
          have returned := admits.returned
          rw [pending] at answers returned
          cases deal with
          | scheduled | cancelled | flushed => exact answers
          | returned other => exact (Option.some.inj (returned other rfl).1).symm
          | awaits | leaves | rested => cases touched

theorem Replays.time_le {history : History α} (replays : ledger.Replays quiet history) :
    ∀ entry ∈ history, ledger.time ≤ entry.1 := by
  induction history generalizing ledger with
  | nil => simp
  | cons first rest ih =>
      obtain ⟨admits, replays⟩ := replays
      have same : (ledger.next first).time = first.1 := by
        obtain ⟨time, deal⟩ := first
        cases deal <;> rfl
      intro entry member
      rcases List.mem_cons.mp member with rfl | later
      · exact admits.later
      · exact Nat.le_trans admits.later (same ▸ ih replays entry later)

/-- When the consumer begins to wait, if it does not wait already. -/
def begins? (ledger : Ledger α) (history : History α) : Option Nat :=
  ledger.since.or (history.findSome? Deal.asked?)

/-- As long as nobody but the consumer does anything, a pending value is returned just when it is
due, if that comes at all. -/
theorem Replays.returns_iff {history : History α} {scheduled since time : Nat} {value : α}
    (replays : ledger.Replays quiet (history ++ [(time, .rested)]))
    (pending : ledger.pending = some (scheduled, value))
    (calm : ∀ entry ∈ history, entry.2.isCalm = true)
    (began : ledger.begins? history = some since) :
    history.findSome? Deal.returned? = some (max (scheduled + quiet) since, value) ↔
      max (scheduled + quiet) since ≤ time := by
  induction history generalizing ledger with
  | nil =>
      have waits : ledger.since = some since := by simpa [begins?] using began
      have due : ledger.due? quiet = some (max (scheduled + quiet) since) :=
        due?_eq_some.mpr ⟨scheduled, value, since, pending, waits, rfl⟩
      have timely := replays.1.timely _ due
      have early := replays.1.rested rfl
      rw [due] at early
      have other : max (scheduled + quiet) since ≠ time := fun same => early (by rw [same])
      refine iff_of_false (by simp) ?_
      dsimp only at timely
      omega
  | cons entry rest ih =>
      obtain ⟨admits, later⟩ := replays
      obtain ⟨moment, deal⟩ := entry
      rw [List.forall_mem_cons] at calm
      cases deal with
      | awaits =>
          have idle := admits.awaits rfl
          refine ih later pending calm.2 ?_
          simpa [begins?, idle, List.findSome?_cons, Deal.asked?, next] using began
      | rested => exact ih later pending calm.2 began
      | returned other =>
          obtain ⟨same, due⟩ := admits.returned other rfl
          rw [pending] at same
          cases same
          obtain ⟨start, _, waits, here, sinceWhen, rfl⟩ := due?_eq_some.mp due
          rw [pending] at here
          cases here
          have begun : waits = since := by simpa [begins?, sinceWhen] using began
          subst begun
          exact iff_of_true rfl (later.time_le (time, .rested) (by simp))
      | scheduled | flushed | cancelled | leaves => exact (nomatch calm.1)

/-- What a slot with a quiet window promises about its history, and about what is left pending. -/
structure Debounced (quiet : Nat) (history : History α) (remaining : Option α) : Prop where
  /-- Every answer is right about whether, or what, a value was pending. -/
  answers : ∀ {before after : History α} {entry : Nat × Deal α},
    history = before ++ entry :: after → entry.2.Answers (blank.tally before).pending
  left : remaining = (blank.tally history).pending.map Prod.snd
  /-- A scheduled value ends with the deal that touches it first, or else it is left. -/
  fates : ∀ {before after : History α} {scheduled : Nat} {value : α} {replaced : Bool},
    history = before ++ (scheduled, .scheduled value replaced) :: after →
      match after.find? fun entry => entry.2.touches with
      | some entry => entry.2.Ends value
      | none => remaining = some value
  /-- What is returned was pending, and it is due at that very moment. -/
  returned : ∀ {before after : History α} {time : Nat} {value : α},
    history = before ++ (time, .returned value) :: after →
      ∃ scheduled since, (blank.tally before).pending = some (scheduled, value) ∧
        (blank.tally before).since = some since ∧ time = max (scheduled + quiet) since
  /-- What is pending is returned when it is due, unless something comes first. -/
  returns : ∀ {before calm after : History α} {scheduled since time : Nat} {value : α},
    history = before ++ (calm ++ (time, .rested) :: after) →
    (blank.tally before).pending = some (scheduled, value) →
    (∀ entry ∈ calm, entry.2.isCalm = true) →
    (blank.tally before).begins? calm = some since →
      (calm.findSome? Deal.returned? = some (max (scheduled + quiet) since, value) ↔
        max (scheduled + quiet) since ≤ time)

theorem Replays.debounced {history : History α} (replays : blank.Replays quiet history) :
    Debounced quiet history ((blank.tally history).pending.map Prod.snd) where
  answers := by
    rintro before after entry rfl
    exact (replays_append.mp replays).2.1.answers
  left := rfl
  fates := by
    rintro before after scheduled value replaced rfl
    obtain ⟨_, later⟩ := (replays_append.mp replays).2
    have pending : ((blank.tally before).next (scheduled, .scheduled value replaced)).pending =
        some (scheduled, value) := rfl
    have fate := later.fate pending
    rw [tally_append, tally_cons]
    cases found : after.find? fun entry => entry.2.touches with
    | some entry =>
        rw [found] at fate
        exact fate
    | none =>
        rw [found] at fate
        exact congrArg (Option.map Prod.snd) fate
  returned := by
    rintro before after time value rfl
    obtain ⟨same, due⟩ := (replays_append.mp replays).2.1.returned value rfl
    obtain ⟨scheduled, other, since, pending, waits, rfl⟩ := due?_eq_some.mp due
    rw [pending] at same
    cases same
    exact ⟨scheduled, since, pending, waits, rfl⟩
  returns := by
    rintro before calm after scheduled since time value rfl pending calmly began
    have later := (replays_append.mp replays).2
    rw [← List.singleton_append, ← List.append_assoc] at later
    exact (replays_append.mp later).1.returns_iff pending calmly began

end Ledger

end LivePreview
