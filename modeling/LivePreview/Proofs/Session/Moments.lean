import LivePreview.Proofs.Session.Seen

namespace LivePreview

/-! The life of compile requests, as a trace tells it.  One request is pending at most; the moment
that comes next decides what becomes of it. -/

inductive Moment
  | accepted (request : CompileRequest)
  | begun (request : CompileRequest)
  | refreshed
deriving DecidableEq

def Event.moment? : Event → Option Moment
  | .accepted request => some (.accepted request)
  | .begun request => some (.begun request)
  | .sent .refresh => some .refreshed
  | _ => none

def moments (trace : List Stamped) : List Moment :=
  trace.filterMap fun stamped => stamped.event.moment?

@[simp] theorem moments_append (first second : List Stamped) :
    moments (first ++ second) = moments first ++ moments second := by
  simp [moments]

theorem moments_seen (trace : List Stamped) : moments (seen trace) = moments trace :=
  filterMap_seen (fun _ _ _ => rfl) trace

def Moment.event : Moment → Event
  | .accepted request => .accepted request
  | .begun request => .begun request
  | .refreshed => .sent .refresh

theorem event_of_moment {event : Event} {moment : Moment} (is : event.moment? = some moment) :
    event = moment.event := by
  unfold Event.moment? at is
  split at is <;> cases is <;> rfl

theorem moments_of_adds {σ : Type u} {before after : Session σ} {events : List Event}
    (adds : before.Adds after events) :
    moments after.trace = moments before.trace ++ events.filterMap Event.moment? := by
  rw [← moments_seen, adds.seen, moments_append, moments_seen]
  congr 1
  simp only [moments, List.filterMap_map]
  rfl

namespace Moment

/-- What is pending in the end, provided that nothing begins but what is pending. -/
def replay? : Option CompileRequest → List Moment → Option (Option CompileRequest)
  | pending, [] => some pending
  | _, .accepted request :: rest => replay? (some request) rest
  | pending, .begun request :: rest => if pending = some request then replay? none rest else none
  | _, .refreshed :: rest => replay? none rest

theorem replay?_append (pending : Option CompileRequest) (first second : List Moment) :
    replay? pending (first ++ second) =
      (replay? pending first).bind fun left => replay? left second := by
  induction first generalizing pending with
  | nil => rfl
  | cons moment rest ih =>
      cases moment with
      | accepted request => exact ih (some request)
      | refreshed => exact ih none
      | begun request =>
          simp only [List.cons_append, replay?]
          split
          · exact ih none
          · rfl

def accepted? : Moment → Option CompileRequest
  | .accepted request => some request
  | _ => none

def begun? : Moment → Option CompileRequest
  | .begun request => some request
  | _ => none

inductive Fate
  | started
  | replaced
  | dropped
  | pending
deriving DecidableEq

/-- What becomes of a pending request, by the moment that comes next. -/
def fate : List Moment → Fate
  | .begun _ :: _ => .started
  | .accepted _ :: _ => .replaced
  | .refreshed :: _ => .dropped
  | [] => .pending

/-- Every accepted request with its fate, in order. -/
def fates : List Moment → List (CompileRequest × Fate)
  | .accepted request :: rest => (request, fate rest) :: fates rest
  | .begun _ :: rest | .refreshed :: rest => fates rest
  | [] => []

def started : List (CompileRequest × Fate) → List CompileRequest
  | (request, .started) :: rest => request :: started rest
  | (_, .replaced) :: rest | (_, .dropped) :: rest | (_, .pending) :: rest => started rest
  | [] => []

theorem started_sublist (entries : List (CompileRequest × Fate)) :
    (started entries).Sublist (entries.map Prod.fst) := by
  induction entries with
  | nil => exact .slnil
  | cons entry rest ih =>
      obtain ⟨request, fate⟩ := entry
      cases fate with
      | started => exact ih.cons_cons request
      | replaced | dropped | pending => exact ih.cons request

theorem fst_fates (history : List Moment) :
    (fates history).map Prod.fst = history.filterMap accepted? := by
  induction history with
  | nil => rfl
  | cons moment rest ih => cases moment <;> simp [fates, accepted?, List.filterMap_cons, ih]

/-- What was pending before, if it begins. -/
def carried (history : List Moment) : Option CompileRequest → List CompileRequest
  | some request => started [(request, fate history)]
  | none => []

theorem begun_eq {pending left : Option CompileRequest} {history : List Moment}
    (replays : replay? pending history = some left) :
    history.filterMap begun? = carried history pending ++ started (fates history) := by
  induction history generalizing pending with
  | nil => cases pending <;> rfl
  | cons moment rest ih =>
      cases moment with
      | accepted request =>
          have later := ih replays
          have next : started ((request, fate rest) :: fates rest) =
              carried rest (some request) ++ started (fates rest) := by
            cases decided : fate rest <;> simp [carried, started, decided]
          rw [fates, next, ← later]
          cases pending <;> rfl
      | refreshed =>
          have later := ih replays
          rw [fates]
          cases pending <;> exact later
      | begun request =>
          simp only [replay?] at replays
          split at replays
          next same =>
              have later := ih replays
              subst same
              exact congrArg (request :: ·) later
          next => cases replays

/-- Every request that began had been accepted, once for each time it began, and in that order. -/
theorem begun_eq_started {left : Option CompileRequest} {history : List Moment}
    (replays : replay? none history = some left) :
    history.filterMap begun? = started (fates history) :=
  begun_eq replays

/-- With nothing pending in the end, every fate is decided. -/
theorem decided {pending : Option CompileRequest} {history : List Moment}
    (replays : replay? pending history = some none) :
    (pending.isSome = true → fate history ≠ .pending) ∧
      ∀ entry ∈ fates history, entry.2 ≠ .pending := by
  induction history generalizing pending with
  | nil =>
      cases pending with
      | none => simp [fates]
      | some request => cases replays
  | cons moment rest ih =>
      cases moment with
      | accepted request =>
          obtain ⟨next, later⟩ := ih replays
          refine ⟨by simp [fate], ?_⟩
          intro entry member
          rcases List.mem_cons.mp member with rfl | member
          · exact next rfl
          · exact later entry member
      | refreshed => exact ⟨by simp [fate], (ih replays).2⟩
      | begun request =>
          simp only [replay?] at replays
          split at replays
          next => exact ⟨by simp [fate], (ih replays).2⟩
          next => cases replays

/-- What is pending in the end began, if nothing else was accepted, and nothing dropped it. -/
theorem begun_of_last {request : CompileRequest} {history : List Moment}
    (replays : replay? (some request) history = some none)
    (alone : ∀ moment ∈ history, moment.accepted? = none ∧ moment ≠ .refreshed) :
    ∃ rest, history = .begun request :: rest := by
  cases history with
  | nil => cases replays
  | cons moment rest =>
      obtain ⟨unaccepted, goesOn⟩ := alone moment (by simp)
      cases moment with
      | accepted other => cases unaccepted
      | refreshed => exact (goesOn rfl).elim
      | begun other =>
          simp only [replay?] at replays
          split at replays
          next same =>
              cases same
              exact ⟨rest, rfl⟩
          next => cases replays

end Moment

end LivePreview
