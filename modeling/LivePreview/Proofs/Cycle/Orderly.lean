import Mathlib.Data.List.Induction
import LivePreview.Proofs.Cycle.Steps

namespace LivePreview

/-! The order in which workers and refreshes leave their events in a trace.  One event is allowed
to follow another by where the worker stands; what two events far apart have to do with each other
comes out of that. -/

namespace Stamped

def IsStart (stamped : Stamped) : Prop :=
  ∃ firstLoad, stamped.event = .sent (.start firstLoad)

def IsIdle (stamped : Stamped) : Prop :=
  stamped.event = .sent (.status .idle)

def IsRefresh (stamped : Stamped) : Prop :=
  stamped.event = .sent .refresh

/-- An event of a part other than the worker that no worker could bring about. -/
structure IsBeside (stamped : Stamped) : Prop where
  part : ∀ task, stamped.part ≠ .worker task
  start : ¬ stamped.IsStart
  idle : ¬ stamped.IsIdle
  goesOn : ¬ stamped.IsRefresh
  begun : ∀ request, stamped.event ≠ .begun request
  called : ∀ call, stamped.event = .called call → call = .reload

end Stamped

namespace Cycle

inductive Standing
  | resting
  /-- A cycle has begun and is not announced yet. -/
  | opening
  | within

/-- The event may come next when worker number `task` stands so; then worker number `after` does. -/
inductive Follows : Nat → Standing → Stamped → Nat → Standing → Prop
  | beside {task : Nat} {standing : Standing} {stamped : Stamped} (beside : stamped.IsBeside) :
      Follows task standing stamped task standing
  | begun {task : Nat} (time : Nat) (request : CompileRequest) :
      Follows task .resting ⟨time, .worker task, .begun request⟩ task .opening
  | configured {task : Nat} (time : Nat) (hasResolver : Bool) :
      Follows task .opening ⟨time, .worker task, .called (.configureFiles hasResolver)⟩ task
        .opening
  | start {task : Nat} (time : Nat) (firstLoad : Bool) :
      Follows task .opening ⟨time, .worker task, .sent (.start firstLoad)⟩ task .within
  | inner {task : Nat} {event : Event} (time : Nat) (inner : IsInner event) :
      Follows task .within ⟨time, .worker task, event⟩ task .within
  | idle {task : Nat} (time : Nat) :
      Follows task .within ⟨time, .worker task, .sent (.status .idle)⟩ task .resting
  | refreshed {task after : Nat} {standing : Standing} (time : Nat) (less : task < after) :
      Follows task standing ⟨time, .caller, .sent .refresh⟩ after .resting

inductive Orderly : Nat → Standing → List Stamped → Prop
  | nil (task : Nat) : Orderly task .resting []
  | snoc {task after : Nat} {standing next : Standing} {trace : List Stamped} {stamped : Stamped}
      (orderly : Orderly task standing trace) (follows : Follows task standing stamped after next) :
      Orderly after next (trace ++ [stamped])

variable {task after : Nat} {standing next : Standing} {stamped : Stamped} {trace : List Stamped}

theorem not_start_of_inner {event : Event} (inner : IsInner event) (firstLoad : Bool) :
    event ≠ .sent (.start firstLoad) := by
  rintro rfl
  exact inner

theorem not_idle_of_inner {event : Event} (inner : IsInner event) :
    event ≠ .sent (.status .idle) := by
  rintro rfl
  exact inner

theorem not_refresh_of_inner {event : Event} (inner : IsInner event) : event ≠ .sent .refresh := by
  rintro rfl
  exact inner

theorem Follows.le (follows : Follows task standing stamped after next) : task ≤ after := by
  cases follows with
  | refreshed time less => exact Nat.le_of_lt less
  | beside | begun | configured | start | inner | idle => exact Nat.le_refl _

theorem Follows.worker {number : Nat} (follows : Follows task standing stamped after next)
    (part : stamped.part = .worker number) : number = task ∧ after = task := by
  cases follows with
  | beside beside => exact (beside.part number part).elim
  | begun | configured | start | inner | idle =>
      cases part
      exact ⟨rfl, rfl⟩
  | refreshed => cases part

theorem Follows.start_cases (follows : Follows task standing stamped after next)
    (start : stamped.IsStart) :
    standing = .opening ∧ next = .within ∧ stamped.part = .worker after := by
  obtain ⟨firstLoad, event⟩ := start
  cases follows with
  | beside beside => exact (beside.start ⟨firstLoad, event⟩).elim
  | start => exact ⟨rfl, rfl, rfl⟩
  | inner time inner => exact (not_start_of_inner inner firstLoad event).elim
  | begun | configured | idle | refreshed => cases event

theorem Follows.begun_cases {request : CompileRequest}
    (follows : Follows task standing stamped after next) (begins : stamped.event = .begun request) :
    standing = .resting ∧ next = .opening ∧ stamped.part = .worker after := by
  cases follows with
  | beside beside => exact (beside.begun request begins).elim
  | begun => exact ⟨rfl, rfl, rfl⟩
  | inner time inner =>
      cases begins
      exact inner.elim
  | configured | start | idle | refreshed => cases begins

theorem Orderly.last (orderly : Orderly after next (trace ++ [stamped])) :
    ∃ task standing, Orderly task standing trace ∧ Follows task standing stamped after next := by
  generalize whole : trace ++ [stamped] = all at orderly
  cases orderly with
  | nil => simp at whole
  | snoc orderly follows =>
      obtain ⟨rfl, same⟩ := List.append_inj' whole rfl
      cases same
      exact ⟨_, _, orderly, follows⟩

theorem Orderly.split {first second : List Stamped}
    (orderly : Orderly after next (first ++ second)) :
    ∃ task standing, Orderly task standing first ∧ task ≤ after ∧
      ∀ stamped ∈ second, ∀ number, stamped.part = .worker number → task ≤ number := by
  induction second using List.reverseRecOn generalizing after next with
  | nil =>
      rw [List.append_nil] at orderly
      exact ⟨after, next, orderly, Nat.le_refl _, by simp⟩
  | append_singleton rest stamped ih =>
      rw [← List.append_assoc] at orderly
      obtain ⟨middle, standing, orderly, follows⟩ := orderly.last
      obtain ⟨task, standing, orderly, le, later⟩ := ih orderly
      refine ⟨task, standing, orderly, Nat.le_trans le follows.le, ?_⟩
      intro other member number part
      rcases List.mem_append.mp member with earlier | last
      · exact later other earlier number part
      · cases List.mem_singleton.mp last
        obtain ⟨rfl, _⟩ := follows.worker part
        exact le

theorem Orderly.workers (orderly : Orderly task standing trace) :
    ∀ stamped ∈ trace, ∀ number, stamped.part = .worker number → number ≤ task := by
  induction orderly with
  | nil task => simp
  | snoc orderly follows ih =>
      intro stamped member number part
      rcases List.mem_append.mp member with earlier | last
      · exact Nat.le_trans (ih stamped earlier number part) follows.le
      · cases List.mem_singleton.mp last
        obtain ⟨rfl, _⟩ := follows.worker part
        exact follows.le

theorem Orderly.within_of_start {before between : List Stamped} {start : Stamped}
    (orderly : Orderly after next (before ++ start :: between)) (starts : start.IsStart)
    (goesOn : ∀ stamped ∈ between,
      ¬ (stamped.IsIdle ∧ stamped.part = start.part) ∧ ¬ stamped.IsRefresh) :
    start.part = .worker after ∧ next = .within := by
  induction between using List.reverseRecOn generalizing after next with
  | nil =>
      obtain ⟨task, standing, orderly, follows⟩ := orderly.last
      obtain ⟨_, within, part⟩ := follows.start_cases starts
      exact ⟨part, within⟩
  | append_singleton rest stamped ih =>
      rw [← List.cons_append, ← List.append_assoc] at orderly
      obtain ⟨task, standing, orderly, follows⟩ := orderly.last
      obtain ⟨part, rfl⟩ := ih orderly fun stamped member =>
        goesOn stamped (List.mem_append_left _ member)
      obtain ⟨notIdle, notRefresh⟩ := goesOn stamped (by simp)
      cases follows with
      | beside | inner => exact ⟨part, rfl⟩
      | idle => exact (notIdle ⟨rfl, part.symm⟩).elim
      | refreshed => exact (notRefresh rfl).elim

/-- A cycle that has begun goes on until its worker is idle, or replaced. -/
theorem Orderly.busy_of_begun {before between : List Stamped} {first : Stamped}
    {request : CompileRequest} (orderly : Orderly after next (before ++ first :: between))
    (begins : first.event = .begun request)
    (goesOn : ∀ stamped ∈ between,
      ¬ (stamped.IsIdle ∧ stamped.part = first.part) ∧ ¬ stamped.IsRefresh) :
    first.part = .worker after ∧ next ≠ .resting := by
  induction between using List.reverseRecOn generalizing after next with
  | nil =>
      obtain ⟨task, standing, orderly, follows⟩ := orderly.last
      obtain ⟨_, rfl, part⟩ := follows.begun_cases begins
      exact ⟨part, by simp⟩
  | append_singleton rest stamped ih =>
      rw [← List.cons_append, ← List.append_assoc] at orderly
      obtain ⟨task, standing, orderly, follows⟩ := orderly.last
      obtain ⟨part, busy⟩ := ih orderly fun stamped member =>
        goesOn stamped (List.mem_append_left _ member)
      obtain ⟨notIdle, notRefresh⟩ := goesOn stamped (by simp)
      cases follows with
      | beside => exact ⟨part, busy⟩
      | inner | configured | start => exact ⟨part, by simp⟩
      | begun => exact (busy rfl).elim
      | idle => exact (notIdle ⟨rfl, part.symm⟩).elim
      | refreshed => exact (notRefresh rfl).elim

/-- A cycle that is within its course has been announced since it began. -/
theorem Orderly.start_of_begun {before between : List Stamped} {first : Stamped}
    {request : CompileRequest} (orderly : Orderly after .within (before ++ first :: between))
    (begins : first.event = .begun request) :
    ∃ start ∈ between, start.IsStart ∧ start.part = .worker after := by
  induction between using List.reverseRecOn generalizing after with
  | nil =>
      obtain ⟨task, standing, orderly, follows⟩ := orderly.last
      cases (follows.begun_cases begins).2.1
  | append_singleton rest stamped ih =>
      rw [← List.cons_append, ← List.append_assoc] at orderly
      obtain ⟨task, standing, earlier, follows⟩ := orderly.last
      cases follows with
      | beside | inner =>
          obtain ⟨start, member, starts⟩ := ih earlier
          exact ⟨start, List.mem_append_left _ member, starts⟩
      | start time firstLoad =>
          exact ⟨_, List.mem_append_right _ (List.mem_singleton.mpr rfl), ⟨firstLoad, rfl⟩, rfl⟩

/-- A start of worker number `task` has come, and since then neither another start, nor an idle
status, nor a refresh. -/
def Underway (task : Nat) (trace : List Stamped) : Prop :=
  ∃ (earlier : List Stamped) (start : Stamped) (between : List Stamped),
    trace = earlier ++ start :: between ∧ start.IsStart ∧ start.part = .worker task ∧
      ∀ stamped ∈ between, ¬ stamped.IsStart ∧ ¬ stamped.IsIdle ∧ ¬ stamped.IsRefresh

theorem Underway.snoc (underway : Underway task trace)
    (plain : ¬ stamped.IsStart ∧ ¬ stamped.IsIdle ∧ ¬ stamped.IsRefresh) :
    Underway task (trace ++ [stamped]) := by
  obtain ⟨earlier, start, between, rfl, starts, part, plainly⟩ := underway
  refine ⟨earlier, start, between ++ [stamped], by simp, starts, part, ?_⟩
  intro other member
  rcases List.mem_append.mp member with before | last
  · exact plainly other before
  · cases List.mem_singleton.mp last
    exact plain

theorem Orderly.underway (orderly : Orderly task .within trace) : Underway task trace := by
  generalize stands : Standing.within = standing at orderly
  induction orderly with
  | nil task => cases stands
  | @snoc task after standing next trace stamped orderly follows ih =>
      cases stands
      cases follows with
      | beside beside => exact (ih rfl).snoc ⟨beside.start, beside.idle, beside.goesOn⟩
      | start time firstLoad => exact ⟨trace, _, [], rfl, ⟨firstLoad, rfl⟩, rfl, by simp⟩
      | inner time inner =>
          refine (ih rfl).snoc ⟨?_, not_idle_of_inner inner, not_refresh_of_inner inner⟩
          rintro ⟨firstLoad, event⟩
          exact not_start_of_inner inner firstLoad event

theorem Follows.within_cases {message : Outbound} {number : Nat}
    (follows : Follows task standing stamped after next) (sent : stamped.event = .sent message)
    (part : stamped.part = .worker number) (goesOn : ¬ stamped.IsStart) :
    standing = .within ∧ number = task := by
  obtain ⟨same, _⟩ := follows.worker part
  refine ⟨?_, same⟩
  cases follows with
  | beside beside => exact (beside.part number part).elim
  | start time firstLoad => exact (goesOn ⟨firstLoad, rfl⟩).elim
  | inner | idle => rfl
  | refreshed => cases part
  | begun | configured => cases sent

/-- At most one cycle shows at a time, and none of it shows after the refresh that cuts it off. -/
structure Conduct (trace : List Stamped) : Prop where
  /-- Between two starts the first cycle becomes idle, or there is a refresh. -/
  apart : ∀ {before between after : List Stamped} {first second : Stamped},
    trace = before ++ first :: (between ++ second :: after) → first.IsStart → second.IsStart →
      ∃ stamped ∈ between, stamped.IsIdle ∧ stamped.part = first.part ∨ stamped.IsRefresh
  /-- Every other message of a worker comes after a start of the same worker, with no idle status
  and no refresh between them. -/
  within : ∀ {before after : List Stamped} {stamped : Stamped} {message : Outbound} {task : Nat},
    trace = before ++ stamped :: after → stamped.event = .sent message →
    stamped.part = .worker task → ¬ stamped.IsStart → Underway task before
  /-- No worker brings about anything both before a refresh and after it. -/
  cut : ∀ {before after : List Stamped} {first refresh second : Stamped} {task : Nat},
    trace = before ++ refresh :: after → refresh.IsRefresh → first ∈ before → second ∈ after →
    first.part = .worker task → second.part ≠ .worker task

theorem Orderly.last_of_append {before rest : List Stamped}
    (orderly : Orderly after next (before ++ stamped :: rest)) :
    ∃ task standing middle stands, Orderly task standing before ∧
      Follows task standing stamped middle stands ∧
      ∀ other ∈ rest, ∀ number, other.part = .worker number → middle ≤ number := by
  have whole : before ++ stamped :: rest = before ++ [stamped] ++ rest := by simp
  rw [whole] at orderly
  obtain ⟨middle, stands, orderly, _, later⟩ := orderly.split
  obtain ⟨task, standing, orderly, follows⟩ := orderly.last
  exact ⟨task, standing, middle, stands, orderly, follows, later⟩

theorem Follows.refresh_less (follows : Follows task standing stamped after next)
    (refresh : stamped.IsRefresh) : task < after := by
  cases follows with
  | beside beside => exact (beside.goesOn refresh).elim
  | inner time inner => exact (not_refresh_of_inner inner refresh).elim
  | refreshed time less => exact less
  | begun | configured | start | idle => cases refresh

theorem Orderly.conduct (orderly : Orderly task standing trace) : Conduct trace where
  apart := by
    rintro before between after first second rfl starts startsAgain
    rw [← List.cons_append, ← List.append_assoc] at orderly
    obtain ⟨number, stands, _, _, earlier, follows, _⟩ := orderly.last_of_append
    obtain ⟨rfl, _, _⟩ := follows.start_cases startsAgain
    by_contra none
    have goesOn : ∀ stamped ∈ between,
        ¬ (stamped.IsIdle ∧ stamped.part = first.part) ∧ ¬ stamped.IsRefresh := by
      intro stamped member
      exact ⟨fun idle => none ⟨stamped, member, .inl idle⟩,
        fun refresh => none ⟨stamped, member, .inr refresh⟩⟩
    obtain ⟨_, stands⟩ := earlier.within_of_start starts goesOn
    cases stands
  within := by
    rintro before after stamped message number rfl sent part goesOn
    obtain ⟨task, stands, _, _, earlier, follows, _⟩ := orderly.last_of_append
    obtain ⟨rfl, rfl⟩ := follows.within_cases sent part goesOn
    exact earlier.underway
  cut := by
    rintro before after first refresh second number rfl refreshes among later part same
    obtain ⟨task, _, middle, _, earlier, follows, workers⟩ := orderly.last_of_append
    have old := earlier.workers first among number part
    have new := workers second later number same
    have less := follows.refresh_less refreshes
    omega

theorem Orderly.append_beside (orderly : Orderly task standing trace) {events : List Stamped}
    (beside : ∀ stamped ∈ events, stamped.IsBeside) : Orderly task standing (trace ++ events) := by
  induction events generalizing trace with
  | nil => rwa [List.append_nil]
  | cons stamped rest ih =>
      have longer := orderly.snoc (.beside (beside stamped (by simp)))
      have whole := ih longer fun other member => beside other (by simp [member])
      rwa [List.append_assoc] at whole

theorem Orderly.append_inner (orderly : Orderly task .within trace) {events : List Event}
    (inner : ∀ event ∈ events, IsInner event) (time : Nat) :
    Orderly task .within (trace ++ events.map (Stamped.mk time (.worker task))) := by
  induction events generalizing trace with
  | nil => rwa [List.map_nil, List.append_nil]
  | cons event rest ih =>
      have longer := orderly.snoc (.inner time (inner event (by simp)))
      have whole := ih longer fun other member => inner other (by simp [member])
      rwa [List.append_assoc] at whole

def standingAfter : Progress → Standing
  | .ended => .resting
  | _ => .within

theorem Orderly.append_step (orderly : Orderly task .within trace) {events : List Event}
    (inner : ∀ event ∈ events, IsInner event) (progress : Progress) (time : Nat) :
    Orderly task (standingAfter progress)
      (trace ++ (events ++ progress.closing).map (Stamped.mk time (.worker task))) := by
  rw [List.map_append, ← List.append_assoc]
  have within := orderly.append_inner inner time
  cases progress with
  | ended => exact within.snoc (.idle time)
  | asleep wake stage => simpa [Progress.closing, standingAfter] using within
  | crashed note => simpa [Progress.closing, standingAfter] using within

theorem Orderly.append_configured (orderly : Orderly task .resting trace)
    (request : CompileRequest) (time : Nat) :
    Orderly task .opening (trace ++
      [.begun request, .called (.configureFiles request.hasFileResolver)].map
        (Stamped.mk time (.worker task))) := by
  have configured := (orderly.snoc (.begun time request)).snoc
    (.configured time request.hasFileResolver)
  rwa [List.append_assoc] at configured

theorem Orderly.append_announcement (orderly : Orderly task .opening trace) (firstLoad : Bool)
    (time : Nat) :
    Orderly task .within
      (trace ++ (announcement firstLoad).map (Stamped.mk time (.worker task))) := by
  have started := orderly.snoc (.start time firstLoad)
  have inner : ∀ event ∈ (announcement firstLoad).tail, IsInner event := by
    cases firstLoad <;> simp [announcement, IsInner]
  have announced := started.append_inner inner time
  rwa [List.append_assoc] at announced

end Cycle

end LivePreview
