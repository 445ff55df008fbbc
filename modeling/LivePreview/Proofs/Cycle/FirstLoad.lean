import LivePreview.Proofs.Cycle.Orderly

namespace LivePreview

/-! First loads, as a trace tells of them.  Whether a cycle is the first since the document was
loaded is settled by the compiles that have ended before it, and the first is the one that resets
the modules. -/

namespace Stamped

def IsDone (stamped : Stamped) : Prop :=
  ∃ failed, stamped.event = .sent (.done failed)

def isReset (stamped : Stamped) : Bool :=
  match stamped.event with
  | .called .resetModules => true
  | _ => false

theorem isReset_iff (stamped : Stamped) :
    stamped.isReset = true ↔ stamped.event = .called .resetModules := by
  unfold isReset
  split <;> simp_all

end Stamped

/-- A compile has ended since the document was loaded. -/
def Compiled (trace : List Stamped) : Prop :=
  ∃ (earlier : List Stamped) (done : Stamped) (later : List Stamped),
    trace = earlier ++ done :: later ∧ done.IsDone ∧ ∀ stamped ∈ later, ¬ stamped.IsRefresh

theorem not_compiled_nil : ¬ Compiled [] := by
  rintro ⟨earlier, done, later, split, _⟩
  simp at split

theorem compiled_snoc (trace : List Stamped) (stamped : Stamped) :
    Compiled (trace ++ [stamped]) ↔ stamped.IsDone ∨ Compiled trace ∧ ¬ stamped.IsRefresh := by
  constructor
  · rintro ⟨earlier, done, later, split, isDone, goesOn⟩
    rcases append_eq_append_cons split with ⟨within, _, last⟩ | ⟨between, rfl, rfl⟩
    · have here : within = [] ∧ stamped = done := by
        cases within <;> simp_all
      exact .inl (here.2 ▸ isDone)
    · refine .inr ⟨⟨earlier, done, between, rfl, isDone, ?_⟩, goesOn stamped (by simp)⟩
      exact fun other member => goesOn other (by simp [member])
  · rintro (isDone | ⟨⟨earlier, done, later, rfl, isDone, goesOn⟩, plain⟩)
    · exact ⟨trace, stamped, [], rfl, isDone, by simp⟩
    · refine ⟨earlier, done, later ++ [stamped], by simp, isDone, ?_⟩
      intro other member
      rcases List.mem_append.mp member with before | last
      · exact goesOn other before
      · cases List.mem_singleton.mp last
        exact plain

namespace Cycle

variable {firstLoad last : Bool} {trace before after : List Stamped} {stamped : Stamped}
  {task next : Nat} {standing stands : Standing}

/-- Whether the next cycle is the first load, if it was so before the event. -/
def firstLoadAfter (firstLoad : Bool) : Event → Bool
  | .sent .refresh => true
  | event => firstLoad && !EndsCompile event

/-- Announcements come whole, and the one that comes next says that it is the first load just when
it is. -/
inductive Paced : Bool → List Stamped → Prop
  | nil : Paced true []
  | single {firstLoad : Bool} {trace : List Stamped} (paced : Paced firstLoad trace)
      (stamped : Stamped) (silent : ∀ firstLoad, stamped.event ∉ announcement firstLoad) :
      Paced (firstLoadAfter firstLoad stamped.event) (trace ++ [stamped])
  | announced {firstLoad : Bool} {trace : List Stamped} (paced : Paced firstLoad trace)
      (time : Nat) (part : Part) :
      Paced firstLoad (trace ++ (announcement firstLoad).map (Stamped.mk time part))

theorem endsCompile_iff (event : Event) :
    EndsCompile event = true ↔ ∃ failed, event = .sent (.done failed) := by
  unfold EndsCompile
  split <;> simp_all

theorem firstLoadAfter_iff (firstLoad : Bool) (stamped : Stamped) :
    firstLoadAfter firstLoad stamped.event = true ↔
      ¬ stamped.IsDone ∧ (firstLoad = true ∨ stamped.IsRefresh) := by
  unfold firstLoadAfter Stamped.IsDone Stamped.IsRefresh
  split
  next refresh => simp [refresh]
  next goesOn =>
      rw [Bool.and_eq_true, Bool.not_eq_true', ← Bool.not_eq_true, endsCompile_iff]
      grind

theorem compiled_append_announcement (trace : List Stamped) (firstLoad : Bool) (time : Nat)
    (part : Part) :
    Compiled (trace ++ (announcement firstLoad).map (Stamped.mk time part)) ↔ Compiled trace := by
  have plain : ∀ event ∈ announcement firstLoad,
      ¬ (⟨time, part, event⟩ : Stamped).IsDone ∧ ¬ (⟨time, part, event⟩ : Stamped).IsRefresh := by
    cases firstLoad <;> simp [announcement, Stamped.IsDone, Stamped.IsRefresh]
  generalize announcement firstLoad = events at plain
  induction events generalizing trace with
  | nil => simp
  | cons event rest ih =>
      obtain ⟨undone, goesOn⟩ := plain event (by simp)
      have later := ih (trace ++ [⟨time, part, event⟩]) fun other member =>
        plain other (by simp [member])
      rw [List.append_assoc] at later
      refine later.trans ((compiled_snoc trace _).trans ?_)
      simp only [undone, goesOn, not_false_eq_true, and_true, false_or]

theorem Paced.firstLoad_iff (paced : Paced firstLoad trace) :
    firstLoad = true ↔ ¬ Compiled trace := by
  induction paced with
  | nil => simp [not_compiled_nil]
  | single paced stamped silent ih =>
      rw [firstLoadAfter_iff, compiled_snoc, ih]
      grind
  | announced paced time part ih => rw [compiled_append_announcement, ih]

theorem Paced.announcement_cases
    (paced : Paced last (before ++ stamped :: after))
    (announces : stamped.event ∈ announcement firstLoad) :
    ∃ (told : Bool) (earlier within more later : List Stamped), Paced told earlier ∧
      before = earlier ++ within ∧ after = more ++ later ∧
      (announcement told).map (Stamped.mk stamped.time stamped.part) =
        within ++ stamped :: more := by
  generalize whole : before ++ stamped :: after = trace at paced
  induction paced generalizing after with
  | nil => simp at whole
  | single paced other silent ih =>
      rcases append_eq_append_cons whole.symm with ⟨within, _, here⟩ | ⟨between, there, rfl⟩
      · have same : other = stamped := by cases within <;> simp_all
        exact (silent firstLoad (same ▸ announces)).elim
      · obtain ⟨told, earlier, within, more, later, start, split, rfl, chunk⟩ := ih there.symm
        exact ⟨told, earlier, within, more, later ++ [other], start, split, by simp, chunk⟩
  | @announced told trace paced time part ih =>
      rcases append_eq_append_cons whole.symm with ⟨within, split, here⟩ | ⟨between, there, rfl⟩
      · have among : stamped ∈ (announcement told).map (Stamped.mk time part) := by simp [here]
        obtain ⟨event, _, rfl⟩ := List.mem_map.mp among
        exact ⟨told, trace, within, after, [], paced, split, by simp, here⟩
      · obtain ⟨flag, earlier, within, more, later, start, split, rfl, chunk⟩ := ih there.symm
        exact ⟨flag, earlier, within, more, _, start, split, List.append_assoc .., chunk⟩

theorem start_mem_announcement (firstLoad : Bool) :
    .sent (.start firstLoad) ∈ announcement firstLoad := by
  simp [announcement]

theorem Paced.start_cases {time : Nat} {part : Part}
    (paced : Paced last (before ++ ⟨time, part, .sent (.start firstLoad)⟩ :: after)) :
    Paced firstLoad before ∧
      ∃ later, after = (announcement firstLoad).tail.map (Stamped.mk time part) ++ later := by
  obtain ⟨told, earlier, within, more, later, start, rfl, rfl, chunk⟩ :=
    paced.announcement_cases (start_mem_announcement firstLoad)
  cases within with
  | nil =>
      simp only [announcement, List.map_cons, List.cons_append,
        List.nil_append, List.cons.injEq, Stamped.mk.injEq, true_and, Event.sent.injEq,
        Outbound.start.injEq] at chunk
      obtain ⟨rfl, rfl⟩ := chunk
      exact ⟨by simpa using start, later, rfl⟩
  | cons first within =>
      exfalso
      cases told <;> rcases within with _ | ⟨_, _ | ⟨_, _⟩⟩ <;> simp [announcement] at chunk

theorem Paced.reset_cases {time : Nat} {part : Part}
    (paced : Paced last (before ++ ⟨time, part, .called .resetModules⟩ :: after)) :
    ∃ earlier, before = earlier ++
      [⟨time, part, .sent (.start true)⟩, ⟨time, part, .sent (.status .initializing)⟩] := by
  have announces : Event.called .resetModules ∈ announcement true := by simp [announcement]
  obtain ⟨told, earlier, within, more, later, start, rfl, rfl, chunk⟩ :=
    paced.announcement_cases announces
  refine ⟨earlier, ?_⟩
  cases told <;> rcases within with _ | ⟨_, _ | ⟨_, _ | ⟨_, _⟩⟩⟩ <;> simp [announcement] at chunk
  simp [chunk]

theorem not_start_of_mem_tail (firstLoad : Bool) (time : Nat) (part : Part) :
    ∀ stamped ∈ (announcement firstLoad).tail.map (Stamped.mk time part), ¬ stamped.IsStart := by
  cases firstLoad <;> simp [announcement, Stamped.IsStart]

theorem eq_of_last_start {first second : Stamped} {early late : List Stamped}
    (split : before ++ first :: early = after ++ second :: late) (starts : first.IsStart)
    (startsAgain : second.IsStart) (plain : ∀ stamped ∈ early, ¬ stamped.IsStart)
    (plainly : ∀ stamped ∈ late, ¬ stamped.IsStart) : first = second ∧ early = late := by
  rcases append_eq_append_cons split with ⟨within, rfl, here⟩ | ⟨between, rfl, rfl⟩
  · cases within with
    | nil =>
        cases here
        exact ⟨rfl, rfl⟩
    | cons _ within =>
        cases here
        exact (plain second (by simp) startsAgain).elim
  · exact (plainly first (by simp) starts).elim

theorem Paced.reset_of_start {between : List Stamped} {reset : Stamped} {time : Nat} {part : Part}
    (paced : Paced last
      (before ++ ⟨time, part, .sent (.start firstLoad)⟩ :: (between ++ reset :: after)))
    (resets : reset.event = .called .resetModules)
    (plain : ∀ stamped ∈ between, ¬ stamped.IsStart) :
    firstLoad = true ∧ between.length = 1 := by
  obtain ⟨moment, worker, event⟩ := reset
  cases resets
  rw [← List.cons_append, ← List.append_assoc] at paced
  obtain ⟨earlier, announced⟩ := paced.reset_cases
  obtain ⟨same, rfl⟩ := eq_of_last_start announced ⟨firstLoad, rfl⟩ ⟨true, rfl⟩ plain
    (by simp [Stamped.IsStart])
  cases same
  exact ⟨rfl, rfl⟩

/-- The modules have been reset once since a start that says it is the first load, up to the next
start, and not at all since another. -/
theorem Paced.resets_eq {cycle : List Stamped} {time : Nat} {part : Part}
    (paced : Paced last (before ++ ⟨time, part, .sent (.start firstLoad)⟩ :: (cycle ++ after)))
    (within : ∀ stamped ∈ cycle, ¬ stamped.IsStart)
    (up : ∀ stamped ∈ after.head?, stamped.IsStart) :
    cycle.countP Stamped.isReset = if firstLoad then 1 else 0 := by
  have plain := not_start_of_mem_tail firstLoad time part
  obtain ⟨_, later, split⟩ := paced.start_cases
  generalize opened : (announcement firstLoad).tail.map (Stamped.mk time part) = opening at *
  have whole : ∃ rest, cycle = opening ++ rest := by
    rcases List.append_eq_append_iff.mp split with ⟨missing, rfl, rfl⟩ | ⟨rest, rfl, _⟩
    · cases missing with
      | nil => exact ⟨[], by simp⟩
      | cons next missing => exact (plain next (by simp) (up next rfl)).elim
    · exact ⟨rest, rfl⟩
  obtain ⟨rest, rfl⟩ := whole
  have silent : ∀ stamped ∈ rest, ¬ stamped.isReset = true := by
    intro reset member resets
    obtain ⟨first, second, rfl⟩ := List.append_of_mem member
    have split : opening ++ (first ++ reset :: second) ++ after =
        (opening ++ first) ++ reset :: (second ++ after) := by simp
    rw [split] at paced
    obtain ⟨rfl, short⟩ := paced.reset_of_start ((Stamped.isReset_iff reset).mp resets)
      fun stamped among => within stamped (by
        rw [← List.append_assoc]
        exact List.mem_append_left _ among)
    simp [← opened, announcement] at short
  rw [List.countP_append, List.countP_eq_zero.mpr silent, ← opened]
  cases firstLoad <;> rfl

/-- Whether a cycle is the first load is settled by the compiles that have ended, and the first
load is the one that resets the modules. -/
structure FirstLoads (trace : List Stamped) : Prop where
  /-- A start says that it is the first load just when no compile has ended since the document was
  loaded. -/
  told : ∀ {before after : List Stamped} {time : Nat} {part : Part} {firstLoad : Bool},
    trace = before ++ ⟨time, part, .sent (.start firstLoad)⟩ :: after →
      (firstLoad = true ↔ ¬ Compiled before)
  /-- From such a start up to the next the modules are reset once, from any other not at all. -/
  resets : ∀ {before cycle after : List Stamped} {time : Nat} {part : Part} {firstLoad : Bool},
    trace = before ++ ⟨time, part, .sent (.start firstLoad)⟩ :: (cycle ++ after) →
    (∀ stamped ∈ cycle, ¬ stamped.IsStart) → (∀ stamped ∈ after.head?, stamped.IsStart) →
      cycle.countP Stamped.isReset = if firstLoad then 1 else 0
  /-- They are reset right after the cycle has said that it is initializing. -/
  reset : ∀ {before after : List Stamped} {stamped : Stamped},
    trace = before ++ stamped :: after → stamped.event = .called .resetModules →
      ∃ earlier, before = earlier ++
        [⟨stamped.time, stamped.part, .sent (.start true)⟩,
          ⟨stamped.time, stamped.part, .sent (.status .initializing)⟩]
  /-- A transformer is loaded within a cycle that has been announced, its modules reset if they were
  to be. -/
  loads : ∀ {before after : List Stamped} {stamped : Stamped} {name : String},
    trace = before ++ stamped :: after → stamped.event = .called (.load name) →
      ∃ (earlier between : List Stamped) (time : Nat) (firstLoad : Bool),
        before = earlier ++ (announcement firstLoad).map (Stamped.mk time stamped.part) ++ between ∧
          ∀ other ∈ between, ¬ other.IsStart ∧ ¬ other.IsIdle ∧ ¬ other.IsRefresh

theorem Follows.load_cases {name : String} (follows : Follows task standing stamped next stands)
    (loads : stamped.event = .called (.load name)) :
    standing = .within ∧ stamped.part = .worker task := by
  cases follows with
  | beside beside => cases beside.called _ loads
  | inner => exact ⟨rfl, rfl⟩
  | begun | configured | start | idle | refreshed => cases loads

theorem Paced.announced_of_underway (paced : Paced last (before ++ stamped :: after))
    (underway : Underway task before)
    (silent : ∀ firstLoad, stamped.event ∉ announcement firstLoad) :
    ∃ (earlier between : List Stamped) (time : Nat) (firstLoad : Bool),
      before = earlier ++ (announcement firstLoad).map (Stamped.mk time (.worker task)) ++ between ∧
        ∀ other ∈ between, ¬ other.IsStart ∧ ¬ other.IsIdle ∧ ¬ other.IsRefresh := by
  obtain ⟨earlier, ⟨time, _, _⟩, between, rfl, ⟨firstLoad, rfl⟩, rfl, plain⟩ := underway
  rw [List.append_assoc, List.cons_append] at paced
  obtain ⟨_, later, split⟩ := paced.start_cases
  rcases append_eq_append_cons split.symm with ⟨rest, rfl, _⟩ | ⟨missing, tail, _⟩
  · refine ⟨earlier, rest, time, firstLoad, by simp [announcement], ?_⟩
    exact fun other member => plain other (List.mem_append_right _ member)
  · have among : stamped ∈ (announcement firstLoad).tail.map (Stamped.mk time (.worker task)) := by
      simp [tail]
    obtain ⟨event, member, rfl⟩ := List.mem_map.mp among
    exact (silent firstLoad (List.mem_of_mem_tail member)).elim

theorem Paced.firstLoads (paced : Paced last trace) (orderly : Orderly task standing trace) :
    FirstLoads trace where
  told := by
    rintro before after time part firstLoad rfl
    exact paced.start_cases.1.firstLoad_iff
  resets := by
    rintro before cycle after time part firstLoad rfl within up
    exact paced.resets_eq within up
  reset := by
    rintro before after ⟨time, part, _⟩ rfl rfl
    exact paced.reset_cases
  loads := by
    rintro before after stamped name rfl loads
    obtain ⟨task, _, _, _, earlier, follows, _⟩ := orderly.last_of_append
    obtain ⟨rfl, part⟩ := follows.load_cases loads
    have silent : ∀ firstLoad, stamped.event ∉ announcement firstLoad := by
      intro firstLoad
      cases firstLoad <;> simp [announcement, loads]
    rw [part]
    exact paced.announced_of_underway earlier.underway silent

def IsPlain : Event → Prop
  | .sent (.start _) | .sent (.status .initializing) | .sent .refresh | .called .resetModules =>
    False
  | _ => True

theorem plain_of_onward {event : Event} (onward : IsOnward event) : IsPlain event := by
  obtain ⟨inner, announced, keeps⟩ := onward
  unfold IsPlain
  split
  · exact inner
  · exact announced rfl
  · exact inner
  · exact keeps rfl
  · trivial

theorem firstLoadAfter_of_plain {event : Event} (plain : IsPlain event) (firstLoad : Bool) :
    firstLoadAfter firstLoad event = (firstLoad && !EndsCompile event) := by
  unfold firstLoadAfter
  split
  · exact plain.elim
  · rfl

theorem Paced.snoc (paced : Paced firstLoad trace) (plain : IsPlain stamped.event) :
    Paced (firstLoad && !EndsCompile stamped.event) (trace ++ [stamped]) := by
  rw [← firstLoadAfter_of_plain plain]
  refine paced.single stamped fun firstLoad announces => ?_
  have marked : ∀ event ∈ announcement firstLoad, ¬ IsPlain event := by
    cases firstLoad <;> simp [announcement, IsPlain]
  exact marked stamped.event announces plain

theorem Paced.append_plain (paced : Paced firstLoad trace) {events : List Stamped}
    (plain : ∀ stamped ∈ events, IsPlain stamped.event) :
    Paced (firstLoad && !events.any fun stamped => EndsCompile stamped.event)
      (trace ++ events) := by
  induction events generalizing firstLoad trace with
  | nil => simpa using paced
  | cons stamped rest ih =>
      have whole := ih (paced.snoc (plain stamped (by simp))) fun other member =>
        plain other (by simp [member])
      rw [List.append_assoc, Bool.and_assoc, ← Bool.not_or] at whole
      exact whole

theorem Paced.append_calm (paced : Paced firstLoad trace) {events : List Stamped}
    (calm : ∀ stamped ∈ events, IsPlain stamped.event ∧ EndsCompile stamped.event = false) :
    Paced firstLoad (trace ++ events) := by
  have whole := paced.append_plain fun stamped member => (calm stamped member).1
  have endless : (events.any fun stamped => EndsCompile stamped.event) = false := by
    rw [List.any_eq_false]
    exact fun stamped member => by simp [(calm stamped member).2]
  rw [endless] at whole
  simpa using whole

open Session

variable {σ : Type u} {session : Session σ}

theorem paced_of_adds {earlier later : Session σ} {events : List Event}
    (paced : Paced earlier.firstLoad (seen earlier.trace)) (adds : earlier.Adds later events)
    (plain : ∀ event ∈ events, IsPlain event)
    (firstLoad : later.firstLoad = (earlier.firstLoad && !events.any EndsCompile)) :
    Paced later.firstLoad (seen later.trace) := by
  have stamped : ∀ stamped ∈ events.map earlier.stamp, IsPlain stamped.event := by
    intro stamped member
    obtain ⟨event, among, rfl⟩ := List.mem_map.mp member
    exact plain event among
  have longer := paced.append_plain stamped
  rw [List.any_map] at longer
  rw [adds.seen, firstLoad]
  exact longer

theorem paced_step {step : Progress × Session σ}
    (paced : Paced session.firstLoad (seen session.trace))
    (lawful : Lawful safe bound session step) : Paced step.2.firstLoad (seen step.2.trace) := by
  obtain ⟨inner, last, goes, closes, firstLoad⟩ := lawful.goes
  have onward := paced_of_adds paced goes.adds
    (fun event member => plain_of_onward (goes.onward event member)) goes.firstLoad
  refine paced_of_adds onward closes ?_ ?_
  · cases step.1 <;> simp [Progress.closing, IsPlain]
  · rw [firstLoad]
    cases step.1 <;> simp [Progress.closing, EndsCompile]

theorem paced_begin (setup : Setup σ) (request : CompileRequest)
    (paced : Paced session.firstLoad (seen session.trace)) :
    Paced (begin setup request session).2.firstLoad
      (seen (begin setup request session).2.trace) := by
  have configures := paced_of_adds paced (adds_configured setup request session)
    (by simp [IsPlain])
    (by simp [firstLoad_of_memory (memory_configured setup request session), EndsCompile])
  rcases begin_cases setup request session with ⟨note, crashed, _⟩ | announces
  · rw [crashed]
    exact configures
  · rw [announces]
    have announced := configures.announced (configured setup request session).2.now
      (configured setup request session).2.part
    refine paced_step ?_ (lawful_announce setup request _)
    rw [(adds_announced setup _).seen, firstLoad_of_memory (memory_announced setup _)]
    exact announced

end Cycle

end LivePreview
