import LivePreview.Proofs.Cycle.Activation

namespace LivePreview

/-! Cycles one after the other.  Before each of them time may pass, and the host may change. -/

structure Errand (σ : Type u) where
  request : CompileRequest
  wait : Nat
  change : σ → σ

/-- A cycle, from the session it finds to the one it leaves. -/
structure Round (σ : Type u) where
  request : CompileRequest
  before : Session σ
  progress : Cycle.Progress
  after : Session σ

namespace Round

open LivePreview.Cycle Session

variable {σ : Type u} {setup : Setup σ} {round : Round σ}

/-- What the worker has brought about in the cycle. -/
def events (round : Round σ) : List Event :=
  (doneBy round.before.part round.after.trace).drop
    (doneBy round.before.part round.before.trace).length

def loads (round : Round σ) : List String :=
  round.events.filterMap Event.load?

def plans (round : Round σ) : List Plan :=
  round.events.filterMap Event.plan?

def preset (setup : Setup σ) (round : Round σ) : Preset :=
  setup.registry.resolve round.request.template

/-- Whether the preset of the request became ready, or was. -/
def isReady (setup : Setup σ) (round : Round σ) : Bool :=
  (course setup round.request round.before).isReady

/-- What the loads of the cycle came to, if it began any. -/
def initialized (setup : Setup σ) (round : Round σ) : Outcome TransformerSet :=
  initialization setup round.request (opened setup round.request round.before)

/-- The preset that the cycle has loaded, with its transformers. -/
def built? (setup : Setup σ) (round : Round σ) : Option ReadyPreset :=
  if round.loads = [] then none
  else
    match round.initialized setup with
    | .ok transformers => some ⟨round.preset setup, transformers⟩
    | .failed _ | .crashed _ => none

structure Ended (setup : Setup σ) (round : Round σ) : Prop where
  ran : run setup round.request round.before = (.ended, round.after)
  working : round.before.part ≠ .poller

theorem Ended.uncrashed (ended : Ended setup round) :
    ∀ note, (run setup round.request round.before).1 ≠ .crashed note := by
  simp [ended.ran]

theorem Ended.events (ended : Ended setup round) :
    round.events = Cycle.events setup round.request round.before := by
  have brings := brings_run ended.uncrashed ended.working
  rw [ended.ran] at brings
  rw [Round.events, brings.done, List.drop_left]

theorem Ended.loads (ended : Ended setup round) :
    round.loads = (loadsBegun setup round.request
      (opened setup round.request round.before)).map Prod.fst := by
  rw [Round.loads, ended.events, loads_events]

theorem Ended.plans (ended : Ended setup round) {plan : Plan} (built : plan ∈ round.plans) :
    (readied setup round.request (opened setup round.request round.before)).1 =
      .ok plan.ready := by
  rw [Round.plans, ended.events] at built
  exact plans_events built

theorem Ended.ready (ended : Ended setup round) :
    round.after.ready =
      (readied setup round.request (opened setup round.request round.before)).2.ready := by
  rw [← ready_run ended.uncrashed, ended.ran]

/-- What a cycle does about its preset. -/
inductive Activation (setup : Setup σ) (round : Round σ) : Prop
  | reuses {ready : ReadyPreset} (kept : round.before.ready = some ready)
      (fits : ready.preset = round.preset setup) (loads : round.loads = [])
      (isReady : round.isReady setup = true) (after : round.after.ready = some ready)
      (plans : ∀ plan ∈ round.plans, plan.ready = ready)
  | builds {transformers : TransformerSet}
      (unfit : ∀ ready, round.before.ready = some ready → ready.preset ≠ round.preset setup)
      (loads : round.loads ≠ []) (built : round.initialized setup = .ok transformers)
      (isReady : round.isReady setup = true)
      (after : round.after.ready = some ⟨round.preset setup, transformers⟩)
      (plans : ∀ plan ∈ round.plans, plan.ready = ⟨round.preset setup, transformers⟩)
  | fails (unfit : ∀ ready, round.before.ready = some ready → ready.preset ≠ round.preset setup)
      (loads : round.loads ≠ []) (failed : (round.initialized setup).isOk = false)
      (isReady : round.isReady setup = false) (after : round.after.ready = round.before.ready)
      (plans : round.plans = [])

theorem Ended.activation (ended : Ended setup round) : Activation setup round := by
  have planned {ready : ReadyPreset}
      (readies : (readied setup round.request (opened setup round.request round.before)).1 =
        .ok ready) : ∀ plan ∈ round.plans, plan.ready = ready := by
    intro plan built
    have same := (ended.plans built).symm.trans readies
    cases same
    rfl
  have isReady := isReady_course setup round.request round.before
  have before := ready_of_memory (memory_opened setup round.request round.before)
  cases fitting : fitting? setup round.request (opened setup round.request round.before) with
  | some ready =>
      obtain ⟨readies, same⟩ := readied_of_fitting fitting
      have loads := ended.loads
      rw [loadsBegun_of_fitting fitting, List.map_nil] at loads
      obtain ⟨kept, fits⟩ := fitting?_eq_some.mp fitting
      rw [readies] at isReady
      exact .reuses (before ▸ kept) fits loads isReady (ended.ready.trans (same.trans kept))
        (planned readies)
  | none =>
      have unfit : ∀ ready, round.before.ready = some ready →
          ready.preset ≠ round.preset setup := by
        intro ready kept fits
        rw [fitting?_eq_some.mpr ⟨before.trans kept, fits⟩] at fitting
        cases fitting
      have loads : round.loads ≠ [] := by
        rw [ended.loads]
        simpa using loadsBegun_of_unfit fitting
      have fails (failed : (round.initialized setup).isOk = false) : Activation setup round := by
        obtain ⟨⟨failure, error⟩, same⟩ := readied_of_uninitialized fitting failed
        rw [error] at isReady
        have plans : round.plans = [] := by
          refine List.eq_nil_iff_forall_not_mem.mpr fun plan built => ?_
          cases error.symm.trans (ended.plans built)
        exact .fails unfit loads failed isReady (ended.ready.trans (same.trans before)) plans
      cases initialized : round.initialized setup with
      | ok transformers =>
          obtain ⟨readies, after⟩ := readied_of_initialized fitting initialized
          rw [readies] at isReady
          exact .builds unfit loads initialized isReady (ended.ready.trans after) (planned readies)
      | failed failure => exact fails (by rw [initialized]; rfl)
      | crashed note => exact fails (by rw [initialized]; rfl)

def lastReady (setup : Setup σ) (past : List (Round σ)) : Option Preset :=
  (past.filter (isReady setup)).getLast?.map (preset setup)

def lastBuilt (setup : Setup σ) (past : List (Round σ)) : Option ReadyPreset :=
  (past.filterMap (built? setup)).getLast?

theorem lastReady_snoc (setup : Setup σ) (past : List (Round σ)) (round : Round σ) :
    lastReady setup (past ++ [round]) =
      if round.isReady setup then some (round.preset setup) else lastReady setup past := by
  unfold lastReady
  rw [List.filter_append]
  cases isReady : round.isReady setup <;> simp [isReady]

theorem lastBuilt_snoc (setup : Setup σ) (past : List (Round σ)) (round : Round σ) :
    lastBuilt setup (past ++ [round]) = (round.built? setup).or (lastBuilt setup past) := by
  unfold lastBuilt
  rw [List.filterMap_append]
  cases built : round.built? setup <;> simp [built]

theorem built?_of_loads_eq_nil (loads : round.loads = []) : round.built? setup = none := by
  simp [built?, loads]

theorem built?_of_initialized {transformers : TransformerSet} (loads : round.loads ≠ [])
    (initialized : round.initialized setup = .ok transformers) :
    round.built? setup = some ⟨round.preset setup, transformers⟩ := by
  simp [built?, loads, initialized]

theorem built?_of_failed (failed : (round.initialized setup).isOk = false) :
    round.built? setup = none := by
  unfold built?
  cases initialized : round.initialized setup with
  | ok transformers =>
      rw [initialized] at failed
      cases failed
  | failed failure => simp
  | crashed note => simp

/-- A worker keeps the preset that was loaded last, and it is the one that was ready last. -/
structure Remembers (setup : Setup σ) (past : List (Round σ)) (ready : Option ReadyPreset) :
    Prop where
  built : lastBuilt setup past = ready
  last : lastReady setup past = ready.map ReadyPreset.preset

theorem Remembers.snoc (remembers : Remembers setup past round.before.ready)
    (activation : Activation setup round) :
    Remembers setup (past ++ [round]) round.after.ready := by
  obtain ⟨built, last⟩ := remembers
  cases activation with
  | reuses kept fits loads isReady after =>
      refine ⟨?_, ?_⟩
      · rw [lastBuilt_snoc, built?_of_loads_eq_nil loads, built, after, kept]
        rfl
      · rw [lastReady_snoc, isReady, after, ← fits]
        rfl
  | builds unfit loads initialized isReady after =>
      refine ⟨?_, ?_⟩
      · rw [lastBuilt_snoc, built?_of_initialized loads initialized, after]
        rfl
      · rw [lastReady_snoc, isReady, after]
        rfl
  | fails unfit loads failed isReady after =>
      refine ⟨?_, ?_⟩
      · rw [lastBuilt_snoc, built?_of_failed failed, built, after]
        rfl
      · rw [lastReady_snoc, isReady, after, last]
        rfl

theorem Remembers.loads_iff (remembers : Remembers setup past round.before.ready)
    (activation : Activation setup round) :
    round.loads ≠ [] ↔ lastReady setup past ≠ some (round.preset setup) := by
  rw [remembers.last]
  have needed (unfit : ∀ ready, round.before.ready = some ready →
      ready.preset ≠ round.preset setup) :
      round.before.ready.map ReadyPreset.preset ≠ some (round.preset setup) := by
    intro same
    obtain ⟨ready, kept, fits⟩ := Option.map_eq_some_iff.mp same
    exact unfit ready kept fits
  cases activation with
  | reuses kept fits loads => simp [loads, kept, fits]
  | builds unfit loads | fails unfit loads => exact iff_of_true loads (needed unfit)

theorem Remembers.planned (remembers : Remembers setup past round.before.ready)
    (activation : Activation setup round) {plan : Plan} (built : plan ∈ round.plans) :
    plan.preset = round.preset setup ∧
      lastBuilt setup (past ++ [round]) = some ⟨plan.preset, plan.transformers⟩ := by
  rw [(remembers.snoc activation).built]
  cases activation with
  | reuses kept fits loads isReady after plans =>
      have same := plans plan built
      rw [after, ← fits, ← same]
      exact ⟨rfl, rfl⟩
  | builds unfit loads initialized isReady after plans =>
      have same := plans plan built
      rw [after, ← same]
      exact ⟨congrArg ReadyPreset.preset same, rfl⟩
  | fails unfit loads failed isReady after plans =>
      rw [plans] at built
      cases built

/-- No cycle plans with a stale preset, and none loads one that is still good. -/
structure Coherent (setup : Setup σ) (rounds : List (Round σ)) : Prop where
  /-- A cycle loads unless the preset it needs is that of the last cycle that had one ready. -/
  loads : ∀ {past later : List (Round σ)} {round : Round σ}, rounds = past ++ round :: later →
    (round.loads ≠ [] ↔ lastReady setup past ≠ some (round.preset setup))
  /-- Loads that end badly leave the preset that is ready as it was. -/
  keeps : ∀ round ∈ rounds, round.loads ≠ [] → (round.initialized setup).isOk = false →
    round.after.ready = round.before.ready
  /-- A plan goes by the preset that its request needs, with what was loaded last, for that
  preset. -/
  plans : ∀ {past later : List (Round σ)} {round : Round σ}, rounds = past ++ round :: later →
    ∀ plan ∈ round.plans, plan.preset = round.preset setup ∧
      lastBuilt setup (past ++ [round]) = some ⟨plan.preset, plan.transformers⟩

end Round

namespace Cycle

open Session

variable {σ : Type u} {setup : Setup σ} {errand : Errand σ} {session : Session σ}

/-- The session that the cycle of an errand finds. -/
def found (setup : Setup σ) (errand : Errand σ) (session : Session σ) : Session σ :=
  { session with host := errand.change session.host }.pass setup.document errand.wait

theorem part_found (setup : Setup σ) (errand : Errand σ) (working : session.part ≠ .poller) :
    (found setup errand session).part = session.part :=
  (brings_pass setup.document errand.wait
    { session with host := errand.change session.host } working).part

theorem ready_found : (found setup errand session).ready = session.ready :=
  ready_of_memory (memory_pass setup.document errand.wait
    { session with host := errand.change session.host })

def roundOf (setup : Setup σ) (errand : Errand σ) (session : Session σ) : Round σ :=
  let cycle := run setup errand.request (found setup errand session)
  ⟨errand.request, found setup errand session, cycle.1, cycle.2⟩

theorem ended_roundOf (ended : (roundOf setup errand session).progress = .ended)
    (working : session.part ≠ .poller) :
    Round.Ended setup (roundOf setup errand session) where
  ran := Prod.ext ended rfl
  working := by
    rw [← part_found setup errand working] at working
    exact working

theorem part_roundOf (ended : (roundOf setup errand session).progress = .ended)
    (working : session.part ≠ .poller) :
    (roundOf setup errand session).after.part = session.part := by
  have round := ended_roundOf ended working
  exact (brings_run round.uncrashed round.working).part.trans (part_found setup errand working)

/-- The cycles of a worker, one for each errand. -/
def rounds (setup : Setup σ) : List (Errand σ) → Session σ → List (Round σ)
  | [], _ => []
  | errand :: rest, session =>
    let round := roundOf setup errand session
    round :: rounds setup rest round.after

theorem remembers_rounds {errands : List (Errand σ)} {past before after : List (Round σ)}
    {round : Round σ} (ended : ∀ round ∈ rounds setup errands session, round.progress = .ended)
    (working : session.part ≠ .poller) (remembers : Round.Remembers setup past session.ready)
    (split : rounds setup errands session = before ++ round :: after) :
    Round.Remembers setup (past ++ before) round.before.ready ∧ round.Activation setup := by
  induction errands generalizing session past before with
  | nil => simp [rounds] at split
  | cons errand rest ih =>
      simp only [rounds, List.forall_mem_cons] at ended split
      obtain ⟨first, others⟩ := ended
      have activation := (ended_roundOf first working).activation
      have finds : Round.Remembers setup past (roundOf setup errand session).before.ready := by
        rwa [← ready_found] at remembers
      cases before with
      | nil =>
          cases split
          rw [List.append_nil]
          exact ⟨finds, activation⟩
      | cons earlier before =>
          obtain ⟨same, later⟩ := List.cons.inj split
          subst same
          have working : (roundOf setup errand session).after.part ≠ .poller := by
            rwa [part_roundOf first working]
          have whole := ih others working (finds.snoc activation) later
          rwa [List.append_assoc] at whole

theorem ended_rounds (steady : setup.Steady) (errands : List (Errand σ)) (session : Session σ) :
    ∀ round ∈ rounds setup errands session, round.progress = .ended := by
  induction errands generalizing session with
  | nil => simp [rounds]
  | cons errand rest ih =>
      simp only [rounds, List.forall_mem_cons]
      exact ⟨run_ended steady _ _, ih _⟩

/-- However the presets of a worker's requests come and go, it loads what it does not have ready,
and it plans with what was loaded last. -/
theorem coherent_rounds (setup : Setup σ) (errands : List (Errand σ)) (session : Session σ)
    (task : Nat) :
    let worker := { session.handTo (.worker task) with ready := none }
    (∀ round ∈ rounds setup errands worker, round.progress = .ended) →
      Round.Coherent setup (rounds setup errands worker) := by
  intro worker ended
  have fresh : Round.Remembers setup [] worker.ready := ⟨rfl, rfl⟩
  have remembers {past later : List (Round σ)} {round : Round σ}
      (split : rounds setup errands worker = past ++ round :: later) :
      Round.Remembers setup past round.before.ready ∧ round.Activation setup :=
    remembers_rounds ended (by simp [worker, handTo]) fresh split
  refine ⟨?_, ?_, ?_⟩
  · intro past later round split
    obtain ⟨remembers, activation⟩ := remembers split
    exact remembers.loads_iff activation
  · intro round member loads failed
    obtain ⟨past, later, split⟩ := List.append_of_mem member
    cases (remembers split).2 with
    | reuses kept fits none => exact (loads none).elim
    | builds unfit _ built =>
        rw [built] at failed
        cases failed
    | fails unfit _ _ _ after => exact after
  · intro past later round split plan built
    obtain ⟨remembers, activation⟩ := remembers split
    exact remembers.planned activation built

theorem coherent_rounds_headless :
    let errands : List (Errand Headless) :=
      [⟨.ofTemplate none, 0, id⟩, ⟨.ofTemplate (some "solid"), 20, id⟩,
        ⟨.ofTemplate (some "unknown"), 1, fun _ => Headless.fresh⟩]
    let worker := { (Session.start Headless.fresh .info).handTo (.worker 1) with ready := none }
    (∀ round ∈ rounds Headless.setup errands worker, round.progress = .ended) ∧
      Round.Coherent Headless.setup (rounds Headless.setup errands worker) :=
  ⟨ended_rounds Headless.steady _ _,
    coherent_rounds Headless.setup _ (Session.start Headless.fresh .info) 1
      (ended_rounds Headless.steady _ _)⟩

end Cycle

end LivePreview
