import LivePreview.Proofs.Cycle.Activation
import LivePreview.Proofs.Preset.Registration

namespace LivePreview

/-! Loads that run beside one another.  A preset is ready with the last of them, unless one ends
badly: then it fails with the first that does, whatever the others still come to. -/

namespace Load

variable {preset : Preset} {load : Load} {loads : List Load} {elapsed : Nat}

/-- Of the loads that end badly this one does so first; of two at one time it is listed first. -/
structure Decides (load : Load) (loads : List Load) : Prop where
  fails : load.succeeds = false
  listed : ∃ before after, loads = before ++ load :: after ∧
    (∀ other ∈ before, other.succeeds = false → load.2.delay < other.2.delay) ∧
    ∀ other ∈ after, other.succeeds = false → load.2.delay ≤ other.2.delay

theorem Decides.mem (decides : load.Decides loads) : load ∈ loads := by
  obtain ⟨before, after, split, -, -⟩ := decides.listed
  simp [split]

theorem Decides.le (decides : load.Decides loads) {other : Load} (member : other ∈ loads)
    (unlucky : other.succeeds = false) : load.2.delay ≤ other.2.delay := by
  obtain ⟨fails, before, after, rfl, earlier, later⟩ := decides
  rcases List.mem_append.mp member with member | member
  · exact Nat.le_of_lt (earlier other member unlucky)
  · rcases List.mem_cons.mp member with rfl | member
    · exact Nat.le_refl _
    · exact later other member unlucky

theorem Decides.cons {first : Load} (decides : load.Decides loads)
    (sooner : first.succeeds = false → load.2.delay < first.2.delay) :
    load.Decides (first :: loads) := by
  obtain ⟨fails, before, after, rfl, earlier, later⟩ := decides
  refine ⟨fails, first :: before, after, rfl, ?_, later⟩
  rw [List.forall_mem_cons]
  exact ⟨sooner, earlier⟩

theorem decides_head (fails : load.succeeds = false)
    (later : ∀ other ∈ loads, other.succeeds = false → load.2.delay ≤ other.2.delay) :
    load.Decides (load :: loads) :=
  ⟨fails, [], loads, rfl, by simp, later⟩

theorem decides_of_firstBad (bad : firstBad loads = some load) : load.Decides loads := by
  induction loads generalizing load with
  | nil => cases bad
  | cons first rest ih =>
      unfold firstBad at bad
      split at bad
      next succeeds => exact (ih bad).cons (by simp [succeeds])
      next unlucky =>
          have unlucky : first.succeeds = false := by simpa using unlucky
          split at bad
          next other isOther =>
              have decides := ih isOther
              split at bad
              next sooner =>
                  cases bad
                  exact decides.cons fun _ => sooner
              next notSooner =>
                  cases bad
                  refine decides_head unlucky ?_
                  intro another member unluckyToo
                  exact Nat.le_trans (Nat.le_of_not_lt notSooner) (decides.le member unluckyToo)
          next none =>
              cases bad
              refine decides_head unlucky ?_
              intro another member unluckyToo
              rw [succeeds_of_firstBad none another member] at unluckyToo
              cases unluckyToo

/-- Looks at each load in turn, `elapsed` milliseconds after all began.  One under way is passed
over, since another after it may have ended badly. -/
def joined? (elapsed : Nat) : List Load → Option (Except Load (List Transformer))
  | [] => some (.ok [])
  | load :: rest =>
    if elapsed < load.2.delay then
      match joined? elapsed rest with
      | some (.error bad) => some (.error bad)
      | _ => none
    else
      match load.transformer? with
      | some transformer => (joined? elapsed rest).map (Except.map (transformer :: ·))
      | none => some (.error load)

def hasFailed (elapsed : Nat) (load : Load) : Bool :=
  !load.succeeds && load.2.delay ≤ elapsed

theorem longest_cons (load : Load) (rest : List Load) :
    longest (load :: rest) = max load.2.delay (longest rest) := rfl

theorem delay_le_longest (member : load ∈ loads) : load.2.delay ≤ longest loads := by
  induction loads with
  | nil => cases member
  | cons first rest ih =>
      rw [longest_cons]
      rcases List.mem_cons.mp member with rfl | member
      · exact Nat.le_max_left _ _
      · exact Nat.le_trans (ih member) (Nat.le_max_right _ _)

theorem exists_longest (nonempty : loads ≠ []) : ∃ load ∈ loads, load.2.delay = longest loads := by
  induction loads with
  | nil => exact (nonempty rfl).elim
  | cons first rest ih =>
      rw [longest_cons]
      by_cases last : rest = []
      · exact ⟨first, by simp, by simp [last, longest]⟩
      · obtain ⟨load, member, attains⟩ := ih last
        rcases Nat.le_total first.2.delay (longest rest) with le | le
        · exact ⟨load, by simp [member], by rw [attains, Nat.max_eq_right le]⟩
        · exact ⟨first, by simp, (Nat.max_eq_left le).symm⟩

/-- The first of the loads that have failed is the answer; without one, all of them together are, as
soon as they have ended. -/
theorem joined?_eq (elapsed : Nat) (loads : List Load) :
    joined? elapsed loads =
      match loads.find? (hasFailed elapsed) with
      | some load => some (.error load)
      | none =>
        if longest loads ≤ elapsed then some (.ok (loads.filterMap transformer?)) else none := by
  induction loads with
  | nil => simp [joined?, longest]
  | cons load rest ih =>
      rw [joined?, ih, List.find?_cons, longest_cons]
      by_cases waits : elapsed < load.2.delay
      · have undecided : load.hasFailed elapsed = false := by simp [hasFailed, waits]
        have unended : ¬ max load.2.delay (longest rest) ≤ elapsed := by omega
        simp only [waits, undecided, if_true, unended, if_false]
        cases rest.find? (hasFailed elapsed) with
        | some bad => rfl
        | none => split <;> simp_all
      · have ended : (max load.2.delay (longest rest) ≤ elapsed) = (longest rest ≤ elapsed) := by
          simp only [eq_iff_iff]
          omega
        simp only [waits, if_false, ended]
        cases outcome : load.2.outcome with
        | ok transformer =>
            have fine : load.hasFailed elapsed = false := by
              simp [hasFailed, succeeds, outcome, Outcome.isOk]
            simp only [transformer?, outcome, fine, List.filterMap_cons]
            cases rest.find? (hasFailed elapsed) with
            | some bad => rfl
            | none =>
                simp only
                split <;> rfl
        | failed failure | crashed note =>
            have failed : load.hasFailed elapsed = true := by
              simp [hasFailed, succeeds, outcome, Outcome.isOk, Nat.le_of_not_lt waits]
            simp [transformer?, outcome, failed]

theorem joined?_before (decides : load.Decides loads) {elapsed : Nat}
    (early : elapsed < load.2.delay) : joined? elapsed loads = none := by
  have none : loads.find? (hasFailed elapsed) = none := by
    rw [List.find?_eq_none]
    intro other member failed
    simp only [hasFailed, Bool.and_eq_true, Bool.not_eq_true', decide_eq_true_eq] at failed
    have := decides.le member failed.1
    omega
  have unended : ¬ longest loads ≤ elapsed := by
    have := delay_le_longest decides.mem
    omega
  rw [joined?_eq, none, if_neg unended]

theorem joined?_then (decides : load.Decides loads) :
    joined? load.2.delay loads = some (.error load) := by
  obtain ⟨fails, before, after, rfl, earlier, later⟩ := decides
  have first : before.find? (hasFailed load.2.delay) = none := by
    rw [List.find?_eq_none]
    intro other member failed
    simp only [hasFailed, Bool.and_eq_true, Bool.not_eq_true', decide_eq_true_eq] at failed
    have := earlier other member failed.1
    omega
  rw [joined?_eq, List.find?_append, first, Option.none_or, List.find?_cons_of_pos]
  simp [hasFailed, fails]

theorem joined?_of_succeed (succeed : ∀ load ∈ loads, load.succeeds = true) (elapsed : Nat) :
    joined? elapsed loads =
      if longest loads ≤ elapsed then some (.ok (loads.filterMap transformer?)) else none := by
  have none : loads.find? (hasFailed elapsed) = none := by
    rw [List.find?_eq_none]
    intro load member
    simp [hasFailed, succeed load member]
  rw [joined?_eq, none]

def concluded (preset : Preset) : Except Load (List Transformer) → Outcome ReadyPreset
  | .ok transformers => .ok ⟨preset, .ofTransformers transformers⟩
  | .error load => (load.blame preset).map (ReadyPreset.mk preset)

/-- Loads that began at one time are joined: `delay` milliseconds later comes the outcome. -/
structure Join (preset : Preset) (loads : List Load) (delay : Nat)
    (outcome : Outcome ReadyPreset) : Prop where
  ready : (∃ ready, outcome = .ok ready) ↔ ∀ load ∈ loads, load.succeeds = true
  longest : (∀ load ∈ loads, load.succeeds = true) →
    (∀ load ∈ loads, load.2.delay ≤ delay) ∧ ∃ load ∈ loads, load.2.delay = delay
  fails : (∃ load ∈ loads, load.succeeds = false) →
    ∃ (load : Load) (failure : Failure), load.Decides loads ∧ load.2.outcome = .failed failure ∧
      delay = load.2.delay ∧
      outcome = .failed (.presetInit preset.name (load.1 ++ ": " ++ failure.message))
  waits : ∀ elapsed < delay, joined? elapsed loads = none
  answers : (joined? delay loads).map (concluded preset) = some outcome

theorem join_of_succeed (preset : Preset) (nonempty : loads ≠ [])
    (succeed : ∀ load ∈ loads, load.succeeds = true) :
    Join preset loads (longest loads)
      (.ok ⟨preset, .ofTransformers (loads.filterMap transformer?)⟩) where
  ready := ⟨fun _ => succeed, fun _ => ⟨_, rfl⟩⟩
  longest := fun _ => ⟨fun _ => delay_le_longest, exists_longest nonempty⟩
  fails := by
    rintro ⟨load, member, unlucky⟩
    rw [succeed load member] at unlucky
    cases unlucky
  waits := by
    intro elapsed early
    rw [joined?_of_succeed succeed, if_neg (Nat.not_le.mpr early)]
  answers := by
    rw [joined?_of_succeed succeed, if_pos (Nat.le_refl _)]
    rfl

theorem join_of_decides (preset : Preset) (decides : load.Decides loads) {failure : Failure}
    (failed : load.2.outcome = .failed failure) :
    Join preset loads load.2.delay
      (.failed (.presetInit preset.name (load.1 ++ ": " ++ failure.message))) := by
  have unlucky : ¬ ∀ load ∈ loads, load.succeeds = true := by
    intro succeed
    have := succeed load decides.mem
    rw [decides.fails] at this
    cases this
  exact
    { ready := ⟨nofun, fun succeed => (unlucky succeed).elim⟩
      longest := fun succeed => (unlucky succeed).elim
      fails := fun _ => ⟨load, failure, decides, failed, rfl, rfl⟩
      waits := fun _ => joined?_before decides
      answers := by
        rw [joined?_then decides]
        simp only [Option.map_some, concluded, blame, failed]
        rfl }

theorem Decides.exists_failure (decides : load.Decides loads)
    (calm : ∀ load ∈ loads, load.2.outcome.Steady) :
    ∃ failure, load.2.outcome = .failed failure := by
  have fails := decides.fails
  have steady := calm load decides.mem
  cases outcome : load.2.outcome with
  | ok transformer => simp [succeeds, outcome, Outcome.isOk] at fails
  | failed failure => exact ⟨failure, rfl⟩
  | crashed note => simp [Outcome.Steady, outcome, Outcome.crash?] at steady

theorem join_verdict (preset : Preset) (nonempty : loads ≠ [])
    (calm : ∀ load ∈ loads, load.2.outcome.Steady) :
    Join preset loads (verdict preset loads).delay
      ((verdict preset loads).outcome.map (ReadyPreset.mk preset)) := by
  unfold verdict
  cases bad : firstBad loads with
  | none => exact join_of_succeed preset nonempty (succeeds_of_firstBad bad)
  | some load =>
      have decides := decides_of_firstBad bad
      obtain ⟨failure, failed⟩ := decides.exists_failure calm
      simp only [blame, failed]
      exact join_of_decides preset decides failed

end Load

namespace Session

variable {σ : Type u}

/-- Loads begin in the order of the names, each with an answer of the backend; only what is listed
after one that ends badly at once does not begin. -/
structure Begins (backend : Backend σ) (names : List String) (loads : List Load) : Prop where
  answered : ∀ load ∈ loads, ∃ host, load.2 = (backend.load load.1 host).value
  inOrder : ∃ unbegun, names = loads.map Prod.fst ++ unbegun ∧
    (unbegun = [] ∨ ∃ load ∈ loads.getLast?, load.endsAtOnce = true)
  goesOn : ∀ load ∈ loads.dropLast, load.endsAtOnce = false

theorem begins_beginLoads (backend : Backend σ) (preset : Preset) (names : List String)
    (session : Session σ) : Begins backend names (session.beginLoads backend preset names).1 := by
  induction names generalizing session with
  | nil => exact ⟨by simp [beginLoads], ⟨[], by simp [beginLoads]⟩, by simp [beginLoads]⟩
  | cons name rest ih =>
      simp only [beginLoads]
      generalize asked : ask _ (Call.load name) _ = answer
      have answered : ∃ host, answer.1 = (backend.load name host).value := by
        rw [← asked]
        exact ⟨_, rfl⟩
      split
      next ends =>
          exact ⟨by simpa using answered, ⟨rest, rfl, .inr ⟨_, rfl, ends⟩⟩, by simp⟩
      next goesOn =>
          obtain ⟨fromBackend, ⟨unbegun, split, last⟩, later⟩ := ih answer.2
          generalize (answer.2.beginLoads backend preset rest).1 = loads at *
          refine ⟨?_, ⟨unbegun, by simp [split], ?_⟩, ?_⟩
          · intro load member
            rcases List.mem_cons.mp member with rfl | member
            · exact answered
            · exact fromBackend load member
          · rcases last with all | ⟨load, isLast, ends⟩
            · exact .inl all
            · refine .inr ⟨load, ?_, ends⟩
              rw [Option.mem_def, List.getLast?_cons, Option.mem_def.mp isLast, Option.getD_some]
          · intro load member
            cases loads with
            | nil => cases member
            | cons second loads =>
                rw [List.dropLast_cons_cons] at member
                rcases List.mem_cons.mp member with rfl | member
                · simpa using goesOn
                · exact later load member

theorem now_pass (document : Document σ) (count : Nat) (session : Session σ) :
    (session.pass document count).now = session.now + count := by
  induction count generalizing session with
  | zero => rfl
  | succ count ih =>
      rw [pass_succ, ih, now_pollOn, tick, Nat.add_assoc, Nat.add_comm 1]

theorem exists_seen_pass (document : Document σ) (count : Nat) (session : Session σ) :
    ∃ polled : List Stamped,
      seen (session.pass document count).trace = seen session.trace ++ polled ∧
        ∀ stamped ∈ polled, ∃ time height, stamped = ⟨time, .poller, .sent (.resize height)⟩ := by
  induction count generalizing session with
  | zero => exact ⟨[], by simp, by simp⟩
  | succ count ih =>
      obtain ⟨heights, first⟩ := polled_pollOn document session.tick
      obtain ⟨polled, later, byPoller⟩ := ih (session.tick.pollOn document)
      refine ⟨heights.map (fun height => ⟨session.now + 1, .poller, .sent (.resize height)⟩) ++
        polled, ?_, ?_⟩
      · rw [pass_succ, later, first.seen, List.append_assoc]
        rfl
      · intro stamped member
        rcases List.mem_append.mp member with member | member
        · obtain ⟨height, _, rfl⟩ := List.mem_map.mp member
          exact ⟨_, _, rfl⟩
        · exact byPoller stamped member

theorem fst_endPreset (preset : Preset) (outcome : Outcome TransformerSet) (session : Session σ) :
    (session.endPreset preset outcome).1 = outcome.map (ReadyPreset.mk preset) := by
  cases outcome <;> rfl

/-- All that a preset loads is asked for at once, and nothing later; the answer comes when joining
has one. -/
theorem loadPreset_joins (backend : Backend σ) (document : Document σ) (preset : Preset)
    (session : Session σ) (calm : ∀ name host, (backend.load name host).value.outcome.Steady) :
    let loads := (session.beginLoads backend preset preset.transformerNames).1
    let (outcome, after) := session.loadPreset backend document preset
    Begins backend preset.transformerNames loads ∧
      (∃ polled : List Stamped,
        seen after.trace = seen session.trace ++
          loads.map (fun load => session.stamp (.called (.load load.1))) ++ polled ∧
        ∀ stamped ∈ polled, ∃ time height, stamped = ⟨time, .poller, .sent (.resize height)⟩) ∧
      ∃ delay, after.now = session.now + delay ∧ Load.Join preset loads delay outcome := by
  have begins := begins_beginLoads backend preset preset.transformerNames session
  have begun := Cycle.adds_beginLoads backend preset preset.transformerNames session
  have nonempty := Cycle.beginLoads_ne_nil backend preset (Cycle.transformerNames_ne_nil preset)
    session
  simp only [loadPreset, beginPreset]
  generalize session.beginLoads backend preset preset.transformerNames = beginning
    at begins begun nonempty ⊢
  obtain ⟨loads, loading⟩ := beginning
  have ends := Cycle.adds_endPreset (loading.pass document (Load.verdict preset loads).delay) preset
    (Load.verdict preset loads).outcome
  refine ⟨begins, ?_, (Load.verdict preset loads).delay, ?_, ?_⟩
  · obtain ⟨polled, seen, byPoller⟩ := exists_seen_pass document
      (Load.verdict preset loads).delay loading
    refine ⟨polled, ?_, byPoller⟩
    rw [ends.seen, seen, begun.seen, List.map_map, List.map_nil, List.append_nil]
    rfl
  · rw [ends.now, now_pass, begun.now]
  · rw [fst_endPreset]
    refine Load.join_verdict preset nonempty ?_
    intro load member
    obtain ⟨host, answer⟩ := begins.answered load member
    rw [answer]
    exact calm load.1 host

end Session

namespace Headless

def answering (reply : String → Reply Transformer) : Backend Headless :=
  { backend with load := fun name host => ⟨host, reply name, []⟩ }

/-- Of three loads two fail at one time, before the third is there. -/
def late (name : String) : Reply Transformer :=
  if name = Preset.babel then ⟨30, .ok (.passThrough name)⟩
  else ⟨20, .failed (.io "gone")⟩

theorem steady_answering_late (name : String) (host : Headless) :
    ((answering late).load name host).value.outcome.Steady := by
  simp only [answering, late]
  split <;> rfl

/-- The one listed first is blamed, as soon as it fails. -/
theorem loadPreset_joins_late :
    let session := Session.start fresh .off
    let loads := (session.beginLoads (answering late) .react (Preset.transformerNames .react)).1
    let (outcome, after) := session.loadPreset (answering late) document .react
    outcome = .failed (.presetInit "react" "react-refresh-transformer: I/O error: gone") ∧
      after.now = 20 ∧
      Session.Begins (answering late) (Preset.transformerNames .react) loads ∧
      (∃ polled : List Stamped,
        seen after.trace = seen session.trace ++
          loads.map (fun load => session.stamp (.called (.load load.1))) ++ polled ∧
        ∀ stamped ∈ polled, ∃ time height, stamped = ⟨time, .poller, .sent (.resize height)⟩) ∧
      ∃ delay, after.now = session.now + delay ∧ Load.Join .react loads delay outcome :=
  ⟨rfl, rfl, Session.loadPreset_joins (answering late) document .react (Session.start fresh .off)
    steady_answering_late⟩

end Headless

end LivePreview
