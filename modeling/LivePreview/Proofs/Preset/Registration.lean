import LivePreview.Headless
import LivePreview.Loading

namespace LivePreview

/-! What is registered once a preset is ready, and which chains can be resolved with it. -/

theorem Rule.exists_of_dispatch {rules : List Rule} {file : SourceFile} {chain : List Binding}
    (chosen : dispatch rules file = .ok chain) : ∃ rule ∈ rules, rule.chain file = chain := by
  unfold dispatch at chosen
  split at chosen
  next => cases chosen
  next rule alone =>
      have among : rule ∈ rules := (List.mem_filter.mp (alone ▸ List.mem_singleton_self rule)).1
      split at chosen
      next => cases chosen
      next binding rest chain =>
          cases chosen
          exact ⟨rule, among, chain⟩
  next => cases chosen

theorem Rule.dispatch_ne_unregistered (rules : List Rule) (file : SourceFile)
    (preset name : String) :
    dispatch rules file ≠ .error (.unregisteredTransformer preset name) := by
  unfold dispatch
  split
  · simp
  · split <;> simp
  · simp

namespace Preset

theorem mem_transformerNames {preset : Preset} {file : SourceFile} {chain : List Binding}
    (chosen : preset.chain file = .ok chain) {binding : Binding} (member : binding ∈ chain) :
    binding.name ∈ preset.transformerNames := by
  obtain ⟨rule, among, rfl⟩ := Rule.exists_of_dispatch chosen
  cases preset with
  | react | solid | vanilla =>
      simp only [rules, List.mem_cons, List.not_mem_nil, or_false] at among
      rcases among with rfl | rfl | rfl <;>
        simp only [libraryScriptRule, stylesheetRule, stylesheetChain, List.mem_cons,
          List.not_mem_nil, or_false] at member <;>
        rcases member with rfl | rfl <;> decide

theorem exists_chain {preset : Preset} {name : String}
    (needed : name ∈ preset.transformerNames) :
    ∃ file chain, preset.chain file = .ok chain ∧ ∃ binding ∈ chain, binding.name = name := by
  have script : ∃ chain, preset.chain ⟨"/index.js", ""⟩ = .ok chain ∧
      chain.map Binding.name = preset.transformerNames.filter (· ∉ [css, style]) := by
    cases preset <;> exact ⟨_, rfl, rfl⟩
  have stylesheet : preset.chain ⟨"/index.css", ""⟩ = .ok [.bare css, .bare style] := by
    cases preset <;> rfl
  by_cases styles : name ∈ [css, style]
  · refine ⟨_, _, stylesheet, ?_⟩
    simpa [Binding.bare, eq_comm] using styles
  · obtain ⟨chain, chosen, names⟩ := script
    have listed : name ∈ chain.map Binding.name := by
      rw [names]
      exact List.mem_filter.mpr ⟨needed, by simpa using styles⟩
    exact ⟨_, chain, chosen, List.mem_map.mp listed⟩

end Preset

namespace ReadyPreset

theorem exists_unregistered {ready : ReadyPreset} {file : SourceFile} {chain : List Binding}
    (chosen : ready.preset.chain file = .ok chain) {binding : Binding} (member : binding ∈ chain)
    (missing : ready.transformers.contains binding.name = false) :
    ∃ name, ready.chainFor file = .error (.unregisteredTransformer ready.preset.name name) := by
  have found : (chain.find? fun binding => !ready.transformers.contains binding.name).isSome := by
    rw [List.find?_isSome]
    exact ⟨binding, member, by simp [missing]⟩
  obtain ⟨first, isFirst⟩ := Option.isSome_iff_exists.mp found
  refine ⟨first.name, ?_⟩
  unfold chainFor
  rw [chosen]
  simp only [bind, Except.bind, isFirst]

theorem contains_of_unregistered {ready : ReadyPreset} {file : SourceFile} {preset name : String}
    (fails : ready.chainFor file = .error (.unregisteredTransformer preset name)) :
    name ∈ ready.preset.transformerNames ∧ ready.transformers.contains name = false := by
  unfold chainFor at fails
  cases chosen : ready.preset.chain file with
  | error failure =>
      rw [chosen] at fails
      cases fails
      exact (Rule.dispatch_ne_unregistered _ file preset name chosen).elim
  | ok chain =>
      rw [chosen] at fails
      simp only [bind, Except.bind] at fails
      split at fails
      next missing found =>
          cases fails
          exact ⟨Preset.mem_transformerNames chosen (List.mem_of_find?_eq_some found),
            by simpa using List.find?_some found⟩
      next => cases fails

/-- With all that its preset loads registered, a chain is resolved just as it is chosen. -/
theorem chainFor_of_registered {ready : ReadyPreset}
    (registered : ∀ name ∈ ready.preset.transformerNames,
      ready.transformers.contains name = true) (file : SourceFile) :
    ready.chainFor file = ready.preset.chain file := by
  unfold chainFor
  cases chosen : ready.preset.chain file with
  | error failure => rfl
  | ok chain =>
      have complete : chain.find? (fun binding => !ready.transformers.contains binding.name) =
          none := by
        rw [List.find?_eq_none]
        intro binding member
        simp [registered _ (Preset.mem_transformerNames chosen member)]
      simp only [bind, Except.bind, complete]

/-- Every chain resolves as far as registration goes just when all that the preset loads is
registered. -/
theorem resolves_iff (ready : ReadyPreset) :
    (∀ file name,
      ready.chainFor file ≠ .error (.unregisteredTransformer ready.preset.name name)) ↔
      ∀ name ∈ ready.preset.transformerNames, ready.transformers.contains name = true := by
  constructor
  · intro resolves name needed
    cases contained : ready.transformers.contains name with
    | true => rfl
    | false =>
        obtain ⟨file, chain, chosen, binding, member, rfl⟩ := Preset.exists_chain needed
        obtain ⟨first, fails⟩ := exists_unregistered chosen member contained
        exact (resolves file first fails).elim
  · intro registered file name fails
    obtain ⟨needed, missing⟩ := contains_of_unregistered fails
    rw [registered name needed] at missing
    cases missing

end ReadyPreset

namespace TransformerSet

theorem get?_foldl_register (transformers : List Transformer) (set : TransformerSet)
    (name : String) :
    (transformers.foldl register set).get? name =
      (transformers.reverse.find? (·.name == name)).or (set.get? name) := by
  induction transformers generalizing set with
  | nil => rfl
  | cons transformer rest ih =>
      have kept : (set.register transformer).get? name =
          if transformer.name = name then some transformer else set.get? name :=
        Table.get?_put _ _ _ _
      rw [List.foldl_cons, ih, kept, List.reverse_cons, List.find?_append, Option.or_assoc]
      congr 1
      by_cases same : transformer.name = name <;> simp [same]

theorem get?_ofTransformers (transformers : List Transformer) (name : String) :
    (ofTransformers transformers).get? name =
      transformers.reverse.find? (·.name == name) := by
  rw [ofTransformers, get?_foldl_register, Table.get?_empty, Option.or_none]

theorem contains_ofTransformers (transformers : List Transformer) (name : String) :
    (ofTransformers transformers).contains name = true ↔
      ∃ transformer ∈ transformers, transformer.name = name := by
  rw [Table.contains, get?_ofTransformers, List.find?_isSome]
  simp

end TransformerSet

namespace Load

theorem fails_of_firstBad {loads : List Load} {load : Load} (bad : firstBad loads = some load) :
    load.succeeds = false := by
  induction loads generalizing load with
  | nil => cases bad
  | cons first rest ih =>
      unfold firstBad at bad
      split at bad
      next => exact ih bad
      next fails =>
          split at bad
          next other isOther =>
              split at bad
              · cases bad
                exact ih isOther
              · cases bad
                simpa using fails
          next =>
              cases bad
              simpa using fails

theorem succeeds_of_firstBad {loads : List Load} (none : firstBad loads = none) :
    ∀ load ∈ loads, load.succeeds = true := by
  induction loads with
  | nil => simp
  | cons first rest ih =>
      unfold firstBad at none
      split at none
      next succeeds => simpa [succeeds] using ih none
      next =>
          split at none
          · split at none <;> cases none
          · cases none

theorem blame_ne_ok {preset : Preset} {load : Load} (fails : load.succeeds = false)
    (set : TransformerSet) : load.blame preset ≠ .ok set := by
  unfold blame
  cases outcome : load.2.outcome with
  | ok transformer => simp [succeeds, outcome, Outcome.isOk] at fails
  | failed | crashed => simp

theorem verdict_ok {preset : Preset} {loads : List Load} {set : TransformerSet}
    (ready : (verdict preset loads).outcome = .ok set) :
    (∀ load ∈ loads, load.succeeds = true) ∧
      set = .ofTransformers (loads.filterMap transformer?) := by
  unfold verdict at ready
  split at ready
  next load bad => exact (blame_ne_ok (fails_of_firstBad bad) set ready).elim
  next none =>
      cases ready
      exact ⟨succeeds_of_firstBad none, rfl⟩

theorem exists_loaded {loads : List Load} (succeed : ∀ load ∈ loads, load.succeeds = true) :
    ∃ loaded : List (String × Transformer),
      loads.map (fun load => (load.1, load.2.outcome)) =
        loaded.map (fun (asked, transformer) => (asked, .ok transformer)) ∧
      loads.filterMap transformer? = loaded.map Prod.snd := by
  induction loads with
  | nil => exact ⟨[], rfl, rfl⟩
  | cons load rest ih =>
      obtain ⟨loaded, same, instances⟩ := ih fun other member => succeed other (by simp [member])
      have succeeds := succeed load (by simp)
      cases outcome : load.2.outcome with
      | failed | crashed => simp [Load.succeeds, outcome, Outcome.isOk] at succeeds
      | ok transformer =>
          refine ⟨(load.1, transformer) :: loaded, ?_, ?_⟩
          · simp [outcome, same]
          · simp [transformer?, outcome, instances]

end Load

namespace Session

variable {σ : Type u} {session after : Session σ}

theorem names_beginLoads (backend : Backend σ) (preset : Preset) (names : List String)
    (session : Session σ)
    (succeed : ∀ load ∈ (session.beginLoads backend preset names).1, load.succeeds = true) :
    (session.beginLoads backend preset names).1.map Prod.fst = names := by
  induction names generalizing session with
  | nil => rfl
  | cons name rest ih =>
      simp only [beginLoads] at succeed ⊢
      split
      next ends =>
          rw [if_pos ends] at succeed
          simp [Load.endsAtOnce, succeed _ (List.mem_singleton_self _)] at ends
      next goesOn =>
          rw [if_neg goesOn] at succeed
          exact congrArg (name :: ·) (ih _ fun load member => succeed load (by simp [member]))

/-- A preset gets ready when every transformer it asked for was loaded.  Each is registered under
the name it gives itself, whatever it was asked for as; so no chain lacks one just when each name
that was asked for is the name of one. -/
theorem loadPreset_registers (backend : Backend σ) (document : Document σ) (preset : Preset)
    {ready : ReadyPreset}
    (loads : session.loadPreset backend document preset = (.ok ready, after)) :
    ready.preset = preset ∧ ∃ loaded : List (String × Transformer),
      loaded.map Prod.fst = preset.transformerNames ∧
      (session.beginLoads backend preset preset.transformerNames).1.map
          (fun load => (load.1, load.2.outcome)) =
        loaded.map (fun (asked, transformer) => (asked, .ok transformer)) ∧
      (∀ name, ready.transformers.get? name =
        (loaded.map Prod.snd).reverse.find? (·.name == name)) ∧
      ((∀ file name,
          ready.chainFor file ≠ .error (.unregisteredTransformer preset.name name)) ↔
        ∀ name ∈ preset.transformerNames, ∃ load ∈ loaded, load.2.name = name) := by
  simp only [loadPreset, beginPreset] at loads
  cases outcome : (Load.verdict preset
      (session.beginLoads backend preset preset.transformerNames).1).outcome with
  | failed | crashed => simp [outcome, endPreset] at loads
  | ok transformers =>
      simp only [outcome, endPreset, Prod.mk.injEq, Outcome.ok.injEq] at loads
      obtain ⟨rfl, _⟩ := loads
      obtain ⟨succeed, rfl⟩ := Load.verdict_ok outcome
      obtain ⟨loaded, same, instances⟩ := Load.exists_loaded succeed
      have names := names_beginLoads backend preset preset.transformerNames session succeed
      refine ⟨rfl, loaded, ?_, same, ?_, ?_⟩
      · have asked := congrArg (List.map Prod.fst) same
        simp only [List.map_map, Function.comp_def] at asked
        exact asked.symm.trans names
      · intro name
        rw [← instances]
        exact TransformerSet.get?_ofTransformers _ name
      · refine (ReadyPreset.resolves_iff _).trans ?_
        simp only [TransformerSet.contains_ofTransformers, instances, List.mem_map]
        constructor
        · intro registered name needed
          obtain ⟨_, ⟨load, member, rfl⟩, same⟩ := registered name needed
          exact ⟨load, member, same⟩
        · intro reported name needed
          obtain ⟨load, member, same⟩ := reported name needed
          exact ⟨load.2, ⟨load, member, rfl⟩, same⟩

end Session

namespace Headless

/-- A host whose instances call themselves what the function makes of what was asked for. -/
def renamed (rename : String → String) : Backend Headless :=
  { backend with load := fun name host => ⟨host, ⟨0, .ok (.passThrough (rename name))⟩, []⟩ }

theorem loadPreset_registers_renamed :
    let session := Session.start fresh .off
    let loading := session.loadPreset (renamed id) document .react
    ∃ ready, loading = (.ok ready, loading.2) ∧ ready.preset = .react ∧
      ∃ loaded : List (String × Transformer),
        loaded.map Prod.fst = Preset.transformerNames .react ∧
        (session.beginLoads (renamed id) .react (Preset.transformerNames .react)).1.map
            (fun load => (load.1, load.2.outcome)) =
          loaded.map (fun (asked, transformer) => (asked, .ok transformer)) ∧
        (∀ name, ready.transformers.get? name =
          (loaded.map Prod.snd).reverse.find? (·.name == name)) ∧
        ((∀ file name, ready.chainFor file ≠
            .error (.unregisteredTransformer (Preset.name .react) name)) ↔
          ∀ name ∈ Preset.transformerNames .react, ∃ load ∈ loaded, load.2.name = name) :=
  ⟨_, rfl, Session.loadPreset_registers (renamed id) document .react rfl⟩

/-- With an instance that does not call itself what it was asked for as, a preset gets ready, but
lacks one of its transformers. -/
theorem unregistered_misnamed :
    let misnaming := renamed fun name => if name = Preset.reactRefresh then "other" else name
    ∃ ready, ((Session.start fresh .off).loadPreset misnaming document .react).1 = .ok ready ∧
      Preset.reactRefresh ∈ Preset.transformerNames .react ∧
      ready.transformers.contains Preset.reactRefresh = false ∧
      ready.chainFor ⟨"/a.jsx", ""⟩ =
        .error (.unregisteredTransformer (Preset.name .react) Preset.reactRefresh) :=
  ⟨_, rfl, by decide, rfl, rfl⟩

end Headless

end LivePreview
