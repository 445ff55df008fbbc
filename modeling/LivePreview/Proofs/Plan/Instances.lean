import LivePreview.Proofs.Plan.Sources
import LivePreview.Proofs.Preset.Joining

namespace LivePreview

/-! What a plan runs its files through.  A chain is let into a plan only if each of its names is
registered, so a run of it ends badly only where one of its transformers does. -/

namespace TransformerSet

theorem of_get?_ofTransformers {transformers : List Transformer} {name : String}
    {transformer : Transformer}
    (found : (ofTransformers transformers).get? name = some transformer) :
    transformer ∈ transformers ∧ transformer.name = name := by
  rw [get?_ofTransformers] at found
  exact ⟨List.mem_reverse.mp (List.mem_of_find?_eq_some found),
    by simpa using List.find?_some found⟩

end TransformerSet

namespace ResolvedFile

variable {set : TransformerSet} {file : SourceFile} {chain : List Binding}

/-- One of the transformers of the chain makes this of what the ones before it made. -/
def Yields (set : TransformerSet) (file : SourceFile) (chain : List Binding)
    (outcome : Outcome SourceFile) : Prop :=
  ∃ before binding after given transformer,
    chain = before ++ binding :: after ∧ runChain set file before = .ok given ∧
      set.get? binding.name = some transformer ∧ transformer.run given binding.options = outcome

theorem Yields.cons {binding : Binding} {next : SourceFile} {outcome : Outcome SourceFile}
    (yields : Yields set next chain outcome) (stepped : step set file binding = .ok next) :
    Yields set file (binding :: chain) outcome := by
  obtain ⟨before, last, after, given, transformer, rfl, ran, held, made⟩ := yields
  refine ⟨binding :: before, last, after, given, transformer, rfl, ?_, held, made⟩
  rw [runChain_cons, stepped, Outcome.bind_ok, ran]

theorem step_of_get? {binding : Binding} {transformer : Transformer}
    (held : set.get? binding.name = some transformer) :
    step set file binding = transformer.run file binding.options := by
  rw [step, held]

theorem yields_of_not_ok (held : ∀ binding ∈ chain, set.contains binding.name = true)
    (stops : (runChain set file chain).isOk = false) :
    Yields set file chain (runChain set file chain) := by
  induction chain generalizing file with
  | nil => cases stops
  | cons binding rest ih =>
      obtain ⟨here, held⟩ := List.forall_mem_cons.mp held
      obtain ⟨transformer, found⟩ := Option.isSome_iff_exists.mp here
      rw [runChain_cons] at stops ⊢
      cases stepped : step set file binding with
      | ok next =>
          rw [stepped] at stops
          exact (ih held stops).cons stepped
      | failed failure =>
          exact ⟨[], binding, rest, file, transformer, rfl, rfl, found,
            (step_of_get? found).symm.trans stepped⟩
      | crashed note =>
          exact ⟨[], binding, rest, file, transformer, rfl, rfl, found,
            (step_of_get? found).symm.trans stepped⟩

end ResolvedFile

theorem ReadyPreset.contains_of_chainFor {ready : ReadyPreset} {file : SourceFile}
    {chain : List Binding} (chosen : ready.chainFor file = .ok chain) :
    ∀ binding ∈ chain, ready.transformers.contains binding.name = true := by
  unfold chainFor at chosen
  cases selected : ready.preset.chain file with
  | error failure =>
      rw [selected] at chosen
      cases chosen
  | ok selection =>
      rw [selected] at chosen
      simp only [bind, Except.bind] at chosen
      split at chosen
      next => cases chosen
      next complete =>
          cases chosen
          intro binding member
          simpa using List.find?_eq_none.mp complete binding member

theorem Plan.contains_of_make {ready : ReadyPreset} {files : List SourceFile} {plan : Plan}
    (made : make ready files = .ok plan) :
    ∀ resolved ∈ plan.files, ∀ binding ∈ resolved.chain,
      plan.transformers.contains binding.name = true := by
  obtain ⟨manifest, resolved, -, resolves, rfl⟩ := exists_of_make made
  intro one member
  exact ReadyPreset.contains_of_chainFor ((ReadyPreset.resolveAll_ok resolves).2 one member)

theorem Load.outcome_of_transformer? {load : Load} {transformer : Transformer}
    (came : load.transformer? = some transformer) : load.2.outcome = .ok transformer := by
  unfold transformer? at came
  split at came
  next outcome =>
      cases came
      exact outcome
  next => cases came

namespace Session

variable {σ : Type u} {session after : Session σ}

theorem verdict_of_loadPreset {backend : Backend σ} {document : Document σ} {preset : Preset}
    {ready : ReadyPreset}
    (loads : session.loadPreset backend document preset = (.ok ready, after)) :
    (Load.verdict preset (session.beginLoads backend preset preset.transformerNames).1).outcome =
      .ok ready.transformers := by
  have ended : (Load.verdict preset
      (session.beginLoads backend preset preset.transformerNames).1).outcome.map
        (ReadyPreset.mk preset) = .ok ready :=
    (fst_endPreset preset _ _).symm.trans (congrArg Prod.fst loads)
  generalize (Load.verdict preset _).outcome = outcome at ended ⊢
  cases outcome with
  | ok transformers =>
      cases ended
      rfl
  | failed failure => cases ended
  | crashed note => cases ended

/-- Whatever a ready preset holds came of one of the loads, under the name it gives itself. -/
theorem exists_load_of_get? {backend : Backend σ} {document : Document σ} {preset : Preset}
    {ready : ReadyPreset} {name : String} {transformer : Transformer}
    (loads : session.loadPreset backend document preset = (.ok ready, after))
    (found : ready.transformers.get? name = some transformer) :
    transformer.name = name ∧
      ∃ load ∈ (session.beginLoads backend preset preset.transformerNames).1,
        load.2.outcome = .ok transformer := by
  rw [(Load.verdict_ok (verdict_of_loadPreset loads)).2] at found
  obtain ⟨loaded, named⟩ := TransformerSet.of_get?_ofTransformers found
  obtain ⟨load, among, came⟩ := List.mem_filterMap.mp loaded
  exact ⟨named, load, among, Load.outcome_of_transformer? came⟩

/-- Whatever the loaded transformers call themselves, a plan holds one for every name in its chains;
so what comes of a file is what its chain makes of it, or what one of the chain's transformers ended
with. -/
theorem loadPreset_equips (backend : Backend σ) (document : Document σ) (preset : Preset)
    (files : List SourceFile) {ready : ReadyPreset} {plan : Plan}
    (loads : session.loadPreset backend document preset = (.ok ready, after))
    (made : Plan.make ready files = .ok plan) :
    ∀ resolved ∈ plan.files,
      (∀ binding ∈ resolved.chain, ∃ transformer,
        plan.transformers.get? binding.name = some transformer ∧
          transformer.name = binding.name ∧
          ∃ load ∈ (session.beginLoads backend preset preset.transformerNames).1,
            load.2.outcome = .ok transformer) ∧
      ((resolved.apply plan.transformers).isOk = false →
        ResolvedFile.Yields plan.transformers resolved.file resolved.chain
          (resolved.apply plan.transformers)) := by
  intro resolved member
  have held := Plan.contains_of_make made resolved member
  refine ⟨?_, ResolvedFile.yields_of_not_ok held⟩
  intro binding among
  obtain ⟨transformer, found⟩ := Option.isSome_iff_exists.mp (held binding among)
  have same : plan.transformers = ready.transformers :=
    congrArg ReadyPreset.transformers (Plan.ready_of_make made)
  exact ⟨transformer, found, exists_load_of_get? loads (same ▸ found)⟩

end Session

namespace Headless

/-- A host whose refresh transformer calls itself what the script transformer is called, and whose
transformers all fail with the name they were asked for by. -/
def impersonating : Backend Headless :=
  { backend with load := fun name host =>
      ⟨host, ⟨0, .ok ⟨if name = Preset.reactRefresh then Preset.babel else name,
        fun _ _ => .failed (.compilation name none)⟩⟩, []⟩ }

/-- The later of two transformers of one name is the one that fails. -/
theorem loadPreset_equips_impersonating :
    let session := Session.start fresh .off
    let loading := session.loadPreset impersonating document .react
    ∃ ready plan resolved, loading = (.ok ready, loading.2) ∧
      Plan.make ready [⟨"/a.ts", ""⟩] = .ok plan ∧ plan.files = [resolved] ∧
      resolved.apply plan.transformers = .failed (.compilation Preset.reactRefresh none) ∧
      ∀ resolved ∈ plan.files,
        (∀ binding ∈ resolved.chain, ∃ transformer,
          plan.transformers.get? binding.name = some transformer ∧
            transformer.name = binding.name ∧
            ∃ load ∈ (session.beginLoads impersonating .react
                (Preset.transformerNames .react)).1,
              load.2.outcome = .ok transformer) ∧
        ((resolved.apply plan.transformers).isOk = false →
          ResolvedFile.Yields plan.transformers resolved.file resolved.chain
            (resolved.apply plan.transformers)) :=
  ⟨_, _, _, rfl, rfl, rfl, rfl,
    Session.loadPreset_equips impersonating document .react [⟨"/a.ts", ""⟩] rfl rfl⟩

end Headless

end LivePreview
