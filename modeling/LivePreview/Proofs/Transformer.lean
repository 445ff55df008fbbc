import LivePreview.Proofs.Preset.Registration

namespace LivePreview

/-! Runs of a chain.  A run goes through its bindings one by one and ends with the first that does
not succeed; of the registered transformers only the last of each name in the chain counts. -/

/-- The transformer that was registered last under the name. -/
def TransformerSet.Last (registered : List Transformer) (name : String)
    (transformer : Transformer) : Prop :=
  ∃ earlier later, registered = earlier ++ transformer :: later ∧ transformer.name = name ∧
    ∀ other ∈ later, other.name ≠ name

theorem TransformerSet.get?_cases (registered : List Transformer) (name : String) :
    (ofTransformers registered).get? name = none ∧
        (∀ transformer ∈ registered, transformer.name ≠ name) ∨
      ∃ transformer, (ofTransformers registered).get? name = some transformer ∧
        Last registered name transformer := by
  rw [get?_ofTransformers]
  cases found : registered.reverse.find? (·.name == name) with
  | none => exact .inl ⟨rfl, by simpa using found⟩
  | some transformer =>
      obtain ⟨named, later, earlier, split, others⟩ := List.find?_eq_some_iff_append.mp found
      refine .inr ⟨transformer, rfl, earlier.reverse, later.reverse, ?_, by simpa using named, ?_⟩
      · simpa using congrArg List.reverse split
      · simpa using others

theorem TransformerSet.get?_append_others {registered more : List Transformer} {name : String}
    (others : ∀ transformer ∈ more, transformer.name ≠ name) :
    (ofTransformers (registered ++ more)).get? name = (ofTransformers registered).get? name := by
  have none : more.reverse.find? (·.name == name) = none := by simpa using others
  rw [get?_ofTransformers, get?_ofTransformers, List.reverse_append, List.find?_append, none,
    Option.none_or]

namespace ResolvedFile

variable {set : TransformerSet} {registered : List Transformer} {file : SourceFile}
variable {chain : List Binding}

theorem runChain_append (set : TransformerSet) (file : SourceFile) (first second : List Binding) :
    runChain set file (first ++ second) =
      (runChain set file first).bind fun made => runChain set made second := by
  induction first generalizing file with
  | nil => rfl
  | cons binding rest ih =>
      rw [List.cons_append, runChain_cons, runChain_cons]
      cases step set file binding with
      | ok next => exact ih next
      | failed failure => rfl
      | crashed note => rfl

theorem runChain_congr {other : TransformerSet}
    (same : ∀ binding ∈ chain, set.get? binding.name = other.get? binding.name)
    (file : SourceFile) : runChain set file chain = runChain other file chain := by
  induction chain generalizing file with
  | nil => rfl
  | cons binding rest ih =>
      obtain ⟨here, later⟩ := List.forall_mem_cons.mp same
      rw [runChain_cons, runChain_cons, step, step, here]
      exact congrArg _ (funext (ih later))

/-- Invokes the transformer and puts it on record. -/
def recorded (invocation : Invocation) : StateM (List Invocation) (Outcome SourceFile) := do
  modify (· ++ [invocation])
  return invocation.outcome

/-- Every binding of the chain succeeds, each with the transformer registered last under its name
and with its own options. -/
inductive Passes (registered : List Transformer) :
    SourceFile → List Binding → List Invocation → SourceFile → Prop
  | nil (file : SourceFile) : Passes registered file [] [] file
  | cons {file next made : SourceFile} {binding : Binding} {rest : List Binding}
      {transformer : Transformer} {invoked : List Invocation}
      (last : TransformerSet.Last registered binding.name transformer)
      (makes : transformer.run file binding.options = .ok next)
      (more : Passes registered next rest invoked made) :
      Passes registered file (binding :: rest)
        (⟨transformer, file, binding.options⟩ :: invoked) made

/-- A binding does not succeed: nothing is registered under its name, or its transformer ends
otherwise. -/
inductive Fails (registered : List Transformer) (file : SourceFile) (binding : Binding) :
    List Invocation → Outcome SourceFile → Prop
  | absent (missing : ∀ transformer ∈ registered, transformer.name ≠ binding.name) :
      Fails registered file binding [] (.failed (.unregisteredTransformer "<active>" binding.name))
  | refused {transformer : Transformer} {outcome : Outcome SourceFile}
      (last : TransformerSet.Last registered binding.name transformer)
      (ends : transformer.run file binding.options = outcome) (bad : outcome.isOk = false) :
      Fails registered file binding [⟨transformer, file, binding.options⟩] outcome

/-- A run ends with what the whole chain makes, or with the first binding that does not succeed;
what comes after that one is not invoked. -/
inductive Ends (registered : List Transformer) (file : SourceFile) (chain : List Binding) :
    List Invocation → Outcome SourceFile → Prop
  | passes {invoked : List Invocation} {made : SourceFile}
      (all : Passes registered file chain invoked made) :
      Ends registered file chain invoked (.ok made)
  | stops {before after : List Binding} {binding : Binding} {given : SourceFile}
      {invoked last : List Invocation} {outcome : Outcome SourceFile}
      (split : chain = before ++ binding :: after)
      (earlier : Passes registered file before invoked given)
      (fails : Fails registered given binding last outcome) :
      Ends registered file chain (invoked ++ last) outcome

theorem Fails.ends {binding : Binding} {rest : List Binding} {invoked : List Invocation}
    {outcome : Outcome SourceFile} (fails : Fails registered file binding invoked outcome) :
    Ends registered file (binding :: rest) invoked outcome :=
  .stops rfl (.nil file) fails

theorem Ends.cons {binding : Binding} {transformer : Transformer} {next : SourceFile}
    {invoked : List Invocation} {outcome : Outcome SourceFile}
    (ends : Ends registered next chain invoked outcome)
    (last : TransformerSet.Last registered binding.name transformer)
    (makes : transformer.run file binding.options = .ok next) :
    Ends registered file (binding :: chain)
      (⟨transformer, file, binding.options⟩ :: invoked) outcome := by
  cases ends with
  | passes all => exact .passes (.cons last makes all)
  | stops split earlier fails =>
      exact .stops (congrArg (binding :: ·) split) (.cons last makes earlier) fails

theorem exists_ends (registered : List Transformer) (file : SourceFile) (chain : List Binding)
    (earlier : List Invocation) :
    ∃ invoked, (runWith recorded (.ofTransformers registered) file chain).run earlier =
        (runChain (.ofTransformers registered) file chain, earlier ++ invoked) ∧
      Ends registered file chain invoked (runChain (.ofTransformers registered) file chain) := by
  induction chain generalizing file earlier with
  | nil => exact ⟨[], by rw [List.append_nil]; rfl, .passes (.nil file)⟩
  | cons binding rest ih =>
      rw [runChain_cons, step, runWith]
      rcases TransformerSet.get?_cases registered binding.name with
        ⟨none, missing⟩ | ⟨transformer, found, last⟩
      · rw [none]
        exact ⟨[], by rw [List.append_nil]; rfl, (Fails.absent missing).ends⟩
      · rw [found]
        simp only [recorded, Invocation.outcome]
        cases makes : transformer.run file binding.options with
        | ok next =>
            obtain ⟨invoked, ran, ends⟩ :=
              ih next (earlier ++ [⟨transformer, file, binding.options⟩])
            rw [List.append_assoc] at ran
            exact ⟨_, ran, ends.cons last makes⟩
        | failed failure => exact ⟨_, rfl, (Fails.refused last makes rfl).ends⟩
        | crashed note => exact ⟨_, rfl, (Fails.refused last makes rfl).ends⟩

/-- What a run of a chain comes to, whatever has been registered. -/
structure Composes (registered : List Transformer) (file : SourceFile) (chain : List Binding) :
    Prop where
  halves : ∀ first second, chain = first ++ second →
    apply ⟨file, chain⟩ (.ofTransformers registered) =
      (apply ⟨file, first⟩ (.ofTransformers registered)).bind fun made =>
        apply ⟨made, second⟩ (.ofTransformers registered)
  /-- It is the run that is put on record, with the record left out. -/
  unrecorded : Id.run (runWith (fun invocation => pure invocation.outcome)
      (.ofTransformers registered) file chain) = apply ⟨file, chain⟩ (.ofTransformers registered)
  ends : ∃ invoked,
    (runWith recorded (.ofTransformers registered) file chain).run [] =
        (apply ⟨file, chain⟩ (.ofTransformers registered), invoked) ∧
      Ends registered file chain invoked (apply ⟨file, chain⟩ (.ofTransformers registered))
  others : ∀ more : List Transformer,
    (∀ transformer ∈ more, ∀ binding ∈ chain, transformer.name ≠ binding.name) →
      apply ⟨file, chain⟩ (.ofTransformers (registered ++ more)) =
        apply ⟨file, chain⟩ (.ofTransformers registered)

theorem apply_composes (registered : List Transformer) (file : SourceFile)
    (chain : List Binding) : Composes registered file chain where
  halves := by
    rintro first second rfl
    exact runChain_append _ file first second
  unrecorded := rfl
  ends := exists_ends registered file chain []
  others := by
    intro more others
    refine runChain_congr (fun binding member => ?_) file
    exact TransformerSet.get?_append_others fun transformer among =>
      others transformer among binding member

end ResolvedFile

end LivePreview
