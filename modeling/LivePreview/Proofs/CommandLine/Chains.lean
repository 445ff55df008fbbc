import LivePreview.CommandLine.Run
import LivePreview.Proofs.CommandLine.Options
import LivePreview.Proofs.Json.Record
import LivePreview.Proofs.Preset.Dispatch

namespace LivePreview

namespace CommandLine

/-! Showing chains.  Every path is told about, whatever is found of the others, and in lines as in
an object. -/

/-- The chain of the file at a path, by the preset that the template names. -/
def verdict (template path : String) : Except Failure (List Binding) :=
  (Registry.builtin.find template).chain ⟨path, ""⟩

def HasChain (path : String) : Prop :=
  (⟨path, ""⟩ : SourceFile).IsStyle ∨ (⟨path, ""⟩ : SourceFile).IsProgram

instance (path : String) : Decidable (HasChain path) :=
  inferInstanceAs (Decidable (_ ∨ _))

theorem readyPreset_eq (template : String) :
    readyPreset template =
      .ok ⟨Registry.builtin.find template, .ofTransformers
        ((Registry.builtin.find template).transformerNames.map .passThrough)⟩ := by
  unfold readyPreset
  generalize Registry.builtin.find template = preset
  cases preset <;> rfl

def reports (template : String) (paths : List String) : List ChainReport :=
  paths.map fun path => (path, verdict template path)

theorem chainReports_eq {template : String} {ready : ReadyPreset}
    (loads : readyPreset template = .ok ready) (paths : List String) :
    chainReports ready paths = reports template paths := by
  rw [readyPreset_eq] at loads
  cases loads
  refine List.map_congr_left fun path _ => ?_
  rw [ReadyPreset.chainFor_of_registered]
  · rfl
  · intro name needed
    rw [TransformerSet.contains_ofTransformers]
    exact ⟨.passThrough name, List.mem_map_of_mem needed, rfl⟩

/-- Each path once, at its first place, with what is said of it. -/
def object (entry : String → Json) (paths : List String) : Json :=
  .object (paths.eraseDups.map fun path => (path, entry path))

def entry (template path : String) : Json :=
  ChainReport.toJson (path, verdict template path)

theorem ofTable_chainsJson (template : String) (paths : List String) :
    Json.ofTable (chainsJson (reports template paths)) = object (entry template) paths := by
  have settled := Entries.settle_map (entry template) paths
  simp only [Json.ofTable, chainsJson, reports, Table.ofList, List.map_map, object, ← settled]
  rfl

theorem resolve_eq (template : String) (paths : List String) (json : Bool) :
    resolve template paths json =
      ⟨if (reports template paths).all ChainReport.succeeds then 0 else 1,
        if json then lines [(object (entry template) paths).compact]
        else chainsText (reports template paths), ""⟩ := by
  have loads := readyPreset_eq template
  unfold resolve
  rw [loads]
  simp only [chainReports_eq loads, ofTable_chainsJson]

theorem exists_verdict_iff (template path : String) :
    (∃ chain, verdict template path = .ok chain) ↔ HasChain path :=
  Preset.exists_chain_iff _ _

theorem verdict_of_not_hasChain {path : String} (none : ¬ HasChain path) (template : String) :
    verdict template path = .error (.noTransformer path) := by
  simp only [HasChain, not_or] at none
  have style : ¬ (⟨path, ""⟩ : SourceFile).isStylesheet = true :=
    fun style => none.1 (SourceFile.isStylesheet_iff.mp style)
  have script : ¬ (⟨path, ""⟩ : SourceFile).isScript = true :=
    fun script => none.2 (SourceFile.isScript_iff.mp script)
  rw [verdict, Preset.chain_eq, if_neg style, if_neg script]

open Json

theorem plain_of_chain {preset : Preset} {file : SourceFile} {chain : List Binding}
    (chosen : preset.chain file = .ok chain) (path : String) :
    (ChainReport.toJson (path, .ok chain)).settled = ChainReport.toJson (path, .ok chain) ∧
      Plain 8 (ChainReport.toJson (path, .ok chain)) := by
  obtain ⟨rule, among, rfl⟩ := Rule.exists_of_dispatch chosen
  cases preset with
  | react | solid | vanilla =>
      simp only [Preset.rules, List.mem_cons, List.not_mem_nil, or_false] at among
      rcases among with rfl | rfl | rfl
      all_goals
        refine ⟨rfl, ?_, Nat.le_of_ble_eq_true rfl⟩
        repeat' first | exact trivial | refine And.intro ?_ ?_

theorem plain_entry (template path : String) :
    (entry template path).settled = entry template path ∧ Plain 8 (entry template path) := by
  unfold entry
  cases said : verdict template path with
  | ok chain => exact plain_of_chain said path
  | error failure =>
      have none : ¬ HasChain path := by
        rw [← exists_verdict_iff template, said]
        simp
      rw [verdict_of_not_hasChain none] at said
      cases said
      exact ⟨rfl, by repeat' first | exact trivial | refine And.intro ?_ ?_,
        Nat.le_of_ble_eq_true rfl⟩

theorem parse_object (template : String) (paths : List String) :
    Codec.any.parse (object (entry template) paths).compact =
      .ok (object (entry template) paths) := by
  have each (path : String) := plain_entry template path
  have settled : (object (entry template) paths).settled = object (entry template) paths := by
    rw [object, Json.settled, settledEntries_eq, Entries.settle_of_nodup]
    · rw [Entries.names, List.map_map]
      simpa [Function.comp_def] using Entries.nodup_eraseDups paths
    · simpa [List.forall_mem_map] using fun path _ => (each path).1
  have plain : Plain 9 (object (entry template) paths) :=
    plain_object (by simpa [List.forall_mem_map] using fun path _ => (each path).2)
  have parsed := Codec.parse_print (Codec.regains_any settled)
    ⟨plain.1, Nat.le_trans plain.2 (by decide)⟩
  exact parsed

/-- The arguments of the command that shows chains, for any template and any paths, however these
are spelled. -/
def resolveArguments (template : String) (paths : List String) : List String :=
  ("--template=" ++ template) :: "--" :: paths

/-- The arguments of the whole program. -/
def asking (json : Bool) (template : String) (paths : List String) : List String :=
  (if json then ["--json"] else []) ++ "resolve" :: resolveArguments template paths

theorem foldlM_step_escaped {command : CommandSpec} (operands : command.operands = true)
    {given : Given} (escaped : given.escaped = true) (settled : given.pending = none)
    (paths : List String) :
    paths.foldlM command.step given =
      .ok { given with operands := given.operands ++ paths } := by
  induction paths generalizing given with
  | nil => simp [pure, Except.pure]
  | cons path rest ih =>
      have step : command.step given path =
          .ok { given with operands := given.operands ++ [path] } := by
        simp [CommandSpec.step, escaped, Given.addOperand, Given.settle, settled, operands, bind,
          Except.bind, pure, Except.pure]
      rw [List.foldlM_cons, step]
      have more := @ih { given with operands := given.operands ++ [path] } escaped settled
      rw [List.append_assoc, List.singleton_append] at more
      exact more

theorem shape_template (template : String) :
    Shape.of ("--template=" ++ template) = .long "template" (some template) := by
  have plain : '=' ∉ "template".toList := by decide
  have spelled : "--template=" = "--" ++ "template" ++ "=" := by decide
  rw [spelled, Shape.of_joined plain]

/-- The command that shows chains. -/
def resolving : CommandSpec where
  name := "resolve"
  options := [templateOption, jsonOption]
  operands := true

theorem read_resolving (template : String) {paths : List String} (nonempty : paths ≠ []) :
    resolving.read (resolveArguments template paths) =
      .ok ⟨none, [("template", template)], paths, true⟩ := by
  have first : resolving.step .nothing ("--template=" ++ template) =
      .ok ⟨none, [("template", template)], [], false⟩ := by
    simp only [CommandSpec.step, shape_template]
    rfl
  have second : resolving.step ⟨none, [("template", template)], [], false⟩ "--" =
      .ok ⟨none, [("template", template)], [], true⟩ := rfl
  have others := @foldlM_step_escaped resolving rfl ⟨none, [("template", template)], [], true⟩ rfl
    rfl paths
  have full : paths.isEmpty = false := by simpa using nonempty
  rw [List.nil_append] at others
  simp only [CommandSpec.read, resolveArguments, List.foldlM_cons, first, second, bind,
    Except.bind] at others ⊢
  rw [others]
  simp [Given.settle, full, pure, Except.pure]

/-- What is given before the command. -/
def beforehand (json : Bool) : Given :=
  ⟨none, if json then [("json", "")] else [], [], false⟩

theorem read_beforehand (json : Bool) (rest : List String) :
    program.read ((if json then ["--json"] else []) ++ rest) =
      program.readFrom (beforehand json) rest := by
  cases json <;> rfl

theorem read_asking (json : Bool) (template : String) {paths : List String}
    (nonempty : paths ≠ []) :
    program.read (asking json template paths) =
      .ok (beforehand json, resolving, ⟨none, [("template", template)], paths, true⟩) := by
  have found : program.readFrom (beforehand json) ("resolve" :: resolveArguments template paths) =
      (resolving.read (resolveArguments template paths)).map
        fun own => (beforehand json, resolving, own) := rfl
  rw [asking, read_beforehand, found, read_resolving template nonempty]
  rfl

theorem parse_asking (json : Bool) (template : String) {paths : List String}
    (nonempty : paths ≠ []) :
    parse (asking json template paths) = .ok ⟨json, .resolve template paths⟩ := by
  simp only [parse, read_asking json template nonempty]
  cases json <;> rfl

/-- What both modes say of one path, by what is found of it. -/
inductive Alike (path : String) : Except Failure (List Binding) → String → Json → Prop
  | chain {bindings : List Binding} {items : List Json}
      (named : items.map (fun item => item.field? "name") =
        bindings.map fun binding => some (.string binding.name)) :
      Alike path (.ok bindings)
        (path ++ ": " ++ String.intercalate " -> " (bindings.map Binding.name))
        (.object [("chain", .list items)])
  | error (failure : Failure) :
      Alike path (.error failure) (path ++ ": error: " ++ failure.message)
        (.object [("error", failure.toJson)])

theorem alike_report (path : String) (found : Except Failure (List Binding)) :
    Alike path found (ChainReport.line (path, found)) (ChainReport.toJson (path, found)) := by
  cases found with
  | error failure => exact .error failure
  | ok bindings =>
      refine .chain ?_
      rw [List.map_map]
      rfl

theorem all_succeed_iff (template : String) (paths : List String) :
    (reports template paths).all ChainReport.succeeds = true ↔ ∀ path ∈ paths, HasChain path := by
  have each (path : String) :
      ChainReport.succeeds (path, verdict template path) = true ↔ HasChain path := by
    rw [← exists_verdict_iff template, ChainReport.succeeds]
    cases verdict template path <;> simp
  simp only [reports, List.all_map, List.all_eq_true, Function.comp_apply, each]

theorem code_resolve (template : String) (paths : List String) (json : Bool) :
    (resolve template paths json).code = if ∀ path ∈ paths, HasChain path then 0 else 1 := by
  rw [resolve_eq]
  simp only [all_succeed_iff]

/-- What showing chains comes to, for any template and any paths. -/
structure Resolves (template : String) (paths : List String) : Prop where
  /-- There are arguments that ask for it, and all that do are answered alike. -/
  asked : paths ≠ [] → ∀ json, ∃ arguments, parse arguments = .ok ⟨json, .resolve template paths⟩
  answered : ∀ arguments readSettings input json,
    parse arguments = .ok ⟨json, .resolve template paths⟩ →
      run arguments readSettings input = resolve template paths json
  status : ∀ json, (resolve template paths json).code =
    if ∀ path ∈ paths, HasChain path then 0 else 1
  quiet : ∀ json, (resolve template paths json).complaint = ""
  /-- Lines for all paths, in order; an object of them, each path at its first place. -/
  told : ∃ (line : String → String) (entry : String → Json),
    (resolve template paths false).stdout = lines (paths.map line) ∧
    (resolve template paths true).stdout = lines [(CommandLine.object entry paths).compact] ∧
    Codec.any.parse (CommandLine.object entry paths).compact =
      .ok (CommandLine.object entry paths) ∧
    ∀ path, Alike path (verdict template path) (line path) (entry path)
  /-- Which paths have a chain does not depend on the template. -/
  accepts : ∀ path, (∃ chain, verdict template path = .ok chain) ↔ HasChain path
  refuses : ∀ path, ¬ HasChain path → verdict template path = .error (.noTransformer path)
  agrees : ∀ other json otherwise,
    (resolve other paths otherwise).code = (resolve template paths json).code

end CommandLine

end LivePreview
