import LivePreview.Log
import LivePreview.Manifest
import LivePreview.Preset.Rules

namespace LivePreview

/-! Plans: every source with its chain, the packages and the transformers. -/

/-- A preset whose transformers have been loaded. -/
structure ReadyPreset where
  preset : Preset
  transformers : TransformerSet

namespace ReadyPreset

/-- The chain of a file, provided that everything it names has been loaded. -/
def chainFor (ready : ReadyPreset) (file : SourceFile) : Except Failure (List Binding) := do
  let chain ← ready.preset.chain file
  match chain.find? fun binding => !ready.transformers.contains binding.name with
  | some missing => .error (.unregisteredTransformer ready.preset.name missing.name)
  | none => .ok chain

def resolve (ready : ReadyPreset) (file : SourceFile) : Except Failure ResolvedFile :=
  (ready.chainFor file).map fun chain => ⟨file, chain⟩

def resolveAll (ready : ReadyPreset) : List SourceFile → Except Failure (List ResolvedFile)
  | [] => .ok []
  | file :: rest =>
    match ready.resolve file with
    | .error failure => .error failure
    | .ok resolved => (ready.resolveAll rest).map (resolved :: ·)

/-- The files resolved before the first that fails. -/
def resolvedBeforeFailure (ready : ReadyPreset) : List SourceFile → List ResolvedFile
  | [] => []
  | file :: rest =>
    match ready.resolve file with
    | .error _ => []
    | .ok resolved => resolved :: ready.resolvedBeforeFailure rest

end ReadyPreset

structure Plan where
  preset : Preset
  entry : Option String
  files : List ResolvedFile
  dependencies : Dependencies
  transformers : TransformerSet

structure Program where
  entry : Option String
  files : List SourceFile
  dependencies : Dependencies
deriving DecidableEq

namespace Program

def empty : Program := ⟨none, [], .empty⟩

end Program

namespace Plan

/-- The manifest and the page are read here and not built. -/
def sources (files : List SourceFile) : List SourceFile :=
  files.filter fun file => !file.isMetadata

def make (ready : ReadyPreset) (files : List SourceFile) : Except Failure Plan := do
  let manifest ← Manifest.ofFiles files
  let resolved ← ready.resolveAll (sources files)
  return {
    preset := ready.preset
    entry := manifest.entry
    files := resolved
    dependencies := ready.preset.augment manifest.dependencies
    transformers := ready.transformers }

def resolvedRecord (resolved : ResolvedFile) : LogRecord :=
  .debug "resolved transformers"
    [("path", resolved.file.path), ("chain", Text.quotedList (resolved.chain.map Binding.name))]

def compilingRecord (plan : Plan) : LogRecord :=
  .info "compiling"
    [("preset", plan.preset.name), ("modules", decimal plan.files.length),
     ("dependencies", decimal plan.dependencies.size)]

def records (ready : ReadyPreset) (files : List SourceFile) : List LogRecord :=
  match Manifest.ofFiles files with
  | .error _ => []
  | .ok _ => (ready.resolvedBeforeFailure (sources files)).map resolvedRecord

/-- Runs the chains of all files in order; the first failure ends the build. -/
def applyAll (set : TransformerSet) : List ResolvedFile → Outcome (List SourceFile)
  | [] => .ok []
  | resolved :: rest =>
    (resolved.apply set).bind fun file => (applyAll set rest).bind fun files => .ok (file :: files)

def program (plan : Plan) : Outcome Program :=
  (applyAll plan.transformers plan.files).map fun files =>
    { entry := plan.entry, files, dependencies := plan.dependencies }

end Plan

end LivePreview
