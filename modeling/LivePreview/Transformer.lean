import LivePreview.Failure
import LivePreview.SourceFile

namespace LivePreview

/-! Transformers, the chains of them that files go through, and the set that has been loaded. -/

structure Binding where
  name : String
  options : Table Json
deriving DecidableEq

namespace Binding

def bare (name : String) : Binding := ⟨name, .empty⟩

/-- Options that are no object count as none. -/
def withOptions (name : String) (options : Json) : Binding :=
  match options with
  | .object entries => ⟨name, .ofList entries⟩
  | _ => bare name

def record : Json.Record Binding where
  name := "TransformerBinding"
  fields :=
    .field (.required "name" .string) (.field (.required "options" (.table .any)) .done)
  make | (name, options, ()) => { name, options }
  split binding := (binding.name, binding.options, ())

def codec : Json.Codec Binding := record.codec

end Binding

structure Transformer where
  name : String
  run : SourceFile → Table Json → Outcome SourceFile

namespace Transformer

def passThrough (name : String) : Transformer :=
  ⟨name, fun file _ => .ok file⟩

@[simp] theorem run_passThrough (name : String) (file : SourceFile) (options : Table Json) :
    (passThrough name).run file options = .ok file := rfl

end Transformer

/-- The loaded transformers, each under the name it gives itself. -/
abbrev TransformerSet := Table Transformer

namespace TransformerSet

def register (set : TransformerSet) (transformer : Transformer) : TransformerSet :=
  set.put transformer.name transformer

/-- Of two transformers of one name the later one counts. -/
def ofTransformers (transformers : List Transformer) : TransformerSet :=
  transformers.foldl register Table.empty

@[simp] theorem ofTransformers_nil : ofTransformers [] = Table.empty := rfl

end TransformerSet

/-- A file with the chain it goes through. -/
structure ResolvedFile where
  file : SourceFile
  chain : List Binding
deriving DecidableEq

/-- A transformer that is run: on which file, and with which options. -/
structure Invocation where
  transformer : Transformer
  file : SourceFile
  options : Table Json

def Invocation.outcome (invocation : Invocation) : Outcome SourceFile :=
  invocation.transformer.run invocation.file invocation.options

namespace ResolvedFile

/-- Goes through a chain, with whatever else it may do to invoke a transformer. -/
def runWith [Monad m] (invoke : Invocation → m (Outcome SourceFile)) (set : TransformerSet)
    (file : SourceFile) : List Binding → m (Outcome SourceFile)
  | [] => pure (.ok file)
  | binding :: rest =>
    match set.get? binding.name with
    | none => pure (.failed (.unregisteredTransformer "<active>" binding.name))
    | some transformer => do
      match ← invoke ⟨transformer, file, binding.options⟩ with
      | .ok next => runWith invoke set next rest
      | ended => pure ended

def runChain (set : TransformerSet) (file : SourceFile) (chain : List Binding) :
    Outcome SourceFile :=
  Id.run (runWith (fun invocation => pure invocation.outcome) set file chain)

def apply (resolved : ResolvedFile) (set : TransformerSet) : Outcome SourceFile :=
  runChain set resolved.file resolved.chain

/-- What a chain that begins with the binding does first. -/
def step (set : TransformerSet) (file : SourceFile) (binding : Binding) : Outcome SourceFile :=
  match set.get? binding.name with
  | none => .failed (.unregisteredTransformer "<active>" binding.name)
  | some transformer => transformer.run file binding.options

@[simp] theorem runChain_nil (set : TransformerSet) (file : SourceFile) :
    runChain set file [] = .ok file := rfl

@[simp] theorem runChain_cons (set : TransformerSet) (file : SourceFile) (binding : Binding)
    (rest : List Binding) :
    runChain set file (binding :: rest) =
      (step set file binding).bind fun file => runChain set file rest := by
  rw [runChain, runWith, step]
  cases set.get? binding.name with
  | none => rfl
  | some transformer =>
      simp only [Invocation.outcome, pure_bind]
      cases transformer.run file binding.options <;> rfl

end ResolvedFile

end LivePreview
