import LivePreview.Json.Record

namespace LivePreview

structure Location where
  path : Option String
  line : UInt32
  column : UInt32
deriving DecidableEq, Repr

namespace Location

def record : Json.Record Location where
  name := "SourceLocation"
  fields :=
    .field { Json.Field.optional "path" .string with omitted := Option.isNone }
      (.field (.required "line" .word32) (.field (.required "column" .word32) .done))
  make | (path, line, column, ()) => { path, line, column }
  split location := (location.path, location.line, location.column, ())

def codec : Json.Codec Location := record.codec

end Location

inductive Failure
  /-- No rule of the preset claims the file, or its chain is empty. -/
  | noTransformer (path : String)
  | ambiguousTransformer (path : String) (rules : List String)
  /-- A chain names a transformer that was not loaded. -/
  | unregisteredTransformer (preset name : String)
  | presetInit (preset message : String)
  | compilation (message : String) (location : Option Location)
  /-- `/package.json` is no manifest. -/
  | invalidManifest (message : String)
  | build (message : String)
  | evaluation (message : String) (location : Option Location)
  | integrationLoad (message : String)
  | invalidConfig (message : String)
  | io (message : String)
deriving DecidableEq, Repr

namespace Failure

def message : Failure → String
  | .noTransformer path => "No transformer for " ++ path
  | .ambiguousTransformer path rules =>
    "Ambiguous transformer for " ++ path ++ ": matched rules " ++ String.intercalate ", " rules
  | .unregisteredTransformer preset name =>
    "Transformer " ++ name ++ " is not registered in preset " ++ preset
  | .presetInit preset message => "Failed to initialize preset " ++ preset ++ ": " ++ message
  | .compilation message _ => message
  | .invalidManifest message => "Invalid package.json: " ++ message
  | .build message => message
  | .evaluation message _ => message
  | .integrationLoad message => "Failed to load integration: " ++ message
  | .invalidConfig message => "Invalid config: " ++ message
  | .io message => "I/O error: " ++ message

def location : Failure → Option Location
  | .compilation _ location => location
  | .evaluation _ location => location
  | _ => none

def path : Failure → Option String
  | .noTransformer path => some path
  | .ambiguousTransformer path _ => some path
  | failure => failure.location.bind Location.path

/-- The name of the kind of failure, which a host goes by. -/
def code : Failure → String
  | .noTransformer _ => "NoTransformer"
  | .ambiguousTransformer _ _ => "AmbiguousTransformer"
  | .unregisteredTransformer _ _ => "TransformerNotRegistered"
  | .presetInit _ _ => "PresetInit"
  | .compilation _ _ => "Compilation"
  | .invalidManifest _ => "InvalidManifest"
  | .build _ => "Build"
  | .evaluation _ _ => "Evaluation"
  | .integrationLoad _ => "IntegrationLoad"
  | .invalidConfig _ => "InvalidConfig"
  | .io _ => "IoError"

def located (message : String) (location : Option Location) : Json :=
  .object [("message", .string message), ("location", .ofOption Location.codec.write location)]

def detail : Failure → Json
  | .noTransformer path => .object [("path", .string path)]
  | .ambiguousTransformer path rules =>
    .object [("path", .string path), ("rules", .list (rules.map .string))]
  | .unregisteredTransformer preset name =>
    .object [("preset", .string preset), ("name", .string name)]
  | .presetInit preset message =>
    .object [("preset", .string preset), ("message", .string message)]
  | .compilation message location => located message location
  | .evaluation message location => located message location
  | .invalidManifest message
  | .build message
  | .integrationLoad message
  | .invalidConfig message
  | .io message => .object [("message", .string message)]

def toJson (failure : Failure) : Json :=
  .object [("code", .string failure.code), ("detail", failure.detail)]

end Failure

/-- How a call ends: with a value, with a failure it reports, or by crashing with a note. -/
inductive Outcome (α : Type u)
  | ok (value : α)
  | failed (failure : Failure)
  | crashed (note : Option String)
deriving DecidableEq, Repr

namespace Outcome

def bind (outcome : Outcome α) (next : α → Outcome β) : Outcome β :=
  match outcome with
  | .ok value => next value
  | .failed failure => .failed failure
  | .crashed note => .crashed note

instance : Monad Outcome where
  pure := .ok
  bind := bind

def map (f : α → β) (outcome : Outcome α) : Outcome β :=
  outcome.bind fun value => .ok (f value)

def isOk : Outcome α → Bool
  | .ok _ => true
  | _ => false

def crash? : Outcome α → Option (Option String)
  | .crashed note => some note
  | _ => none

/-- A crash counts as the failure made of its note. -/
def caught (outcome : Outcome α) (failure : String → Failure) : Except Failure α :=
  match outcome with
  | .ok value => .ok value
  | .failed failure => .error failure
  | .crashed note => .error (failure (note.getD "backend panicked"))

@[simp] theorem bind_ok (value : α) (next : α → Outcome β) :
    bind (.ok value) next = next value := rfl

@[simp] theorem bind_failed (failure : Failure) (next : α → Outcome β) :
    bind (.failed failure) next = .failed failure := rfl

@[simp] theorem bind_crashed (note : Option String) (next : α → Outcome β) :
    bind (.crashed note) next = .crashed note := rfl

end Outcome

/-- The answer to a call that may take time: after `delay` milliseconds it ends with `outcome`. -/
structure Reply (α : Type u) where
  delay : Nat
  outcome : Outcome α
deriving Repr

end LivePreview
