import LivePreview.Session

namespace LivePreview

/-! Loading a preset: all its transformers at once, ready when every one of them is. -/

/-- A load that has begun, with the answer it will end with. -/
abbrev Load := String × Reply Transformer

namespace Load

def succeeds (load : Load) : Bool :=
  load.2.outcome.isOk

/-- A load that ends badly without taking time; none is begun after it. -/
def endsAtOnce (load : Load) : Bool :=
  load.2.delay == 0 && !load.succeeds

/-- The failure of the preset for one load's failure; a crash stays a crash. -/
def blame (preset : Preset) (load : Load) : Outcome TransformerSet :=
  match load.2.outcome with
  | .ok _ => .ok .empty
  | .failed failure => .failed (.presetInit preset.name (load.1 ++ ": " ++ failure.message))
  | .crashed note => .crashed note

def transformer? (load : Load) : Option Transformer :=
  match load.2.outcome with
  | .ok transformer => some transformer
  | _ => none

/-- Of the loads that end badly the one that does so first; of two at one time the one listed
first. -/
def firstBad : List Load → Option Load
  | [] => none
  | load :: rest =>
    if load.succeeds then firstBad rest
    else
      match firstBad rest with
      | some other => if other.2.delay < load.2.delay then some other else some load
      | none => some load

def longest (loads : List Load) : Nat :=
  (loads.map fun load => load.2.delay).foldr max 0

def verdict (preset : Preset) (loads : List Load) : Reply TransformerSet :=
  match firstBad loads with
  | some load => ⟨load.2.delay, load.blame preset⟩
  | none => ⟨longest loads, .ok (.ofTransformers (loads.filterMap transformer?))⟩

end Load

namespace Session

variable {σ : Type u}

def beginLoads (backend : Backend σ) (preset : Preset) :
    List String → Session σ → List Load × Session σ
  | [], session => ([], session)
  | name :: rest, session =>
    let session := session.log
      (.debug "loading transformer" [("preset", preset.name), ("transformer", name)])
    let (reply, session) := session.ask (.load name) (backend.load name)
    let load : Load := (name, reply)
    if load.endsAtOnce then ([load], session)
    else
      let (loads, session) := beginLoads backend preset rest session
      (load :: loads, session)

def beginPreset (backend : Backend σ) (preset : Preset) (session : Session σ) :
    Reply TransformerSet × Session σ :=
  let (loads, session) := session.beginLoads backend preset preset.transformerNames
  (Load.verdict preset loads, session)

def endPreset (preset : Preset) (outcome : Outcome TransformerSet) (session : Session σ) :
    Outcome ReadyPreset × Session σ :=
  match outcome with
  | .failed failure => (.failed failure, session)
  | .crashed note => (.crashed note, session)
  | .ok transformers =>
    (.ok ⟨preset, transformers⟩,
      session.log (.info "preset initialized"
        [("preset", preset.name), ("transformers", decimal transformers.size)]))

def loadPreset (backend : Backend σ) (document : Document σ) (preset : Preset)
    (session : Session σ) : Outcome ReadyPreset × Session σ :=
  let (reply, session) := session.beginPreset backend preset
  (session.pass document reply.delay).endPreset preset reply.outcome

end Session

end LivePreview
