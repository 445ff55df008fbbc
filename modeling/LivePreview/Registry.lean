import LivePreview.Log
import LivePreview.Preset

namespace LivePreview

/-! Presets by the names of templates, with one to fall back on. -/

structure Registry where
  presets : Table Preset
  fallback : Preset
deriving DecidableEq

namespace Registry

/-- Every template gets the fallback. -/
def empty (fallback : Preset) : Registry := ⟨.empty, fallback⟩

def register (registry : Registry) (name : String) (preset : Preset) : Registry :=
  { registry with presets := registry.presets.put name preset }

/-- Every preset under its own name. -/
def builtin : Registry :=
  Preset.all.foldl (fun registry preset => registry.register preset.name preset) (empty .react)

def names (registry : Registry) : List String :=
  registry.presets.names

def contains (registry : Registry) (name : String) : Bool :=
  registry.presets.contains name

def registered? (registry : Registry) (name : String) : Option Preset :=
  registry.presets.get? name

def find (registry : Registry) (name : String) : Preset :=
  (registry.registered? name).getD registry.fallback

/-- Falling back is put on record. -/
def findRecords (registry : Registry) (name : String) : List LogRecord :=
  if registry.contains name then []
  else
    [.warn "unknown preset, falling back to default"
      [("template", name), ("fallback", registry.fallback.name)]]

def resolve (registry : Registry) (template : Option String) : Preset :=
  match template with
  | some name => registry.find name
  | none => registry.fallback

def resolveRecords (registry : Registry) (template : Option String) : List LogRecord :=
  match template with
  | some name => registry.findRecords name
  | none => []

@[simp] theorem resolve_none (registry : Registry) :
    registry.resolve none = registry.fallback := rfl

@[simp] theorem resolve_some (registry : Registry) (name : String) :
    registry.resolve (some name) = registry.find name := rfl

end Registry

end LivePreview
