import LivePreview.Json.Codec

namespace LivePreview

inductive Preset
  | react
  | solid
  | vanilla
deriving DecidableEq, Repr

namespace Preset

instance : Inhabited Preset := ⟨.react⟩

def all : List Preset := [.react, .solid, .vanilla]

def name : Preset → String
  | .react => "react"
  | .solid => "solid"
  | .vanilla => "vanilla"

theorem mem_all (preset : Preset) : preset ∈ all := by
  cases preset <;> decide

def codec : Json.Codec Preset :=
  .enumeration (all.map fun preset => (preset.name, preset)) name

/-- The body of the page when the project has none of its own. -/
def defaultBody : Preset → String
  | .react => "<div id=\"root\"></div>"
  | .solid | .vanilla => "<div id=\"app\"></div>"

end Preset

end LivePreview
