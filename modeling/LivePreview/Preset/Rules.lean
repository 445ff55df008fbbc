import LivePreview.PathKind
import LivePreview.Preset
import LivePreview.Transformer

namespace LivePreview

structure Rule where
  name : String
  claims : SourceFile → Bool
  chain : SourceFile → List Binding

namespace Rule

/-- Exactly one rule must claim the file, and its chain must hold something. -/
def dispatch (rules : List Rule) (file : SourceFile) : Except Failure (List Binding) :=
  match rules.filter fun rule => rule.claims file with
  | [] => .error (.noTransformer file.path)
  | [rule] =>
    match rule.chain file with
    | [] => .error (.noTransformer file.path)
    | binding :: rest => .ok (binding :: rest)
  | several => .error (.ambiguousTransformer file.path (several.map Rule.name))

end Rule

namespace Preset

def babel : String := "babel-transformer"

def reactRefresh : String := "react-refresh-transformer"

def solidRefresh : String := "solid-refresh-transformer"

def css : String := "css-transformer"

def style : String := "style-transformer"

def transformerNames : Preset → List String
  | .react => [babel, reactRefresh, css, style]
  | .solid => [babel, solidRefresh, css, style]
  | .vanilla => [babel, css, style]

/-- A list of one plugin and its options. -/
def plugin (name : String) (options : List (String × Json)) : Json :=
  .list [.list [.string name, .object options]]

def babelOptions : Preset → Json
  | .react =>
    .object
      [("presets", plugin "react" [("runtime", .string "automatic")]),
       ("plugins", plugin "react-refresh/babel" [("skipEnvCheck", .bool true)])]
  | .solid =>
    .object
      [("presets", plugin "solid" [("generate", .string "dom"), ("hydratable", .bool false)]),
       ("plugins", plugin "solid-refresh/babel" [("bundler", .string "standard")])]
  | .vanilla => .object [("presets", plugin "env" [("targets", .string "defaults")])]

/-- Styles are compiled first and injected then. -/
def stylesheetChain (_ : SourceFile) : List Binding :=
  [.bare css, .bare style]

def stylesheetRule : Rule :=
  ⟨"stylesheet", SourceFile.isStylesheet, stylesheetChain⟩

def libraryScriptRule : Rule :=
  ⟨"library-script", SourceFile.isLibraryScript, fun _ => [.bare babel]⟩

def rules : Preset → List Rule
  | .react =>
    [ ⟨"app-script", SourceFile.isAppScript, fun _ =>
        [.withOptions babel (babelOptions .react), .bare reactRefresh]⟩,
      libraryScriptRule,
      stylesheetRule ]
  | .solid =>
    [ ⟨"app-script", SourceFile.isAppScript, fun _ =>
        [.withOptions babel (babelOptions .solid), .bare solidRefresh]⟩,
      libraryScriptRule,
      stylesheetRule ]
  | .vanilla =>
    [ ⟨"script", SourceFile.isScript, fun _ => [.withOptions babel (babelOptions .vanilla)]⟩,
      stylesheetRule ]

def chain (preset : Preset) (file : SourceFile) : Except Failure (List Binding) :=
  Rule.dispatch preset.rules file

end Preset

end LivePreview
