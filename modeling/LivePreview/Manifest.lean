import LivePreview.Failure
import LivePreview.Preset
import LivePreview.SourceFile

namespace LivePreview

/-! What a project's `/package.json` says: its entry, and the packages it needs. -/

abbrev Dependencies := Table String

structure Manifest where
  entry : Option String
  dependencies : Dependencies
deriving DecidableEq

namespace Manifest

def empty : Manifest := ⟨none, .empty⟩

def dropDots : List Char → List Char
  | '.' :: '/' :: rest => dropDots rest
  | path => path

def rooted : List Char → List Char
  | '/' :: rest => '/' :: rest
  | path => '/' :: path

/-- The entry as a path from the root. -/
def normalizeEntry (main : String) : String :=
  String.ofList (rooted (dropDots main.toList))

@[simp] theorem dropDots_dots (path : List Char) :
    dropDots ('.' :: '/' :: path) = dropDots path := by
  rw [dropDots]

@[simp] theorem rooted_slash (path : List Char) : rooted ('/' :: path) = '/' :: path := rfl

structure Content where
  main : Option String
  dependencies : Dependencies
  devDependencies : Dependencies
deriving DecidableEq

def Content.record : Json.Record Content where
  name := "PackageManifest"
  fields :=
    .field (.defaulted "main" (.option .string) none)
      (.field (.defaulted "dependencies" (.table .string) .empty)
        (.field (.defaulted "devDependencies" (.table .string) .empty) .done))
  make | (main, dependencies, devDependencies, ()) => { main, dependencies, devDependencies }
  split content := (content.main, content.dependencies, content.devDependencies, ())

/-- A package needed for development only never replaces one needed to run. -/
def Content.packages (content : Content) : Dependencies :=
  content.devDependencies.entries.foldl
    (fun table entry => table.putIfAbsent entry.1 entry.2) content.dependencies

def ofContent (content : Content) : Manifest where
  entry := content.main.map normalizeEntry
  dependencies := content.packages

def parse (text : String) : Except Failure Manifest :=
  match Content.record.codec.parse text with
  | .ok content => .ok (ofContent content)
  | .error message => .error (.invalidManifest message)

/-- A project without the file needs nothing. -/
def ofFiles (files : List SourceFile) : Except Failure Manifest :=
  match SourceFile.find? files SourceFile.manifestPath with
  | none => .ok empty
  | some file => parse file.source

end Manifest

namespace Preset

def coreJsVersion : String := "3.22.7"

/-- The package that keeps a program alive across changes, with the range it is asked for in. -/
def refreshPackage : Preset → Option (String × String)
  | .react => some ("react-refresh", "^0.11.0")
  | .solid => some ("solid-refresh", "^0.4.1")
  | .vanilla => none

/-- Adds the packages that the transformed program relies on.  The project's own range of the
refresh package is kept; the polyfills are always the same. -/
def augment (preset : Preset) (dependencies : Dependencies) : Dependencies :=
  let dependencies :=
    match preset.refreshPackage with
    | some (name, range) => dependencies.putIfAbsent name range
    | none => dependencies
  dependencies.put "core-js" coreJsVersion

end Preset

end LivePreview
