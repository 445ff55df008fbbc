import LivePreview.Json.Record

namespace LivePreview

structure SourceFile where
  path : String
  source : String
deriving DecidableEq, Repr, Inhabited

namespace SourceFile

def manifestPath : String := "/package.json"

/-- Where a project keeps its page, the first place that has one counting. -/
def pagePaths : List String := ["/index.html", "/public/index.html"]

/-- Files that are read here and not handed to a transformer. -/
def isMetadata (file : SourceFile) : Bool :=
  file.path == manifestPath || pagePaths.contains file.path

def isInstalled (file : SourceFile) : Bool :=
  "/node_modules/".toList.isPrefixOf file.path.toList

def find? (files : List SourceFile) (path : String) : Option SourceFile :=
  files.find? fun file => file.path == path

def record : Json.Record SourceFile where
  name := "Module"
  fields := .field (.required "filepath" .string) (.field (.required "source" .string) .done)
  make | (path, source, ()) => { path, source }
  split file := (file.path, file.source, ())

def codec : Json.Codec SourceFile := record.codec

end SourceFile

end LivePreview
