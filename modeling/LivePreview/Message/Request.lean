import LivePreview.Json.Envelope
import LivePreview.Log
import LivePreview.SourceFile

namespace LivePreview

/-! What a host sends: requests to compile, to start over, or to evaluate a command. -/

/-- Which build of the developer tools a host wants. -/
inductive DevTools
  | legacy
  | latest
deriving DecidableEq, Repr

namespace DevTools

def name : DevTools → String
  | .legacy => "legacy"
  | .latest => "latest"

/-- The name of the kind in log records. -/
def label : DevTools → String
  | .legacy => "Legacy"
  | .latest => "Latest"

def all : List DevTools := [.legacy, .latest]

def codec : Json.Codec DevTools :=
  .enumeration (all.map fun kind => (kind.name, kind)) name

end DevTools

inductive GivenSource
  | bare (source : String)
  | wrapped (source : String)
deriving DecidableEq, Repr

namespace GivenSource

def source : GivenSource → String
  | .bare source => source
  | .wrapped source => source

def fields : Json.Fields (Option String × Unit) (String × Unit) :=
  .field { Json.Field.required "source" .string with aliases := ["code"] } .done

def take : Json → Except Json.Cause GivenSource
  | .string source => .ok (.bare source)
  | .object entries =>
    match fields.takeObject entries with
    | .ok (source, ()) => .ok (.wrapped source)
    | .error _ => .error (.noVariant "RequestModule")
  | _ => .error (.noVariant "RequestModule")

def write : GivenSource → Json
  | .bare source => .string source
  | .wrapped source => .object [("source", .string source)]

/-- The whole value is read before its spelling is looked at. -/
def codec : Json.Codec GivenSource where
  read depth text :=
    match Json.tree depth text with
    | .error fault => .error fault
    | .ok (value, rest) =>
      match take value with
      | .ok given => .ok (given, rest)
      | .error cause => .error (.adrift cause rest)
  take := take
  write := write

end GivenSource

structure CompileRequest where
  files : Table GivenSource
  template : Option String
  logLevel : Option LogLevel
  hasFileResolver : Bool
  devTools : Option DevTools
deriving DecidableEq

namespace CompileRequest

def ofTemplate (template : Option String) : CompileRequest :=
  ⟨.empty, template, none, false, none⟩

instance : Inhabited CompileRequest := ⟨ofTemplate none⟩

def addFile (request : CompileRequest) (path source : String) : CompileRequest :=
  { request with files := request.files.put path (.bare source) }

/-- The files in the order the host listed them. -/
def sources (request : CompileRequest) : List SourceFile :=
  request.files.entries.map fun entry => ⟨entry.1, entry.2.source⟩

def record : Json.Record CompileRequest where
  name := "CompileRequest"
  fields :=
    .field (.required "modules" (.table GivenSource.codec))
      (.field (.defaulted "template" (.option .string) none)
        (.field (.defaulted "logLevel" (.option LogLevel.codec) none)
          (.field (.defaulted "hasFileResolver" .bool false)
            (.field (.defaulted "reactDevTools" (.option DevTools.codec) none) .done))))
  make
    | (files, template, logLevel, hasFileResolver, devTools, ()) =>
      { files, template, logLevel, hasFileResolver, devTools }
  split request :=
    (request.files, request.template, request.logLevel, request.hasFileResolver,
      request.devTools, ())

def codec : Json.Codec CompileRequest := record.codec

end CompileRequest

inductive Inbound
  | compile (request : CompileRequest)
  | refresh
  | evaluate (command : String)
deriving DecidableEq

namespace Inbound

def variants : List (Json.Variant Inbound) :=
  [ .carrying "compile" CompileRequest.codec .compile,
    .unit "InboundMessage" "refresh" "Refresh" .refresh,
    .fields "InboundMessage" "evaluate" "Evaluate" (.field (.required "command" .string) .done)
      fun (command, ()) => .evaluate command ]

def toJson : Inbound → Json
  | .compile request => Json.Envelope.write "compile" (some (CompileRequest.codec.write request))
  | .refresh => Json.Envelope.write "refresh" none
  | .evaluate command =>
    Json.Envelope.write "evaluate" (some (.object [("command", .string command)]))

def codec : Json.Codec Inbound :=
  Json.Envelope.codec "InboundMessage" variants toJson

end Inbound

end LivePreview
