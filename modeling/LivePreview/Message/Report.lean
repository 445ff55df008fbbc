import LivePreview.Failure
import LivePreview.Json.Tagged

namespace LivePreview

/-! What a host is told about an error: a report, and the action that shows it. -/

/-- A position that may be known in part. -/
structure ReportDetail where
  message : String
  path : Option String
  line : Option UInt32
  column : Option UInt32
deriving DecidableEq, Repr

namespace ReportDetail

/-- The location's own path counts before the given one. -/
def ofLocation (message : String) (path : Option String) (location : Option Location) :
    ReportDetail where
  message
  path := location.bind Location.path <|> path
  line := location.map Location.line
  column := location.map Location.column

def record : Json.Record ReportDetail where
  name := "ErrorDetail"
  fields :=
    .field (.required "message" .string)
      (.field (.optional "path" .string)
        (.field (.optional "line" .word32) (.field (.optional "column" .word32) .done)))
  make | (message, path, line, column, ()) => { message, path, line, column }
  split detail := (detail.message, detail.path, detail.line, detail.column, ())

end ReportDetail

inductive ReportKind
  | compilation
  | bundler
  | runtime
deriving DecidableEq, Repr

namespace ReportKind

def name : ReportKind → String
  | .compilation => "CompilationError"
  | .bundler => "BundlerError"
  | .runtime => "RuntimeError"

/-- The heading a host shows. -/
def title : ReportKind → String
  | .compilation => "Compilation Error"
  | .bundler => "Bundler Error"
  | .runtime => "Runtime Exception"

def all : List ReportKind := [.compilation, .bundler, .runtime]

def ofFailure : Failure → ReportKind
  | .compilation _ _ => .compilation
  | .evaluation _ _ => .runtime
  | _ => .bundler

end ReportKind

structure Report where
  kind : ReportKind
  detail : ReportDetail
deriving DecidableEq, Repr

inductive ActionKind
  | showError
deriving DecidableEq, Repr

def ActionKind.name : ActionKind → String
  | .showError => "show-error"

def ActionKind.codec : Json.Codec ActionKind :=
  .enumeration [("show-error", .showError)] name

structure Action where
  kind : ActionKind
  title : String
  line : Option UInt32
  column : Option UInt32
  path : Option String
  message : String
  payload : Json
deriving DecidableEq, Repr

namespace Action

def ofLocation (title message : String) (location : Option Location) : Action where
  kind := .showError
  title
  line := location.map Location.line
  column := location.map Location.column
  path := location.bind Location.path
  message
  payload := .null

def record : Json.Record Action where
  name := "ShowErrorAction"
  fields :=
    .field (.required "action" ActionKind.codec)
      (.field (.required "title" .string)
        (.field (.optional "line" .word32)
          (.field (.optional "column" .word32)
            (.field (.optional "path" .string)
              (.field (.required "message" .string)
                (.field (.required "payload" .any) .done))))))
  make
    | (kind, title, line, column, path, message, payload, ()) =>
      { kind, title, line, column, path, message, payload }
  split action :=
    (action.kind, action.title, action.line, action.column, action.path, action.message,
      action.payload, ())

def codec : Json.Codec Action := record.codec

end Action

namespace Report

def tagged : Json.Tagged ReportKind ReportDetail where
  name := "ErrorRecord"
  tag := "kind"
  kinds := ReportKind.all.map fun kind => (kind.name, kind)
  body := ReportDetail.record.codec

def toJson (report : Report) : Json :=
  .object (("kind", .string report.kind.name) :: ReportDetail.record.entries report.detail)

def codec : Json.Codec Report where
  read depth text :=
    (tagged.read depth text).map fun ((kind, detail), rest) => ({ kind, detail }, rest)
  take value := (tagged.take value).map fun (kind, detail) => { kind, detail }
  write := toJson

def ofFailure (failure : Failure) : Report where
  kind := .ofFailure failure
  detail := .ofLocation failure.message failure.path failure.location

/-- The action carries the report itself as its payload. -/
def action (report : Report) : Action where
  kind := .showError
  title := report.kind.title
  line := report.detail.line
  column := report.detail.column
  path := report.detail.path
  message := report.detail.message
  payload := report.toJson

@[simp] theorem action_title (report : Report) : report.action.title = report.kind.title := rfl

@[simp] theorem action_message (report : Report) :
    report.action.message = report.detail.message := rfl

@[simp] theorem action_payload (report : Report) : report.action.payload = report.toJson := rfl

end Report

end LivePreview
