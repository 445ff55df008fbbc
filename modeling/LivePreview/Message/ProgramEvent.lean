import LivePreview.Message.Outbound

namespace LivePreview

/-! What the running program raises: errors that nothing caught, and console output. -/

/-- An error with its position in the running code, and in the source when that is known. -/
structure RuntimeError where
  message : String
  path : Option String
  line : Option UInt32
  column : Option UInt32
  mapped : Option Location
deriving DecidableEq, Repr

namespace RuntimeError

def record : Json.Record RuntimeError where
  name := "RuntimeErrorEvent"
  fields :=
    .field (.required "message" .string)
      (.field (.optional "path" .string)
        (.field (.optional "line" .word32)
          (.field (.optional "column" .word32)
            (.field (.optional "mapped" Location.codec) .done))))
  make | (message, path, line, column, mapped, ()) => { message, path, line, column, mapped }
  split error := (error.message, error.path, error.line, error.column, error.mapped, ())

def codec : Json.Codec RuntimeError := record.codec

/-- A mapped position replaces the raw one, line and column together. -/
def report (error : RuntimeError) : Report where
  kind := .runtime
  detail :=
    match error.mapped with
    | some location => .ofLocation error.message error.path (some location)
    | none => ⟨error.message, error.path, error.line, error.column⟩

end RuntimeError

inductive ProgramEvent
  | error (error : RuntimeError)
  | console (log : List ConsoleEntry)
deriving DecidableEq, Repr

namespace ProgramEvent

/-- What the host is sent for an event; an empty console log is not sent on. -/
def message? : ProgramEvent → Option Outbound
  | .error raised => some (.action raised.report.action)
  | .console [] => none
  | .console (entry :: rest) => some (.console (entry :: rest))

end ProgramEvent

end LivePreview
