import LivePreview.Json.Envelope
import LivePreview.Message.Report

namespace LivePreview

inductive Status
  | initializing
  | evaluating
  | idle
deriving DecidableEq, Repr

namespace Status

def name : Status → String
  | .initializing => "initializing"
  | .evaluating => "evaluating"
  | .idle => "idle"

def all : List Status := [.initializing, .evaluating, .idle]

def codec : Json.Codec Status :=
  .enumeration (all.map fun status => (status.name, status)) name

end Status

/-- One line of a console: the method it was written by and what was written. -/
structure ConsoleEntry where
  method : String
  data : List Json
deriving DecidableEq, Repr

namespace ConsoleEntry

def record : Json.Record ConsoleEntry where
  name := "ConsoleLog"
  fields := .field (.required "method" .string) (.field (.required "data" (.list .any)) .done)
  make | (method, data, ()) => { method, data }
  split entry := (entry.method, entry.data, ())

def codec : Json.Codec ConsoleEntry := record.codec

end ConsoleEntry

inductive Outbound
  | initialized
  | start (firstLoad : Bool)
  | status (status : Status)
  | done (compilationError : Bool)
  | action (action : Action)
  | success
  | console (log : List ConsoleEntry)
  | resize (height : UInt32)
  | refresh
deriving DecidableEq, Repr

namespace Outbound

def kind : Outbound → String
  | .initialized => "initialized"
  | .start _ => "start"
  | .status _ => "status"
  | .done _ => "done"
  | .action _ => "action"
  | .success => "success"
  | .console _ => "console"
  | .resize _ => "resize"
  | .refresh => "refresh"

def payload : Outbound → Option Json
  | .initialized => none
  | .start firstLoad => some (.object [("firstLoad", .bool firstLoad)])
  | .status value => some (.object [("status", Status.codec.write value)])
  | .done compilationError => some (.object [("compilationError", .bool compilationError)])
  | .action value => some (Action.codec.write value)
  | .success => none
  | .console log => some (.object [("log", (Json.Codec.list ConsoleEntry.codec).write log)])
  | .resize height => some (.object [("height", Json.Codec.word32.write height)])
  | .refresh => none

def variants : List (Json.Variant Outbound) :=
  [ .unit "OutboundMessage" "initialized" "Initialized" .initialized,
    .fields "OutboundMessage" "start" "Start" (.field (.required "firstLoad" .bool) .done)
      fun (firstLoad, ()) => .start firstLoad,
    .fields "OutboundMessage" "status" "Status" (.field (.required "status" Status.codec) .done)
      fun (value, ()) => .status value,
    .fields "OutboundMessage" "done" "Done" (.field (.required "compilationError" .bool) .done)
      fun (compilationError, ()) => .done compilationError,
    .carrying "action" Action.codec .action,
    .unit "OutboundMessage" "success" "Success" .success,
    .fields "OutboundMessage" "console" "Console"
      (.field (.required "log" (.list ConsoleEntry.codec)) .done)
      fun (log, ()) => .console log,
    .fields "OutboundMessage" "resize" "Resize" (.field (.required "height" .word32) .done)
      fun (height, ()) => .resize height,
    .unit "OutboundMessage" "refresh" "Refresh" .refresh ]

def toJson (message : Outbound) : Json :=
  Json.Envelope.write message.kind message.payload

def codec : Json.Codec Outbound :=
  Json.Envelope.codec "OutboundMessage" variants toJson

end Outbound

end LivePreview
