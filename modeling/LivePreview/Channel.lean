import LivePreview.Log
import LivePreview.Message.Outbound

namespace LivePreview

/-! Where messages go: written as lines of JSON, handed to a receiver, or kept.  Sending never
fails; what goes wrong is put on record. -/

/-- A writer that takes whole lines, and refuses them while it is broken. -/
structure LineWriter where
  written : List Char
  broken : Bool
deriving DecidableEq, Repr

namespace LineWriter

def fresh : LineWriter := ⟨[], false⟩

def line (message : Outbound) : List Char :=
  message.toJson.print ++ ['\n']

def send (writer : LineWriter) (message : Outbound) : LineWriter × List LogRecord :=
  if writer.broken then
    (writer, [.warn "failed to write message: pipe closed" [("kind", message.kind)]])
  else ({ writer with written := writer.written ++ line message }, [])

def takeWritten (writer : LineWriter) : String × LineWriter :=
  (String.ofList writer.written, { writer with written := [] })

@[simp] theorem send_broken (writer : LineWriter) (message : Outbound) (h : writer.broken = true) :
    (writer.send message).1 = writer := by
  simp [send, h]

theorem written_send (writer : LineWriter) (message : Outbound) (h : writer.broken = false) :
    (writer.send message).1.written = writer.written ++ line message := by
  simp [send, h]

end LineWriter

/-- Messages on their way to a receiver, until it is closed. -/
structure Mailbox where
  waiting : List Outbound
  closed : Bool
deriving DecidableEq, Repr

namespace Mailbox

def fresh : Mailbox := ⟨[], false⟩

def send (mailbox : Mailbox) (message : Outbound) : Mailbox × List LogRecord :=
  if mailbox.closed then
    (mailbox, [.warn "host channel closed, dropping message" [("kind", message.kind)]])
  else ({ mailbox with waiting := mailbox.waiting ++ [message] }, [])

def receive (mailbox : Mailbox) : Option Outbound × Mailbox :=
  match mailbox.waiting with
  | [] => (none, mailbox)
  | message :: rest => (some message, { mailbox with waiting := rest })

/-- What is still on its way is lost. -/
def close (_ : Mailbox) : Mailbox := ⟨[], true⟩

end Mailbox

abbrev Recording := List Outbound

namespace Recording

def send (recording : Recording) (message : Outbound) : Recording :=
  recording ++ [message]

def kinds (recording : Recording) : List String :=
  recording.map Outbound.kind

def statuses (recording : Recording) : List Status :=
  recording.filterMap fun message =>
    match message with
    | .status value => some value
    | _ => none

@[simp] theorem kinds_send (recording : Recording) (message : Outbound) :
    (send recording message).kinds = recording.kinds ++ [message.kind] := by
  simp [send, kinds]

end Recording

end LivePreview
