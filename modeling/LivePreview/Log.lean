import LivePreview.Json.Codec

namespace LivePreview

/-! Log records, and the level up to which they are kept. -/

inductive LogLevel
  | off
  | error
  | warn
  | info
  | debug
  | trace
deriving DecidableEq, Repr

namespace LogLevel

instance : Inhabited LogLevel := ⟨.info⟩

def all : List LogLevel := [.off, .error, .warn, .info, .debug, .trace]

def name : LogLevel → String
  | .off => "off"
  | .error => "error"
  | .warn => "warn"
  | .info => "info"
  | .debug => "debug"
  | .trace => "trace"

theorem mem_all (level : LogLevel) : level ∈ all := by
  cases level <;> decide

/-- How many kinds of records the level lets through. -/
def rank : LogLevel → Nat
  | .off => 0
  | .error => 1
  | .warn => 2
  | .info => 3
  | .debug => 4
  | .trace => 5

/-- Equal up to the case of ASCII letters. -/
def sameLetters (left right : String) : Bool :=
  left.toList.map Char.toLower == right.toList.map Char.toLower

/-- A level by its name, in any case. -/
def ofName (text : String) : Except String LogLevel :=
  match all.find? fun level => sameLetters level.name text with
  | some level => .ok level
  | none => .error ("unknown log level '" ++ text ++ "'")

def codec : Json.Codec LogLevel :=
  .enumeration (all.map fun level => (level.name, level)) name

end LogLevel

inductive Severity
  | error
  | warn
  | info
  | debug
  | trace
deriving DecidableEq, Repr

namespace Severity

def label : Severity → String
  | .error => "ERROR"
  | .warn => "WARN"
  | .info => "INFO"
  | .debug => "DEBUG"
  | .trace => "TRACE"

def rank : Severity → Nat
  | .error => 1
  | .warn => 2
  | .info => 3
  | .debug => 4
  | .trace => 5

end Severity

def LogLevel.admits (level : LogLevel) (severity : Severity) : Bool :=
  severity.rank ≤ level.rank

@[simp] theorem LogLevel.admits_off (severity : Severity) :
    LogLevel.off.admits severity = false := by
  cases severity <;> rfl

@[simp] theorem LogLevel.admits_trace (severity : Severity) :
    LogLevel.trace.admits severity = true := by
  cases severity <;> rfl

structure LogRecord where
  severity : Severity
  message : String
  fields : List (String × String)
deriving DecidableEq, Repr

namespace LogRecord

def error (message : String) (fields : List (String × String)) : LogRecord :=
  ⟨.error, message, fields⟩

def warn (message : String) (fields : List (String × String)) : LogRecord :=
  ⟨.warn, message, fields⟩

def info (message : String) (fields : List (String × String)) : LogRecord :=
  ⟨.info, message, fields⟩

def debug (message : String) (fields : List (String × String)) : LogRecord :=
  ⟨.debug, message, fields⟩

def trace (message : String) (fields : List (String × String)) : LogRecord :=
  ⟨.trace, message, fields⟩

end LogRecord

/-- Whether a request may change the level. -/
inductive LogControl
  | enabled
  | disabled
deriving DecidableEq, Repr

namespace LogControl

/-- The level to keep records by from now on, and the record of the change. -/
def apply (control : LogControl) (current requested : LogLevel) : LogLevel × List LogRecord :=
  match control with
  | .disabled => (current, [])
  | .enabled => (requested, [.debug "log level changed" [("level", requested.name)]])

@[simp] theorem apply_disabled (current requested : LogLevel) :
    apply .disabled current requested = (current, []) := rfl

end LogControl

def decimal (value : Nat) : String :=
  String.ofList (Nat.toDigits 10 value)

end LivePreview
