import LivePreview.CommandLine.Usage
import LivePreview.Json.Record

namespace LivePreview.CommandLine

/-- A package and its range, cut at the first `=`. -/
def dependency (argument : String) : Except String (String × String) :=
  match splitAtEquals argument.toList with
  | (_, none) => .error ("expected NAME=RANGE, got '" ++ argument ++ "'")
  | ([], some _) => .error ("missing package name in '" ++ argument ++ "'")
  | (name, some range) => .ok (String.ofList name, String.ofList range)

/-- Digits in order, with the fault at the first character that is none or makes the number too
large. -/
def word64From (value : Nat) : List Char → Except String Nat
  | [] => .ok value
  | c :: rest =>
    if !c.isDigit then .error "invalid digit found in string"
    else
      let next := value * 10 + (c.toNat - '0'.toNat)
      if UInt64.size ≤ next then .error "number too large to fit in target type"
      else word64From next rest

/-- An unsigned number of 64 bits; a plus sign may stand in front of the digits. -/
def word64 (argument : String) : Except String UInt64 :=
  UInt64.ofNat <$>
    match argument.toList with
    | [] => .error "cannot parse integer from empty string"
    | '+' :: c :: rest => word64From 0 (c :: rest)
    | digits => word64From 0 digits

def complaint (result : Except String α) : Option Complaint :=
  match result with
  | .ok _ => none
  | .error reason => some (.because reason)

inductive Command
  | resolve (template : String) (paths : List String)
  | dependencies (template : String) (given : List (String × String))
  | serve (settings : Option String) (debounceMs : Option UInt64) (defaultPreset : Option String)
      (logLevel : Option LogLevel)
deriving DecidableEq, Repr

structure Invocation where
  json : Bool
  command : Command
deriving DecidableEq, Repr

def jsonOption : OptionSpec := ⟨"json", .switch⟩

def templateOption : OptionSpec :=
  ⟨"template", .valued "TEMPLATE" false fun _ => none⟩

def program : ProgramSpec where
  options := [jsonOption]
  commands :=
    [ { name := "resolve"
        options := [templateOption, jsonOption]
        operands := true },
      { name := "deps"
        options :=
          [ templateOption,
            ⟨"dep", .valued "DEPS" true fun value => complaint (dependency value)⟩,
            jsonOption ]
        operands := false },
      { name := "serve"
        options :=
          [ ⟨"config", .valued "CONFIG" false fun value =>
              if value = "" then some .empty else none⟩,
            ⟨"debounce-ms", .valued "DEBOUNCE_MS" false fun value => complaint (word64 value)⟩,
            ⟨"default-preset", .valued "DEFAULT_PRESET" false fun _ => none⟩,
            ⟨"log-level", .valued "LOG_LEVEL" false fun value =>
              complaint (LogLevel.ofName value)⟩,
            jsonOption ]
        operands := false } ]

def defaultTemplate : String := "react"

def template (given : Given) : String :=
  (given.value? "template").getD defaultTemplate

def parse (arguments : List String) : Except Stop Invocation := do
  let (whole, spec, given) ← program.read arguments
  let json := whole.has "json" || given.has "json"
  let command : Command :=
    match spec.name with
    | "resolve" => .resolve (template given) given.operands
    | "deps" =>
      .dependencies (template given)
        ((given.values "dep").filterMap fun value => (dependency value).toOption)
    | _ =>
      .serve (given.value? "config")
        ((given.value? "debounce-ms").bind fun value => (word64 value).toOption)
        (given.value? "default-preset")
        ((given.value? "log-level").bind fun value => (LogLevel.ofName value).toOption)
  return { json, command }

end LivePreview.CommandLine
