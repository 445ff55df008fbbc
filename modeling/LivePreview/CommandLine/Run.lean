import LivePreview.Channel
import LivePreview.CommandLine.Command
import LivePreview.CommandLine.Help
import LivePreview.Headless
import LivePreview.Preview

namespace LivePreview.CommandLine

/-! What the commands answer.  Nothing is transformed or run: presets load transformers that pass
files through. -/

structure Output where
  code : UInt32
  stdout : String
  /-- What goes to the error stream.  Of a usage error it is the first line alone, without the hints
  on usage and help that follow it. -/
  complaint : String
deriving DecidableEq, Repr

/-- The command cannot be carried out. -/
def Output.failure (message : String) : Output :=
  ⟨1, "", "Error: " ++ message ++ "\n"⟩

def readyPreset (template : String) : Outcome ReadyPreset :=
  let session := Session.start Headless.fresh .off
  (session.loadPreset Headless.backend Headless.document (Registry.builtin.find template)).1

/-- A path with its chain, or why it has none. -/
abbrev ChainReport := String × Except Failure (List Binding)

def chainReports (ready : ReadyPreset) (paths : List String) : List ChainReport :=
  paths.map fun path => (path, ready.chainFor ⟨path, ""⟩)

namespace ChainReport

def succeeds (report : ChainReport) : Bool :=
  match report.2 with
  | .ok _ => true
  | .error _ => false

def line (report : ChainReport) : String :=
  match report.2 with
  | .ok chain => report.1 ++ ": " ++ String.intercalate " -> " (chain.map Binding.name)
  | .error failure => report.1 ++ ": error: " ++ failure.message

def toJson (report : ChainReport) : Json :=
  match report.2 with
  | .ok chain => .object [("chain", .list (chain.map Binding.codec.write))]
  | .error failure => .object [("error", failure.toJson)]

end ChainReport

def chainsText (reports : List ChainReport) : String :=
  lines (reports.map ChainReport.line)

def chainsJson (reports : List ChainReport) : Table Json :=
  .ofList (reports.map fun report => (report.1, report.toJson))

/-- Every path is reported, whether or not one before it failed. -/
def resolve (template : String) (paths : List String) (json : Bool) : Output :=
  match readyPreset template with
  | .failed failure => .failure failure.message
  | .crashed note => ⟨101, "", note.getD ""⟩
  | .ok ready =>
    let reports := chainReports ready paths
    let text :=
      if json then lines [(Json.ofTable (chainsJson reports)).compact] else chainsText reports
    ⟨if reports.all ChainReport.succeeds then 0 else 1, text, ""⟩

def settledDependencies (template : String) (given : List (String × String)) : Dependencies :=
  (Registry.builtin.find template).augment (.ofList given)

def dependenciesText (settled : Dependencies) : String :=
  lines (settled.entries.map fun entry => entry.1 ++ "@" ++ entry.2)

def dependenciesJson (settled : Dependencies) : Json :=
  .object (settled.entries.map fun entry => (entry.1, .string entry.2))

def dependencies (template : String) (given : List (String × String)) (json : Bool) : Output :=
  let settled := settledDependencies template given
  ⟨0, if json then lines [(dependenciesJson settled).compact] else dependenciesText settled, ""⟩

/-- The settings in force: what is given on the command line replaces what the file says. -/
def settings (base : Settings) (debounceMs : Option UInt64) (defaultPreset : Option String)
    (logLevel : Option LogLevel) : Except String Settings := do
  let base := { base with debounceMs := debounceMs.getD base.debounceMs }
  let base ←
    match defaultPreset with
    | none => .ok base
    | some name =>
      match Preset.all.find? fun preset => preset.name == name with
      | some preset => .ok { base with defaultPreset := preset }
      | none => .error ("unknown preset '" ++ name ++ "'")
  return { base with logLevel := logLevel.getD base.logLevel }

structure Service where
  setup : Setup Headless
  preview : Preview Headless

namespace Service

def start (settings : Settings) : Service :=
  let setup := settings.setup Headless.backend Headless.document .enabled
  ⟨setup, (Preview.start settings false settings.logLevel 0 .fresh).settle setup⟩

def wait (service : Service) (milliseconds : Nat) : Service :=
  { service with preview := service.preview.wait service.setup milliseconds }

def send (service : Service) (message : Inbound) : Service :=
  { service with
    preview := (service.preview.step service.setup (.message message)).settle service.setup }

/-- A line of the host; blank lines and such as hold no message are passed over. -/
def receive (service : Service) (line : String) : Service :=
  if (Text.trim line.toList).isEmpty then service
  else
    match Inbound.codec.parse line with
    | .ok message => service.send message
    | .error message =>
      { service with
        preview := service.preview.log (.warn ("ignoring malformed message: " ++ message) []) }

def finish (service : Service) : Service :=
  { service with
    preview :=
      (service.preview.log (.info "input closed, shutting down" [])).shutdown service.setup }

def takeEvents (service : Service) : List Event × Service :=
  (service.preview.session.trace.map Stamped.event,
    { service with
      preview := service.preview.onSession fun session => { session with trace := [] } })

end Service

def messagesOf (events : List Event) : List Outbound :=
  events.filterMap fun event =>
    match event with
    | .sent message => some message
    | _ => none

def recordsOf (events : List Event) : List LogRecord :=
  events.filterMap fun event =>
    match event with
    | .logged record => some record
    | _ => none

/-- Lines end at a line feed, and at a carriage return before it. -/
def linesFrom (line : List Char) : List Char → List String
  | [] => if line.isEmpty then [] else [String.ofList line.reverse]
  | '\n' :: rest =>
    let line :=
      match line with
      | '\r' :: line => line
      | line => line
    String.ofList line.reverse :: linesFrom [] rest
  | c :: rest => linesFrom (c :: line) rest

def inputLines (input : String) : List String :=
  linesFrom [] input.toList

def messagesText (messages : List Outbound) : String :=
  String.ofList (messages.flatMap LineWriter.line)

def recordText (record : LogRecord) : String :=
  String.intercalate " "
    (record.severity.label :: record.message ::
      record.fields.map fun field => field.1 ++ "=" ++ field.2)

def recordsText (records : List LogRecord) : String :=
  lines (records.map recordText)

/-- Serves a host whose whole input is known. -/
def serve (settings : Settings) (input : String) : Output :=
  let service := (inputLines input).foldl Service.receive (Service.start settings)
  ⟨0, messagesText (messagesOf service.finish.takeEvents.1), ""⟩

/-- The settings that a command to serve asks for. -/
def serviceSettings (readSettings : String → SettingsFile) (path : Option String)
    (debounceMs : Option UInt64) (defaultPreset : Option String) (logLevel : Option LogLevel) :
    Except String Settings :=
  let base : Except Failure Settings :=
    match path with
    | none => .ok .default
    | some path => (readSettings path).load path
  match base with
  | .error failure => .error failure.message
  | .ok base => settings base debounceMs defaultPreset logLevel

def stopped : Stop → Output
  | .error error => ⟨2, "", error.message ++ "\n"⟩
  | .help command => ⟨0, helpText command, ""⟩
  | .version => ⟨0, versionText, ""⟩
  | .nothingGiven => ⟨2, "", overview⟩

def run (arguments : List String) (readSettings : String → SettingsFile) (input : String) :
    Output :=
  match parse arguments with
  | .error stop => stopped stop
  | .ok ⟨json, .resolve template paths⟩ => resolve template paths json
  | .ok ⟨json, .dependencies template given⟩ => dependencies template given json
  | .ok ⟨_, .serve path debounceMs defaultPreset logLevel⟩ =>
    match serviceSettings readSettings path debounceMs defaultPreset logLevel with
    | .error message => .failure message
    | .ok settings => serve settings input

end LivePreview.CommandLine
