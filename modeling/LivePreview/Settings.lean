import LivePreview.Failure
import LivePreview.Registry

namespace LivePreview

/-! Settings of a preview.  Each has a default, so that a file names only what it changes. -/

structure Settings where
  /-- How long no further request may come before one is compiled. -/
  debounceMs : UInt64
  /-- How often the height is measured; never, if zero. -/
  resizePollMs : UInt64
  defaultPreset : Preset
  logLevel : LogLevel
deriving DecidableEq

namespace Settings

def default : Settings := ⟨50, 300, .react, .info⟩

instance : Inhabited Settings := ⟨default⟩

def record : Json.Record Settings where
  name := "SandboxConfig"
  fields :=
    .field (.defaulted "debounce_ms" .word64 default.debounceMs)
      (.field (.defaulted "resize_poll_ms" .word64 default.resizePollMs)
        (.field (.defaulted "default_preset" Preset.codec default.defaultPreset)
          (.field (.defaulted "log_level" LogLevel.codec default.logLevel) .done)))
  make
    | (debounceMs, resizePollMs, defaultPreset, logLevel, ()) =>
      { debounceMs, resizePollMs, defaultPreset, logLevel }
  split settings :=
    (settings.debounceMs, settings.resizePollMs, settings.defaultPreset, settings.logLevel, ())

def codec : Json.Codec Settings := record.codec

def window (settings : Settings) : Nat :=
  settings.debounceMs.toNat

def pollInterval (settings : Settings) : Option Nat :=
  if settings.resizePollMs = 0 then none else some settings.resizePollMs.toNat

def registry (settings : Settings) : Registry :=
  { Registry.builtin with fallback := settings.defaultPreset }

end Settings

/-- What stands at the path of a settings file. -/
inductive SettingsFile
  | absent
  | directory
  | unreadable (reason : String)
  | content (bytes : ByteArray)

namespace SettingsFile

/-- No file means the defaults. -/
def load (path : String) : SettingsFile → Except Failure Settings
  | .absent => .ok .default
  | .directory => .error (.io "Is a directory (os error 21)")
  | .unreadable reason => .error (.io reason)
  | .content bytes =>
    match String.fromUTF8? bytes with
    | none => .error (.io "stream did not contain valid UTF-8")
    | some text =>
      match Settings.codec.parse text with
      | .ok settings => .ok settings
      | .error message => .error (.invalidConfig (path ++ ": " ++ message))

end SettingsFile

end LivePreview
