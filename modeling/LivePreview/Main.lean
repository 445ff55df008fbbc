import LivePreview.CommandLine.Run

open LivePreview CommandLine

/-! The program: reads settings and the host's lines, keeps time, and writes what the preview
says. -/

namespace LivePreview.CommandLine

def settingsFileAt (path : String) : IO SettingsFile := do
  try
    return .content (← IO.FS.readBinFile path)
  catch error =>
    return match error with
      | .noFileOrDirectory _ _ _ => .absent
      | .inappropriateType _ 21 _ => .directory
      | .inappropriateType _ _ _ => .unreadable "Not a directory (os error 20)"
      | .permissionDenied _ _ _ => .unreadable "Permission denied (os error 13)"
      | error => .unreadable (toString error)

def Output.deliver (output : Output) : IO UInt32 := do
  (← IO.getStdout).putStr output.stdout
  (← IO.getStderr).putStr output.complaint
  return output.code

def Service.deliver (service : Service) : IO Service := do
  let (events, service) := service.takeEvents
  let stdout ← IO.getStdout
  stdout.putStr (messagesText (messagesOf events))
  stdout.flush
  (← IO.getStderr).putStr (recordsText (recordsOf events))
  return service

def Service.catchUp (started : Nat) (service : Service) : IO Service := do
  let elapsed := (← IO.monoMsNow) - started
  (service.wait (elapsed - service.preview.session.now)).deliver

partial def Service.attend (started : Nat) (next : Task (Except IO.Error String))
    (service : Service) : IO Service := do
  let service ← service.catchUp started
  if ← IO.hasFinished next then
    match next.get with
    | .ok "" => return service
    | .ok text =>
      let service := (inputLines text).foldl Service.receive service
      attend started (← IO.asTask (← IO.getStdin).getLine) (← service.deliver)
    | .error _ => return service
  else
    IO.sleep 5
    attend started next service

def serveHost (settings : Settings) : IO UInt32 := do
  let started ← IO.monoMsNow
  let service ← (Service.start settings).deliver
  let service ← service.attend started (← IO.asTask (← IO.getStdin).getLine)
  let _ ← service.finish.deliver
  return 0

end LivePreview.CommandLine

def main (arguments : List String) : IO UInt32 := do
  match parse arguments with
  | .ok ⟨_, .serve path debounceMs defaultPreset logLevel⟩ =>
    let file ← settingsFileAt (path.getD "")
    match serviceSettings (fun _ => file) path debounceMs defaultPreset logLevel with
    | .error message => (Output.failure message).deliver
    | .ok settings => serveHost settings
  | _ => (run arguments (fun _ => .absent) "").deliver
