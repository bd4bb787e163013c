import ClusterGraph.CommandLine.Run

/-!
# The program

Connects runs of the command line to the files and streams of the system.
-/

open ClusterGraph CommandLine

/-- The contents of a file, if it can be read. -/
def readFile? (path : String) : IO (Option ByteArray) := do
  try return some (← IO.FS.readBinFile path)
  catch _ => return none

/-- All that is left in a stream. -/
partial def readStream (stream : IO.FS.Stream) (acc : ByteArray) : IO ByteArray := do
  let chunk ← stream.read 65536
  if chunk.isEmpty then return acc else readStream stream (acc ++ chunk)

/-- The text of an error of the system, with its number. -/
def systemErrorText (error : IO.Error) : String :=
  match error with
  | .alreadyExists _ code details | .interrupted _ code details
  | .noFileOrDirectory _ code details | .invalidArgument _ code details
  | .permissionDenied _ code details | .resourceExhausted _ code details
  | .inappropriateType _ code details | .noSuchThing _ code details
  | .otherError code details | .resourceBusy code details | .resourceVanished code details
  | .unsupportedOperation code details | .hardwareFault code details
  | .unsatisfiedConstraints code details | .illegalOperation code details
  | .protocolError code details | .timeExpired code details =>
    details ++ " (os error " ++ toString code ++ ")"
  | .unexpectedEof => "unexpected end of file"
  | .userError text => text

/-- Logs the diagnostics, reports the failure, and gives the exit code. -/
def report (outcome : Outcome) : IO UInt32 := do
  for diagnostic in outcome.warnings do
    IO.eprintln ("WARN statement skipped diagnostic=" ++ diagnostic.message)
  IO.print outcome.stdout
  if let some failure := outcome.failure then
    IO.eprintln ("error: " ++ failure.message)
  return UInt32.ofNat outcome.exitCode

/-- What the files named by the options hold. Standard input is read only when it is needed, and
not when the settings already fail. -/
def environment (options : Options) : IO Environment := do
  let settings ← match options.settings with
    | some path => readFile? path
    | none => pure none
  let early : Environment := ⟨fun _ => settings, ByteArray.empty, fun _ => none⟩
  match loadSettings early options.settings with
  | .error _ => return early
  | .ok _ =>
    let stdin := match options.input with
      | none => true
      | some path => isStdin path
    let input ← if stdin then pure none else
      match options.input with
      | some path => readFile? path
      | none => pure none
    let bytes ← if stdin then readStream (← IO.getStdin) ByteArray.empty else pure ByteArray.empty
    return ⟨fun path => if options.settings = some path then settings else input, bytes,
      fun _ => none⟩

/-- Carries out a run with options. -/
def execute (options : Options) : IO UInt32 := do
  let env ← environment options
  match prepare env options with
  | .error failure => report (.fail failure [])
  | .ok prepared =>
    match options.output with
    | none => report (finish env prepared none)
    | some path =>
      let error ← try
          IO.FS.writeBinFile path prepared.text.toUTF8
          pure none
        catch error => pure (some (systemErrorText error))
      report (finish { env with createError := fun _ => error } prepared (some path))

def main (args : List String) : IO UInt32 := do
  match Request.ofList args with
  | .run options => execute options
  | .refuse => do
    IO.eprintln "error: invalid arguments\n\nFor more information, try '--help'."
    return 2
  | _ => report (respond ⟨fun _ => none, ByteArray.empty, fun _ => none⟩ args)
