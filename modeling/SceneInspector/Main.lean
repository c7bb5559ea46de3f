import SceneInspector.CommandLine
import Std.Time.DateTime.Timestamp

namespace SceneInspector.Console

-- The files of the system take the place of `Disk` here, and its clock tells how much time passes.
-- What is done with them is decided elsewhere.

def read (path : String) : IO (Except Disk.Failure String) := do
  try
    return .ok (← IO.FS.readFile path)
  catch _ =>
    return .error .noEntry

def inspectorDirectory (root : String) : String := (Settings.directoryIn ⟨root⟩).text

def settingsFile (root : String) : String := (Settings.fileIn ⟨root⟩).text

def settings (root : String) : IO Settings := do
  match ← read (settingsFile root) with
  | .ok text => return Settings.ofText text
  | .error _ => return {}

def present (path : String) : IO Bool := do
  try
    discard (IO.FS.Handle.mk path .read)
    return true
  catch _ =>
    return false

def prepare (root : String) : IO Unit := do
  IO.FS.createDirAll (inspectorDirectory root)
  unless ← present (settingsFile root) do
    IO.FS.writeFile (settingsFile root) Settings.standardText

def tell (text : String) : IO Unit := do
  let output ← IO.getStdout
  output.putStr text
  output.flush

def failure : UInt32 := 1

def usageFailure : UInt32 := 2

def conclude : Except Fault String → IO UInt32
  | .ok text => do
    tell text
    return 0
  | .error fault => do
    IO.eprintln fault.message
    return failure

def timeOfDay : IO Nat := do
  return (← Std.Time.Timestamp.now).toMillisecondsSinceUnixEpoch.val.toNat

def tellAll (records : List Stream.Record) : IO Unit :=
  records.forM fun record => do tell (record.line (← timeOfDay) ++ "\n")

-- How long to sleep between two looks at the input while a pick waits, in milliseconds.
def lookInterval : UInt32 := 2

structure Watched where
  engine : Engine
  moment : Nat

def Watched.advance (watched : Watched) : IO Watched := do
  let now ← IO.monoMsNow
  let passed := watched.engine.advance (now - watched.moment)
  tellAll (passed.2.map Stream.Record.ofOutput)
  return ⟨passed.1, now⟩

partial def Watched.awaitLine (watched : Watched) (line : Task (Except IO.Error String)) :
    IO (Watched × String) := do
  let watched ← watched.advance
  if watched.engine.hover.isPending && !(← IO.hasFinished line) then
    IO.sleep lookInterval
    watched.awaitLine line
  else
    match ← IO.wait line with
    | .ok line => return (← watched.advance, line)
    | .error _ => return (watched, "")

partial def Watched.readAll (watched : Watched) (input : IO.FS.Stream) : IO Watched := do
  if watched.engine.shouldQuit then
    return watched
  else
    let (watched, line) ← watched.awaitLine (← IO.asTask input.getLine .dedicated)
    if line = "" then
      return watched
    else
      let fed := Stream.feed watched.engine line
      tellAll fed.2
      { watched with engine := fed.1 }.readAll input

-- At the end a pick that waits is given the time that it still needs, up to the limit.
def Watched.close (watched : Watched) : IO Unit := do
  match watched.engine.hover.pending with
  | none => return
  | some alarm =>
    let wait := alarm.due - watched.engine.hover.clock
    IO.sleep (min wait Engine.shutdownLimit).toUInt32
    tellAll (Stream.close watched.engine)

def headless (root shown : String) : IO UInt32 := do
  try
    prepare root
  catch _ =>
    pure ()
  match Engine.ofSettings (← settings root) .open with
  | .error fault => conclude (.error fault)
  | .ok engine =>
    tellAll [.ready shown]
    let watched ← Watched.readAll ⟨engine, ← IO.monoMsNow⟩ (← IO.getStdin)
    watched.close
    return 0

def perform (working : String) : Command → IO UInt32
  | .headless directory => headless (directory.getD working) (Command.shown working directory)
  | .summary scene directory => do
    conclude (Command.summaryText (← settings (directory.getD working)) (← read scene))
  | .editor scene element directory => do
    conclude (Command.editorText (← settings (directory.getD working)) (← read scene) element)
  | .prepare directory => do
    try
      prepare (directory.getD working)
      conclude (.ok (Command.preparedText working directory))
    catch error =>
      conclude (.error (.configuration (toString error)))

end SceneInspector.Console

def main (arguments : List String) : IO UInt32 := do
  match SceneInspector.Command.ofArguments? arguments with
  | some command => SceneInspector.Console.perform (← IO.currentDir).toString command
  | none =>
    IO.eprint SceneInspector.Command.usage
    return SceneInspector.Console.usageFailure
