import CodeAtlas.CommandLine.Moment
import CodeAtlas.CommandLine.Run
import CodeAtlas.Configuration.Reading
import Std.Time.DateTime.Timestamp

/-!
# The program

The outer layer.  It reads the settings, the time and the part of the file system that a run looks at,
runs `CommandLine.run` on them, writes what the run has changed, and ends with its exit code.  Nothing
is decided here.
-/

namespace CodeAtlas.CommandLine

/-- The settings that the environment gives. -/
def readSettings : IO (Except (List FieldFault) Settings) := do
  let given ← Settings.variableNames.filterMapM fun name => return (name, ·) <$> (← IO.getEnv name)
  return Settings.ofEnvironment given

/-- The present moment. -/
def readMoment : IO Moment := do
  let now ← Std.Time.Timestamp.now
  return ⟨now.toNanosecondsSinceUnixEpoch.val.toNat / 1000⟩

/-- Reads what stands at a place: the content of a file, or that there is a directory. -/
def readEntry (fs : FileSystem) (place : Path) : IO FileSystem := do
  let here ← IO.currentDir
  match ← (here / place.text).isDir, ← (IO.FS.readBinFile (here / place.text)).toBaseIO with
  | true, _ => return (fs.put place .directory).toOption.getD fs
  | false, .ok content => return (fs.put place (.file content)).toOption.getD fs
  | false, .error _ => return fs

/-- Reads all that stands below a place.  Links to directories are not followed. -/
partial def readTree (fs : FileSystem) (place : Path) : IO FileSystem := do
  let here ← IO.currentDir
  let isTree ← (here / place.text).isDir
  let fs ← readEntry fs place
  if !isTree then return fs
  (← (here / place.text).readDir).foldlM
    (fun fs entry => do
      let kind ← (return (← entry.path.symlinkMetadata).type : IO IO.FS.FileType).toBaseIO
      match kind with
      | .ok .dir => readTree fs (place.child entry.fileName)
      | .ok _ => readEntry fs (place.child entry.fileName)
      | .error _ => return fs)
    fs

/-- Reads the part of the file system that a command looks at. -/
def readSurroundings (settings : Settings) (command : Except UsageFault Command) : IO FileSystem := do
  let here ← IO.currentDir
  let fs ← (places settings command).foldlM readEntry (.empty (Path.parse here.toString))
  match command with
  | .ok (.build r) => readTree fs (fs.cwd.absolute r.workspace)
  | _ => return fs

/-- Writes what a run has changed. -/
def writeChanges (before after : FileSystem) : IO Unit :=
  (after.changesSince before).forM fun (place, entry) =>
    match entry with
    | .directory => IO.FS.createDirAll place.text
    | .file content => IO.FS.writeBinFile place.text content

end CodeAtlas.CommandLine

open CodeAtlas CodeAtlas.CommandLine

/-- Runs the program. -/
def main (arguments : List String) : IO UInt32 := do
  match ← readSettings with
  | .error faults =>
    IO.eprintln (Fault.ofFields faults).message
    return 1
  | .ok settings =>
    let command := Command.ofArguments arguments
    let before ← readSurroundings settings command
    let (after, result) := run .lines settings (← readMoment).text before arguments
    writeChanges before after
    match command, result with
    | .ok .help, _ => IO.println usage
    | .error _, .ok _ => IO.eprintln usage
    | _, .error fault => IO.eprintln fault.message
    | _, _ => pure ()
    return match result with
      | .ok exit => exit.code.toUInt32
      | .error _ => 1
