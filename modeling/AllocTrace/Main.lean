import AllocTrace.Chart.Svg
import AllocTrace.Command.Execution

/-! The command: reads the files that its arguments name, executes, prints, and writes the chart. -/

namespace AllocTrace.Shell

/-- The result of an action, nothing if it fails. -/
def attempt {α : Type} (action : IO α) : IO (Option α) := do
  try return some (← action)
  catch _ => return none

def readBytes (path : String) : IO (Option (List UInt8)) :=
  attempt do return (← IO.FS.readBinFile path).toList

/-- What a directory lists. Only files with the extension are read. -/
def list (path extension : String) : IO (List Listed) := do
  let entries ← (← IO.FS.realPath path).readDir
  entries.toList.mapM fun entry => do
    let type ← attempt do return (← entry.path.metadata).type
    let kind ←
      if type == some .file then
        if extension? entry.fileName = some extension then do
          let bytes ← attempt do return (← IO.FS.readBinFile entry.path).toList
          pure (Kind.regular (bytes.map Csv.Source.ofBytes))
        else pure (Kind.regular none)
      else pure Kind.directory
    return { name := entry.fileName, kind := kind }

def look (path extension : String) : IO Place := do
  match ← attempt do (← IO.FS.realPath path).metadata with
  | none => return .missing
  | some metadata =>
    if metadata.type == .dir then return .directory (← list path extension)
    else return .file none

/-- The help of the command, in words of its own. -/
def helpText : String :=
  "Aggregates per-phase allocator trace files into size-class totals and peak pressure\n\n"
    ++ "Usage: phasetrace [OPTIONS] [TRACE_DIR] [COMMAND]\n\n"
    ++ "Commands:\n"
    ++ "  version  Print version information and exit\n"
    ++ "  help     Print this message or the help of the given subcommand(s)\n\n"
    ++ "Arguments:\n"
    ++ "  [TRACE_DIR]  Directory holding one trace file per phase\n\n"
    ++ "Options:\n"
    ++ "  -c, --config <CONFIG>          Path to the YAML configuration file\n"
    ++ "      --log-level <LOG_LEVEL>    Logging verbosity level (trace, debug, info, warn, error)\n"
    ++ "      --schema <SCHEMA>          Record layout of the phase files (auto, stride, proxy)\n"
    ++ "      --highlights <HIGHLIGHTS>  Entries reported from each end of the sorted table\n"
    ++ "      --no-render                Skip writing the SVG chart\n"
    ++ "      --parallel                 Fold phase files concurrently\n"
    ++ "  -h, --help                     Print help\n"

/-- The files that a command looks at, read beforehand. -/
def surroundings (command : Command) : IO Surroundings := do
  match command with
  | .run options =>
    let bytes ← match options.configPath with
      | some path => readBytes path
      | none => pure none
    let files : Surroundings :=
      { read := fun _ => bytes, look := fun _ => .missing, help := helpText }
    match options.config files, options.traceDir with
    | .ok config, some path =>
      let place ← look path config.extension
      return { files with look := fun _ => place }
    | _, _ => return files
  | _ => return { read := fun _ => none, look := fun _ => .missing, help := helpText }

/-- Prints a text, and tells what standard output makes of it, though not how much of the text got
out if it fails.
-/
def print (text : String) : IO StandardOutput := do
  try
    let stdout ← IO.getStdout
    stdout.putStr text
    stdout.flush
    return .sound
  catch fault => return .broken 0 (toString fault)

/-- Writes the drawing to a file. If that fails, no half of it is left. -/
def writeDrawing (path : String) (drawing : Chart.Drawing) : IO Unit := do
  let done ← attempt do
    let handle ← IO.FS.Handle.mk path .write
    handle.putStr drawing.svg
  if done.isNone then discard (attempt (IO.FS.removeFile path))

/-- Messages of a failure, the outermost first and those behind it below. -/
def printMessages : List String → IO Unit
  | [] => return ()
  | first :: causes => do
    let stderr ← IO.getStderr
    stderr.putStrLn ("Error: " ++ first)
    if !causes.isEmpty then stderr.putStrLn "\nCaused by:"
    causes.forM fun cause => stderr.putStrLn ("    " ++ cause)

/-- The text is printed before the chart is written. Whether the file for it can be created shows
when it is, and nothing else depends on it.
-/
def run (args : List String) : IO UInt32 := do
  let result ← match Command.ofArguments args with
    | none => pure (.error .usage)
    | some command => pure (command.execute (← surroundings command))
  let output ← match result with
    | .error _ => pure .sound
    | .ok success => print success.stdout
  let effects := Effects.ofResult (fun _ => true) result output
  printMessages effects.messages
  match effects.written with
  | some (path, drawing) => writeDrawing path drawing
  | none => pure ()
  match effects.cleared with
  | some path => discard (attempt (IO.FS.removeFile path))
  | none => pure ()
  return UInt32.ofNat effects.exitCode

end AllocTrace.Shell

def main (args : List String) : IO UInt32 :=
  AllocTrace.Shell.run args
