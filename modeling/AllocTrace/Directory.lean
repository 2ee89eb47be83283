import AllocTrace.Csv

/-! Phase files in a trace directory. The phase files are the regular files directly in it whose
names have a given extension, in the order of their names.
-/

namespace AllocTrace

/-- What opening a file gives: a source to read, or nothing if it cannot be opened. -/
abbrev Content := Option Csv.Source

/-- What a directory lists under a name, by the answer to whether it is a regular file. Links are
followed for the answer. What is no regular file, or gives no answer, is to a run as a directory is.
-/
inductive Kind where
  | regular (content : Content)
  | directory
deriving DecidableEq

/-- An entry of a directory. Its name is Unicode text. -/
structure Listed where
  name : String
  kind : Kind
deriving DecidableEq

/-- What stands at a path, by the answers to whether it exists and whether it is a directory. A path
that gives no answer is missing. What exists and is no directory counts as a file.
-/
inductive Place where
  | missing
  | file (content : Content)
  | directory (entries : List Listed)
deriving DecidableEq

/-- A file that holds one phase. -/
structure PhaseFile where
  name : String
  content : Content
deriving DecidableEq

/-- What follows the last dot of the name, unless that dot is its first character. -/
def extension? (name : String) : Option String :=
  let reversed := name.toList.reverse
  let tail := reversed.takeWhile (· ≠ '.')
  match reversed.drop tail.length with
  | _ :: _ :: _ => some (String.ofList tail.reverse)
  | _ => none

/-- The path of a name in a directory. A name from the root on is a path of its own. -/
def joinPath (directory name : String) : String :=
  if directory = "" || name.toList.head? = some '/' then name
  else if directory.toList.getLast? = some '/' then directory ++ name
  else directory ++ "/" ++ name

/-- Why a trace directory yields no result. -/
inductive IngestError where
  | notFound (path : String)
  | notADirectory (path : String)
  | noPhaseFiles (path extension : String)
  | noRecords (path : String) (phases : Nat)
  | phaseRead (path name : String)
deriving DecidableEq

def IngestError.message : IngestError → String
  | notFound path => "trace directory " ++ path ++ " does not exist"
  | notADirectory path => path ++ " is not a directory"
  | noPhaseFiles path extension => "no ." ++ extension ++ " phase files in " ++ path
  | noRecords path phases =>
    Nat.repr phases ++ " phase file(s) in " ++ path
      ++ " yielded no valid records; check the schema and tracer instrumentation"
  | phaseRead path name => "opening phase file " ++ joinPath path name

namespace PhaseFile

/-- The phase file that a directory lists, if the entry is one. -/
def ofListed? (extension : String) (entry : Listed) : Option PhaseFile :=
  match entry.kind with
  | .regular content =>
    if extension? entry.name = some extension then
      some { name := entry.name, content := content }
    else none
  | .directory => none

/-- The phase files among the entries of a directory, ascending by name. -/
def ofEntries (extension : String) (entries : List Listed) : List PhaseFile :=
  (entries.filterMap (ofListed? extension)).mergeSort fun a b => a.name ≤ b.name

/-- The phase files at a path. -/
def discover (path extension : String) (place : Place) : Except IngestError (List PhaseFile) :=
  match place with
  | .missing => .error (.notFound path)
  | .file _ => .error (.notADirectory path)
  | .directory entries =>
    match ofEntries extension entries with
    | [] => .error (.noPhaseFiles path extension)
    | files => .ok files

end PhaseFile

end AllocTrace
