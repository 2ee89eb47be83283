import AllocTrace.Chart.Rendering
import AllocTrace.Command.Arguments
import AllocTrace.Command.LogFilter
import AllocTrace.Config.Reading
import AllocTrace.Pipeline

/-! What a command does, as a function of what it finds in files and of what standard output takes:
its exit code, the text it prints and the chart it leaves. The text is printed before the chart is
drawn. A command whose text does not get out fails and leaves no chart, and whether a chart can be
written changes neither text nor code.
-/

namespace AllocTrace

/-- What a command can look at: the bytes of a file that can be read in full, and what stands at the
path of a trace directory. The help for its arguments is given too, as its wording is that of the
library which reads them.
-/
structure Surroundings where
  read : String → Option (List UInt8)
  look : String → Place
  help : String := ""

/-- Why a command fails. -/
inductive Failure where
  | usage
  | load (path : String) (error : LoadError)
  | config (error : ConfigError)
  | logLevel (level : String) (fault : LogFilter.Fault)
  | noTraceDir
  | ingest (error : IngestError)
  | unprintedReport (reason : String)
  | unprintedVersion (reason : String)
deriving DecidableEq

namespace Failure

/-- The messages of the failure, the outermost first. -/
def messages : Failure → List String
  | usage => ["unexpected arguments (use --help for usage)"]
  | load path error =>
    ("loading config from " ++ path) :: error.message path
      :: match error with
        | .unfit misfit => [misfit.message]
        | _ => []
  | config error => [error.message]
  | logLevel level _ => ["invalid log level: " ++ level]
  | noTraceDir => ["TRACE_DIR is required (use --help for usage)"]
  | ingest error => [error.message]
  | unprintedReport reason => ["writing report", reason]
  | unprintedVersion reason => ["failed printing to stdout: " ++ reason]

/-- Arguments that do not fit have a code of their own. Another one stands for a panic: on a log
filter that cannot be cut into its parts, and on a version that cannot be printed.
-/
def exitCode : Failure → Nat
  | usage => 2
  | logLevel _ .cutCharacter => 101
  | unprintedVersion _ => 101
  | _ => 1

end Failure

/-- A chart to be written to a path. -/
structure ChartFile where
  path : String
  chart : Chart
  frame : Chart.Frame
deriving DecidableEq

def Command.versionLine : String :=
  "phasetrace 0.1.0 (commit: unknown, linux/x86_64)\n"

/-- What a successful command prints: help, the version, or the report of a run, which may want a
chart written after it.
-/
inductive Success where
  | help (text : String)
  | version
  | run (report : String) (chart : Option ChartFile)
deriving DecidableEq

namespace Success

def stdout : Success → String
  | help text => text
  | version => Command.versionLine
  | run report _ => report

def chart : Success → Option ChartFile
  | run _ chart => chart
  | _ => none

/-- The failure if the text does not get out in full. Help is printed as far as it goes. -/
def unprinted? (success : Success) (reason : String) : Option Failure :=
  match success with
  | help _ => none
  | version => some (.unprintedVersion reason)
  | run _ _ => some (.unprintedReport reason)

end Success

/-- Standard output: it takes whatever is written to it, or so many characters, and then writing
fails for a reason, as to a pipe that nobody reads on. A character counts as a byte, which it is in
reports and in the version.
-/
inductive StandardOutput where
  | sound
  | broken (room : Nat) (reason : String)
deriving DecidableEq

namespace StandardOutput

/-- The part of a text that gets out. -/
def taken (output : StandardOutput) (text : String) : String :=
  match output with
  | sound => text
  | broken room _ => String.ofList (text.toList.take room)

/-- Why a text does not get out in full, if it does not. -/
def fault? (output : StandardOutput) (text : String) : Option String :=
  match output with
  | sound => none
  | broken room reason => if text.length ≤ room then none else some reason

end StandardOutput

/-- All that a command leaves behind: its exit code, what it prints, the messages of its failure,
the drawing it writes, with the path, and the path that it clears of a file where it fails to draw.
-/
structure Effects where
  exitCode : Nat
  stdout : String
  messages : List String
  written : Option (String × Chart.Drawing)
  cleared : Option String
deriving DecidableEq

namespace Options

/-- The configuration of the file that the options name, or the default one. -/
def baseConfig (options : Options) (surroundings : Surroundings) : Except Failure Config :=
  match options.configPath with
  | none => .ok .default
  | some path => (Config.load (surroundings.read path)).mapError (.load path)

/-- The configuration with what the options say in its place. -/
def override (options : Options) (config : Config) : Config :=
  {
    logLevel := options.logLevel.getD config.logLevel
    schema := options.schema.getD config.schema
    extension := config.extension
    highlights := options.highlights.getD config.highlights
    parallel := config.parallel || options.parallel
    render := { config.render with enabled := config.render.enabled && !options.noRender }
  }

/-- The checked configuration of a run. -/
def config (options : Options) (surroundings : Surroundings) : Except Failure Config := do
  let config := options.override (← options.baseConfig surroundings)
  config.validate.mapError .config
  (LogFilter.check config.logLevel).mapError (.logLevel config.logLevel)
  return config

end Options

namespace Outcome

/-- What a run prints, and the chart it leaves if rendering is on. -/
def success (outcome : Outcome) (config : Config) (path : String) : Success :=
  .run outcome.report.text
    (if config.render.enabled then
      some
        {
          path := joinPath path config.render.fileName
          chart := outcome.chart
          frame :=
            {
              width := config.render.width
              height := config.render.height
              maxTickLabels := config.render.maxTickLabels
            }
        }
    else none)

end Outcome

namespace Command

/-- The success of a command, or why it fails. -/
def execute (command : Command) (surroundings : Surroundings) : Except Failure Success :=
  match command with
  | .help => .ok (.help surroundings.help)
  | .version => .ok .version
  | .run options => do
    let config ← options.config surroundings
    match options.traceDir with
    | none => throw .noTraceDir
    | some path =>
      let outcome ← (Outcome.ofPlace config path (surroundings.look path)).mapError .ingest
      return outcome.success config path

/-- The success of what the arguments ask for, or why it fails. -/
def perform (args : List String) (surroundings : Surroundings) : Except Failure Success :=
  match ofArguments args with
  | none => .error .usage
  | some command => command.execute surroundings

end Command

namespace ChartFile

/-- The chart as drawn, unless it cannot be rendered. -/
def drawing? (file : ChartFile) (creatable : Bool) : Option (String × Chart.Drawing) :=
  match file.chart.render file.frame file.path creatable with
  | .ok drawing => some (file.path, drawing)
  | .error _ => none

end ChartFile

namespace Effects

/-- A failure is told when so much was printed. Charts are left alone. -/
def ofFailure (printed : String) (failure : Failure) : Effects :=
  {
    exitCode := failure.exitCode
    stdout := printed
    messages := failure.messages
    written := none
    cleared := none
  }

/-- The text is printed, and then the chart is drawn where its file can be created. Where it cannot
be rendered, nothing is left in its place.
-/
def ofSuccess (creatable : String → Bool) (success : Success) (output : StandardOutput) : Effects :=
  let printed := output.taken success.stdout
  match (output.fault? success.stdout).bind success.unprinted? with
  | some failure => ofFailure printed failure
  | none =>
    let drawing? := success.chart.bind fun file => file.drawing? (creatable file.path)
    {
      exitCode := 0
      stdout := printed
      messages := []
      written := drawing?
      cleared := if drawing?.isSome then none else success.chart.map (·.path)
    }

/-- The effects of a result where the files at some paths can be created, and with what standard
output takes, which is everything unless told otherwise.
-/
def ofResult (creatable : String → Bool) (result : Except Failure Success)
    (output : StandardOutput := .sound) : Effects :=
  match result with
  | .error failure => ofFailure "" failure
  | .ok success => ofSuccess creatable success output

end Effects

end AllocTrace
