import AllocTrace.Config.Basic

/-! Command-line arguments. Each option may be given once, with its value in the same argument or
in the next; arguments that do not fit yield no command.
-/

namespace AllocTrace

/-- What the arguments of a run say; what they leave open comes from the configuration. -/
structure Options where
  configPath : Option String
  logLevel : Option String
  schema : Option SchemaChoice
  highlights : Option Nat
  noRender : Bool
  parallel : Bool
  traceDir : Option String
deriving DecidableEq

def Options.empty : Options :=
  {
    configPath := none
    logLevel := none
    schema := none
    highlights := none
    noRender := false
    parallel := false
    traceDir := none
  }

inductive Command where
  | help
  | version
  | run (options : Options)
deriving DecidableEq

namespace Options

/-- The options that take a value. -/
inductive Valued where
  | config
  | logLevel
  | schema
  | highlights
deriving DecidableEq

/-- A count of 64 bits in decimal, with an optional plus sign. -/
def count? (s : String) : Option Nat :=
  let digits := match s.toList with
    | '+' :: cs => cs
    | cs => cs
  if digits.isEmpty ∨ !digits.all Char.isDigit then none
  else
    let n := Nat.ofDigitChars 10 digits 0
    if n < Config.countBound then some n else none

/-- Gives an option its value, if it has none yet and the value is one for it. -/
def assign (options : Options) (option : Valued) (value : String) : Option Options :=
  match option with
  | .config =>
    if options.configPath.isSome ∨ value = "" then none
    else some { options with configPath := some value }
  | .logLevel =>
    if options.logLevel.isSome then none else some { options with logLevel := some value }
  | .schema =>
    if options.schema.isSome then none
    else (SchemaChoice.ofName? value).map fun choice => { options with schema := some choice }
  | .highlights =>
    if options.highlights.isSome then none
    else (count? value).map fun n => { options with highlights := some n }

/-- The trace directory is the only argument that is no option. -/
def assignTraceDir (options : Options) (path : String) : Option Options :=
  if options.traceDir.isSome ∨ path = "" then none
  else some { options with traceDir := some path }

/-- Sets an option that takes no value, if it is one and not set yet. -/
def raise (options : Options) (name : List Char) : Option Options :=
  if name = "no-render".toList ∧ !options.noRender then some { options with noRender := true }
  else if name = "parallel".toList ∧ !options.parallel then
    some { options with parallel := true }
  else none

def valued? (name : List Char) : Option Valued :=
  if name = "config".toList then some .config
  else if name = "log-level".toList then some .logLevel
  else if name = "schema".toList then some .schema
  else if name = "highlights".toList then some .highlights
  else none

/-- The argument could be an option and so is no value of the one before it. -/
def isOptionLike (arg : String) : Bool :=
  match arg.toList with
  | '-' :: _ :: _ => true
  | _ => false

/-- What one argument says. -/
inductive Word where
  | positional (path : String)
  | escape
  | help
  | flag (name : List Char)
  | attached (option : Valued) (value : String)
  | pending (option : Valued)
  | unknown
deriving DecidableEq

def Word.ofLong (body : List Char) : Word :=
  let name := body.takeWhile (· ≠ '=')
  match valued? name, body.drop name.length with
  | some option, '=' :: value => .attached option (String.ofList value)
  | some option, _ => .pending option
  | none, [] => if name = "help".toList then .help else .flag name
  | none, _ => .unknown

/-- The short forms: `-c` takes a path, `-h` asks for help. -/
def Word.ofShort : List Char → Word
  | ['c'] => .pending .config
  | 'c' :: '=' :: value => .attached .config (String.ofList value)
  | 'c' :: value => .attached .config (String.ofList value)
  | 'h' :: _ => .help
  | _ => .unknown

def Word.ofArgument (arg : String) : Word :=
  match arg.toList with
  | ['-', '-'] => .escape
  | '-' :: '-' :: body => ofLong body
  | '-' :: c :: body => ofShort (c :: body)
  | _ => .positional arg

/-- Nothing but the trace directory is left. -/
def readPositional (options : Options) (args : List String) : Option Options :=
  args.foldlM assignTraceDir options

end Options

namespace Command

/-- What follows the version command: nothing, or a plea for help. -/
def ofVersionArguments : List String → Option Command
  | [] => some .version
  | ["--"] => some .version
  | arg :: _ => if arg = "--help" ∨ arg = "-h" then some .help else none

/-- What follows the help command: nothing, or the name of one command. -/
def ofHelpArguments : List String → Option Command
  | [] => some .help
  | [name] => if name = "version" ∨ name = "help" then some .help else none
  | _ => none

/-- The command that the arguments give, on top of the options read so far. -/
def ofArgumentsFrom (options : Options) : List String → Option Command
  | [] => some (.run options)
  | arg :: rest =>
    if arg = "version" then ofVersionArguments rest
    else if arg = "help" then ofHelpArguments rest
    else
      match Options.Word.ofArgument arg with
      | .escape => (options.readPositional rest).map .run
      | .help => some .help
      | .positional path => (options.assignTraceDir path).bind (ofArgumentsFrom · rest)
      | .flag name => (options.raise name).bind (ofArgumentsFrom · rest)
      | .attached option value => (options.assign option value).bind (ofArgumentsFrom · rest)
      | .pending option =>
        match rest with
        | [] => none
        | value :: rest =>
          if Options.isOptionLike value then none
          else (options.assign option value).bind (ofArgumentsFrom · rest)
      | .unknown => none

def ofArguments (args : List String) : Option Command :=
  ofArgumentsFrom .empty args

end Command

end AllocTrace
