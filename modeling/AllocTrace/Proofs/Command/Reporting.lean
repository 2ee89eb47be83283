import AllocTrace.Command.Execution
import AllocTrace.Proofs.Pipeline.Classification
import AllocTrace.Proofs.Report.ReadBack

/-! What a command reports. Main statement: exit code and printed text go by the trace directory,
the layout, the extension, the number of highlights and standard output alone, neither by what
becomes of the chart nor by the schedule. A command that fails leaves no chart, and it has printed
nothing unless standard output failed on its text.
-/

namespace AllocTrace

open PhaseFile (allRecords ofEntries)

-----------------------------------------------------------------------------------------
-- Runs that are asked for the same report
-----------------------------------------------------------------------------------------

/-- The configurations agree on all that the report is made from. -/
structure Config.Agrees (left right : Config) : Prop where
  schema : left.schema = right.schema
  extension : left.extension = right.extension
  highlights : left.highlights = right.highlights

/-- No sum over the phase files depends on the order of their records: under each key the amounts
have one sign, or fit the range both ways.
-/
def PhaseFile.Steady (s : Schema) (files : List PhaseFile) : Prop :=
  ∀ (key : Key s) (quantity : Quantity),
    Amount.OneSigned (quantity.amounts (allRecords s files) key)
    ∨ Amount.Contained (quantity.amounts (allRecords s files) key)

/-- Amounts that are never negative can be added in any order. -/
theorem PhaseFile.steady_of_nonneg {s : Schema} {files : List PhaseFile}
    (nonneg
      : ∀ (quantity : Quantity),
          ∀ record ∈ allRecords s files,
            ∀ amount ∈ quantity.ofTotals record.totals, 0 ≤ amount.val)
    : Steady s files := by
  intro key quantity
  refine .inl (.inl fun amount member => ?_)
  simp only [Quantity.amounts, List.mem_filterMap, List.mem_filter] at member
  obtain ⟨record, ⟨held, -⟩, adds⟩ := member
  exact nonneg quantity record held amount adds

/-- The phase files of the place, if it is a directory, are steady in their layout. -/
def Place.Steady (config : Config) (place : Place) : Prop :=
  ∀ entries,
    place = .directory entries
    → PhaseFile.Steady (Schema.resolve config.schema (ofEntries config.extension entries))
        (ofEntries config.extension entries)

namespace Outcome

variable {left right : Config} {path other : String} {place : Place}
  {first second : Except IngestError Outcome}

/-- Both results are failures, or both are successes with the same report. -/
inductive SameReport : Except IngestError Outcome → Except IngestError Outcome → Prop
  | error (left right : IngestError) : SameReport (.error left) (.error right)
  | ok {left right : Outcome} (same : left.report = right.report)
    : SameReport (.ok left) (.ok right)

/-- Whether a run succeeds does not depend on settings beside layout and extension. -/
theorem Yields.success_iff_success (hl : Yields left path place first)
    (hr : Yields right other place second) (agree : left.Agrees right)
    : (∃ outcome, first = .ok outcome) ↔ ∃ outcome, second = .ok outcome := by
  rw [hl.ends.success_iff, hr.ends.success_iff, agree.schema, agree.extension]

/-- Successful runs under any two schedules have the same report if no sum depends on the order of
records. For a sequential run there is one schedule, and no sum has to be steady.
-/
theorem Yields.report_eq {ran again : Outcome} (hl : Yields left path place (.ok ran))
    (hr : Yields right other place (.ok again)) (agree : left.Agrees right)
    (steady : left.parallel = true ∨ right.parallel = true → place.Steady left)
    : ran.report = again.report := by
  obtain ⟨entries, rfl, -⟩ := hl.conserves
  have found : ofEntries right.extension entries = ofEntries left.extension entries := by
    rw [agree.extension]
  have resolved : Schema.resolve right.schema (ofEntries left.extension entries)
      = Schema.resolve left.schema (ofEntries left.extension entries) := by
    rw [agree.schema]
  obtain ⟨-, -, table, ingests, rfl⟩ := (yields_ok_iff rfl rfl).mp hl
  obtain ⟨-, -, another, reingests, rfl⟩ := (yields_ok_iff found resolved).mp hr
  have listed : table.entries = another.entries := by
    refine ingests.entries_eq reingests fun parallel => ?_
    rw [PhaseFile.flatten_phases]
    exact steady parallel entries rfl
  simp only [ofFiles, ofTable, Summary.ofTable, listed, agree.highlights]

theorem Yields.sameReport (hl : Yields left path place first)
    (hr : Yields right other place second) (agree : left.Agrees right)
    (steady : left.parallel = true ∨ right.parallel = true → place.Steady left)
    : SameReport first second := by
  have success := hl.success_iff_success hr agree
  cases first with
  | error error =>
      cases second with
      | error other => exact .error error other
      | ok outcome =>
          obtain ⟨_, impossible⟩ := success.mpr ⟨outcome, rfl⟩
          cases impossible
  | ok ran =>
      obtain ⟨again, rfl⟩ := success.mp ⟨ran, rfl⟩
      exact .ok (hl.report_eq hr agree steady)

/-- The report of a run is printed in ASCII. -/
theorem Yields.isAscii_text {ran : Outcome} (h : Yields left path place (.ok ran))
    : Text.IsAscii ran.report.text := by
  obtain ⟨entries, rfl, -⟩ := h.conserves
  obtain ⟨-, -, table, -, rfl⟩ := (yields_ok_iff rfl rfl).mp h
  exact Report.isAscii_text table left.highlights

end Outcome

-----------------------------------------------------------------------------------------
-- The results that a command can have
-----------------------------------------------------------------------------------------

/-- The result of a command whose run ends so. -/
def Outcome.conveyed (config : Config) (path : String) (result : Except IngestError Outcome)
    : Except Failure Success :=
  match result with
  | .error error => .error (.ingest error)
  | .ok outcome => .ok (outcome.success config path)

namespace Command

/-- What a command can end with, under any schedule of its phases. -/
inductive Yields (surroundings : Surroundings) : Command → Except Failure Success → Prop
  | help : Yields surroundings .help (.ok (.help surroundings.help))
  | version : Yields surroundings .version (.ok .version)
  | refused {options : Options} {failure : Failure}
    (h : options.config surroundings = .error failure)
    : Yields surroundings (.run options) (.error failure)
  | aimless {options : Options} {config : Config} (h : options.config surroundings = .ok config)
    (absent : options.traceDir = none)
    : Yields surroundings (.run options) (.error .noTraceDir)
  | ran {options : Options} {config : Config} {path : String}
    (h : options.config surroundings = .ok config) (given : options.traceDir = some path)
    {result : Except IngestError Outcome}
    (yields : Outcome.Yields config path (surroundings.look path) result)
    : Yields surroundings (.run options) (Outcome.conveyed config path result)

/-- What the arguments can lead to, under any schedule. -/
inductive Performs (arguments : List String) (surroundings : Surroundings)
    : Except Failure Success → Prop
  | unfit (h : ofArguments arguments = none) : Performs arguments surroundings (.error .usage)
  | executed {command : Command} (h : ofArguments arguments = some command)
    {result : Except Failure Success} (yields : command.Yields surroundings result)
    : Performs arguments surroundings result

theorem execute_run {options : Options} {surroundings : Surroundings} {config : Config}
    {path : String} (h : options.config surroundings = .ok config)
    (given : options.traceDir = some path)
    : (run options).execute surroundings
      = Outcome.conveyed config path (Outcome.ofPlace config path (surroundings.look path)) := by
  simp only [execute, h, given, bind, Except.bind]
  cases Outcome.ofPlace config path (surroundings.look path) <;> rfl

/-- The computed result of a command is one of those possible. -/
theorem execute_yields (command : Command) (surroundings : Surroundings)
    : command.Yields surroundings (command.execute surroundings) := by
  cases command with
  | help => exact .help
  | version => exact .version
  | run options =>
      cases h : options.config surroundings with
      | error failure =>
          have result : (run options).execute surroundings = .error failure := by
            simp only [execute, h]
            rfl
          rw [result]
          exact .refused h
      | ok config =>
          cases given : options.traceDir with
          | none =>
              have result : (run options).execute surroundings = .error .noTraceDir := by
                simp only [execute, h, given]
                rfl
              rw [result]
              exact .aimless h given
          | some path =>
              rw [execute_run h given]
              exact .ran h given (Outcome.ofPlace_yields config path _)

theorem perform_performs (arguments : List String) (surroundings : Surroundings)
    : Performs arguments surroundings (perform arguments surroundings) := by
  unfold perform
  cases h : ofArguments arguments with
  | none => exact .unfit h
  | some command => exact .executed h (execute_yields command surroundings)

/-- What is printed is ASCII, help aside, so it may be counted in characters as well as in bytes. -/
theorem Performs.isAscii {arguments : List String} {surroundings : Surroundings} {success : Success}
    (h : Performs arguments surroundings (.ok success))
    : success = .help surroundings.help ∨ Text.IsAscii success.stdout := by
  cases h with
  | executed _ yields =>
      generalize done : Except.ok success = result at yields
      cases yields with
      | help => exact .inl (Except.ok.inj done)
      | version =>
          cases done
          exact .inr (by decide)
      | refused => cases done
      | aimless => cases done
      | @ran _ _ _ _ _ result yields =>
          cases result with
          | error error => cases done
          | ok outcome =>
              cases done
              exact .inr yields.isAscii_text

/-- What the arguments can leave behind, under any schedule and wherever files can be created, with
what standard output takes.
-/
inductive Leaves (arguments : List String) (surroundings : Surroundings) (output : StandardOutput)
    : Effects → Prop
  | intro (creatable : String → Bool) {result : Except Failure Success}
    (performs : Performs arguments surroundings result)
    : Leaves arguments surroundings output (.ofResult creatable result output)

end Command

-----------------------------------------------------------------------------------------
-- Standard output
-----------------------------------------------------------------------------------------

namespace StandardOutput

variable {output : StandardOutput} {text reason : String}

theorem taken_prefix (output : StandardOutput) (text : String)
    : (output.taken text).toList <+: text.toList := by
  cases output with
  | sound => exact List.prefix_refl _
  | broken room reason =>
      rw [taken, String.toList_ofList]
      exact List.take_prefix room _

/-- Of a text that does not get out in full something is missing. -/
theorem length_taken_lt (fault : output.fault? text = some reason)
    : (output.taken text).length < text.length := by
  cases output with
  | sound => cases fault
  | broken room other =>
      rw [fault?] at fault
      split at fault
      · cases fault
      · rw [taken, String.length_ofList, List.length_take, String.length_toList]
        omega

end StandardOutput

theorem Report.toList_text (report : Report)
    : report.text.toList
      = '\n' :: (report.title.toList ++ (":\n\n".toList ++ report.format.toList)) := by
  simp [text]

namespace Effects

/-- A command that succeeds with its text unprinted fails after all, with what the text that does
not get out means for it.
-/
theorem ofSuccess_cases (creatable : String → Bool) (success : Success) (output : StandardOutput)
    : (ofSuccess creatable success output).exitCode = 0
      ∨ ∃ reason failure,
          output.fault? success.stdout = some reason
          ∧ success.unprinted? reason = some failure
          ∧ ofSuccess creatable success output
            = .ofFailure (output.taken success.stdout) failure := by
  unfold ofSuccess
  cases fault : output.fault? success.stdout with
  | none => exact .inl rfl
  | some reason =>
      cases means : success.unprinted? reason with
      | none => exact .inl (by rw [Option.bind_some, means])
      | some failure => exact .inr ⟨reason, failure, rfl, means, by rw [Option.bind_some, means]⟩

/-- A run whose report does not get out fails behind the part that does, and leaves no chart. -/
theorem ofSuccess_run_unprinted {report reason : String} {output : StandardOutput}
    (fault : output.fault? report = some reason) (creatable : String → Bool)
    (chart : Option ChartFile)
    : ofSuccess creatable (.run report chart) output
      = .ofFailure (output.taken report) (.unprintedReport reason) := by
  simp only [ofSuccess, Success.stdout, fault, Option.bind_some, Success.unprinted?]

/-- Any report goes on after its first character, so a pipe that is closed there fails it. -/
theorem ofSuccess_run_cut (report : Report) (reason : String) (creatable : String → Bool)
    (chart : Option ChartFile)
    : ofSuccess creatable (.run report.text chart) (.broken 1 reason)
      = .ofFailure "\n" (.unprintedReport reason) := by
  have fault : (StandardOutput.broken 1 reason).fault? report.text = some reason := by
    rw [StandardOutput.fault?, if_neg]
    rw [← String.length_toList, report.toList_text]
    simp
  rw [ofSuccess_run_unprinted fault, StandardOutput.taken, report.toList_text]
  rfl

/-- Runs with one report have one code and one text, whatever becomes of their charts. -/
theorem ofSuccess_run_alike (creatable creatable' : String → Bool) (report : String)
    (chart chart' : Option ChartFile) (output : StandardOutput)
    : let effects := ofSuccess creatable (.run report chart) output
      let effects' := ofSuccess creatable' (.run report chart') output
      effects.exitCode = effects'.exitCode ∧ effects.stdout = effects'.stdout := by
  simp only [ofSuccess, Success.stdout]
  cases output.fault? report with
  | none => exact ⟨rfl, rfl⟩
  | some reason => exact ⟨rfl, rfl⟩

end Effects

namespace Command

variable {arguments : List String} {surroundings : Surroundings} {output : StandardOutput}
  {effects : Effects}

/-- Why a command fails: it has nothing to print, or standard output fails on what it has. -/
inductive Cause (arguments : List String) (surroundings : Surroundings) (output : StandardOutput)
    : Effects → Prop
  | early {failure : Failure} (performs : Performs arguments surroundings (.error failure))
    : Cause arguments surroundings output (.ofFailure "" failure)
  | unprinted {success : Success} {reason : String} {failure : Failure}
    (performs : Performs arguments surroundings (.ok success))
    (fault : output.fault? success.stdout = some reason)
    (means : success.unprinted? reason = some failure)
    : Cause arguments surroundings output (.ofFailure (output.taken success.stdout) failure)

/-- What holds of a command that fails: it has a cause, charts are as they were, and what it has
printed is nothing, or a part of a text on which standard output failed.
-/
structure Fails (arguments : List String) (surroundings : Surroundings) (output : StandardOutput)
    (effects : Effects)
    : Prop where
  cause : Cause arguments surroundings output effects
  chartless : effects.written = none ∧ effects.cleared = none
  silent : output = .sound → effects.stdout = ""
  cut
    : effects.stdout ≠ ""
      → ∃ success,
          Performs arguments surroundings (.ok success)
          ∧ (output.fault? success.stdout).isSome
          ∧ effects.stdout.toList <+: success.stdout.toList
          ∧ effects.stdout.length < success.stdout.length

theorem Cause.fails (cause : Cause arguments surroundings output effects)
    : Fails arguments surroundings output effects := by
  refine {
    cause := cause
    chartless := ?_
    silent := ?_
    cut := ?_
  }
  · cases cause <;> exact ⟨rfl, rfl⟩
  · rintro rfl
    cases cause with
    | early => rfl
    | unprinted _ fault _ => cases fault
  · intro printed
    cases cause with
    | early => exact absurd rfl printed
    | @unprinted success reason failure performs fault _ =>
        refine ⟨success, performs, ?_, ?_, ?_⟩
        · rw [fault, Option.isSome_some]
        · exact output.taken_prefix success.stdout
        · exact StandardOutput.length_taken_lt fault

/-- Charts are touched only after the text is out, and text is printed only by commands that are
sure to succeed but for this.
-/
theorem Leaves.fails (h : Leaves arguments surroundings output effects)
    (failed : effects.exitCode ≠ 0)
    : Fails arguments surroundings output effects := by
  apply Cause.fails
  cases h with
  | @intro creatable result performs =>
      cases result with
      | error failure => exact .early performs
      | ok success =>
          obtain done | ⟨reason, failure, fault, means, left⟩ :=
            Effects.ofSuccess_cases creatable success output
          · exact absurd done failed
          · rw [Effects.ofResult, left]
            exact .unprinted performs fault means

end Command

-----------------------------------------------------------------------------------------
-- Commands that get to their run
-----------------------------------------------------------------------------------------

/-- Arguments that get to a run: its configuration is read and passes all checks, and there is a
path to look at.
-/
structure Invocation where
  arguments : List String
  surroundings : Surroundings
  options : Options
  config : Config
  path : String
  asks : Command.ofArguments arguments = some (.run options)
  accepted : options.config surroundings = .ok config
  given : options.traceDir = some path

namespace Invocation

variable {first second : Invocation} {output : StandardOutput} {effects left right : Effects}

/-- What the invocation finds at its path. -/
def place (call : Invocation) : Place :=
  call.surroundings.look call.path

/-- What the invocation can leave behind. -/
abbrev Leaves (call : Invocation) (output : StandardOutput) : Effects → Prop :=
  Command.Leaves call.arguments call.surroundings output

/-- The invocations find the same and are asked for the same report. -/
structure SameTask (first second : Invocation) : Prop where
  place : first.place = second.place
  agrees : first.config.Agrees second.config
  steady
    : first.config.parallel = true ∨ second.config.parallel = true
      → first.place.Steady first.config

/-- An invocation leaves behind what its run comes to. -/
theorem exists_run (call : Invocation) (h : call.Leaves output effects)
    : ∃ result creatable,
        Outcome.Yields call.config call.path call.place result
        ∧ effects
          = .ofResult creatable (Outcome.conveyed call.config call.path result) output := by
  cases h with
  | intro creatable performs =>
      cases performs with
      | unfit h => cases h.symm.trans call.asks
      | executed h yields =>
          cases h.symm.trans call.asks
          cases yields with
          | refused h => cases h.symm.trans call.accepted
          | aimless h absent => cases absent.symm.trans call.given
          | ran h given yields =>
              cases h.symm.trans call.accepted
              cases given.symm.trans call.given
              exact ⟨_, creatable, yields, rfl⟩

theorem perform_eq (call : Invocation)
    : Command.perform call.arguments call.surroundings
      = Outcome.conveyed call.config call.path
          (Outcome.ofPlace call.config call.path call.place) := by
  rw [Command.perform, call.asks]
  exact Command.execute_run call.accepted call.given

/-- Code and text go by the report and by standard output, not by the chart. -/
theorem SameTask.effects_eq (same : first.SameTask second) (hl : first.Leaves output left)
    (hr : second.Leaves output right)
    : left.exitCode = right.exitCode ∧ left.stdout = right.stdout := by
  obtain ⟨ran, creatable, yields, rfl⟩ := first.exists_run hl
  obtain ⟨again, creatable', reyields, rfl⟩ := second.exists_run hr
  rw [← same.place] at reyields
  cases yields.sameReport reyields same.agrees same.steady with
  | error => exact ⟨rfl, rfl⟩
  | @ok ran again report =>
      have alike := Effects.ofSuccess_run_alike creatable creatable' ran.report.text
        (ran.success first.config first.path).chart
        (again.success second.config second.path).chart output
      have conveyed : Outcome.conveyed second.config second.path (.ok again)
          = .ok (.run ran.report.text (again.success second.config second.path).chart) := by
        rw [report]
        rfl
      rw [conveyed]
      exact alike

end Invocation

namespace Command

/-- Invocations with the same task end with the same code and print the same text to the same
standard output, however their phases interleave and whatever becomes of their charts. No command
that fails leaves a chart, and it has printed nothing where standard output takes everything, and
elsewhere nothing but a part of its text. What commands are computed to leave is among what is
spoken of here.
-/
theorem reports_alike
    : (∀ first second : Invocation,
        first.SameTask second
        → ∀ output left right,
            first.Leaves output left
            → second.Leaves output right
            → left.exitCode = right.exitCode ∧ left.stdout = right.stdout)
      ∧ (∀ arguments surroundings output effects,
          Leaves arguments surroundings output effects
          → effects.exitCode ≠ 0
          → Fails arguments surroundings output effects)
      ∧ ∀ arguments surroundings output creatable,
          Leaves arguments surroundings output
            (.ofResult creatable (perform arguments surroundings) output) := by
  refine ⟨?_, ?_, ?_⟩
  · intro first second same output left right hl hr
    exact same.effects_eq hl hr
  · intro arguments surroundings output effects h failed
    exact h.fails failed
  · intro arguments surroundings output creatable
    exact .intro creatable (perform_performs arguments surroundings)

/-- Two phases in a directory, and a file that asks for another chart and for a parallel run. -/
def twoPhasesAround : Surroundings :=
  {
    read := fun path =>
      if path = "run.yaml" then
        some
          ("parallel: true\nrender:\n  file_name: phases.svg\n  max_tick_labels: 8\n"
            ++ "  width: 640\n  height: 480\n").toUTF8.toList
      else none
    look := fun _ => .directory Outcome.twoPhases
  }

/-- The run as it is by default. -/
def plainInvocation : Invocation :=
  {
    arguments := ["traces"]
    surroundings := twoPhasesAround
    options := { Options.empty with traceDir := some "traces" }
    config := .default
    path := "traces"
    asks := by decide
    accepted := by decide +kernel
    given := rfl
  }

/-- The same directory with the file, and without the chart it asks for. -/
def silentInvocation : Invocation :=
  {
    arguments := ["-c", "run.yaml", "--no-render", "traces"]
    surroundings := twoPhasesAround
    options :=
      {
        Options.empty with
        configPath := some "run.yaml"
        noRender := true
        traceDir := some "traces"
      }
    config :=
      {
        Config.default with
        parallel := true
        render :=
          {
            enabled := false
            fileName := "phases.svg"
            maxTickLabels := 8
            width := 640
            height := 480
          }
      }
    path := "traces"
    asks := by decide
    accepted := by decide +kernel
    given := rfl
  }

theorem ofEntries_twoPhases
    : ofEntries Config.default.extension Outcome.twoPhases
      = Outcome.twoPhases.reverse.filterMap (PhaseFile.ofListed? "csv") :=
  PhaseFile.ofEntries_eq (by decide)
    ((List.reverse_perm Outcome.twoPhases).symm.filterMap _) (by decide)

/-- No record of the two phases adds a negative amount. -/
theorem twoPhases_steady : (Place.directory Outcome.twoPhases).Steady .default := by
  intro entries same
  cases same
  rw [ofEntries_twoPhases]
  refine PhaseFile.steady_of_nonneg fun quantity => ?_
  cases quantity <;> decide +kernel

/-- The run over the two phases as it is by default. -/
theorem plainInvocation_performs
    : ∃ chart,
        perform plainInvocation.arguments plainInvocation.surroundings
        = .ok (.run Outcome.twoPhasesOutcome.report.text chart) := by
  have outcome : Outcome.ofPlace plainInvocation.config plainInvocation.path
        plainInvocation.place
      = .ok Outcome.twoPhasesOutcome := by
    refine (Outcome.ofPlace_directory ofEntries_twoPhases (by decide) _).trans ?_
    decide +kernel
  rw [plainInvocation.perform_eq, outcome]
  exact ⟨_, rfl⟩

/-- What the plain invocation is computed to print, the silent one prints under every schedule.
Without arguments nothing is printed.
-/
theorem twoPhases_reported
    : plainInvocation.SameTask silentInvocation
      ∧ (∀ effects,
          silentInvocation.Leaves .sound effects
          → effects.exitCode = 0 ∧ effects.stdout = Outcome.twoPhasesOutcome.report.text)
      ∧ ∀ creatable,
          let effects := Effects.ofResult creatable (perform [] twoPhasesAround) .sound
          effects.exitCode ≠ 0 ∧ effects.stdout = "" ∧ effects.written = none := by
  obtain ⟨alike, failures, computed⟩ := reports_alike
  have same : plainInvocation.SameTask silentInvocation :=
    {
      place := rfl
      agrees := { schema := rfl, extension := rfl, highlights := rfl }
      steady := fun _ => twoPhases_steady
    }
  refine ⟨same, fun effects silent => ?_, fun creatable => ?_⟩
  · have plain := computed plainInvocation.arguments plainInvocation.surroundings .sound
      fun _ => true
    obtain ⟨_, performs⟩ := plainInvocation_performs
    rw [performs] at plain
    obtain ⟨code, text⟩ := alike plainInvocation silentInvocation same _ _ effects plain silent
    exact ⟨code.symm, text.symm⟩
  · have aimless : perform [] twoPhasesAround = .error .noTraceDir := by decide +kernel
    have failed
        : (Effects.ofResult creatable (perform [] twoPhasesAround) .sound).exitCode ≠ 0 := by
      rw [aimless]
      exact Nat.one_ne_zero
    have fails := failures _ _ _ _ (computed [] twoPhasesAround .sound creatable) failed
    exact ⟨failed, fails.silent rfl, fails.chartless.1⟩

/-- A pipe that is closed after one character leaves this one behind a failed run, and the same run
succeeds where the pipe is read on. A word more asks for the version instead of the report.
-/
theorem twoPhases_cut
    : let run := perform ["traces"] twoPhasesAround
      let version := perform ["traces", "version"] twoPhasesAround
      let whole := Effects.ofResult (fun _ => true) run .sound
      let cut := Effects.ofResult (fun _ => true) run (.broken 1 "Broken pipe (os error 32)")
      (cut.exitCode = 1 ∧ cut.stdout = "\n" ∧ cut.stdout ≠ "")
      ∧ whole.exitCode = 0
      ∧ whole.stdout ≠ (Effects.ofResult (fun _ => true) version .sound).stdout := by
  intro run version whole cut
  obtain ⟨chart, ran⟩ : ∃ chart, run = .ok (.run Outcome.twoPhasesOutcome.report.text chart) :=
    plainInvocation_performs
  have versioned : version = .ok .version := by decide +kernel
  have unprinted : cut = .ofFailure "\n" (.unprintedReport "Broken pipe (os error 32)") := by
    simp only [cut, ran, Effects.ofResult]
    exact Effects.ofSuccess_run_cut _ _ _ _
  simp only [unprinted, whole, ran, versioned]
  refine ⟨⟨rfl, rfl, by decide⟩, rfl, fun same => ?_⟩
  have texts : Outcome.twoPhasesOutcome.report.text = versionLine := same
  have first := congrArg (fun text => text.toList.head?) texts
  simp only [Report.toList_text, List.head?_cons] at first
  exact absurd first (by decide)

end Command

end AllocTrace
