import AllocTrace.Command.Execution
import AllocTrace.Proofs.Directory.Discovery

/-! Where a run leaves its chart. The chart goes into the trace directory, under a name that the
checks of a configuration do not hold against the extension of phase files. Main statement: a file
of that name is a phase file, one that the run has read and overwrites, exactly if the name has the
extension.
-/

namespace AllocTrace

variable {config : Config} {path : String} {entries : List Listed} {content : Content}

-----------------------------------------------------------------------------------------
-- Paths in a directory
-----------------------------------------------------------------------------------------

/-- All names without a separator are put behind one text. -/
theorem exists_joinPath_eq (directory : String)
    : ∃ front, ∀ name, '/' ∉ name.toList → joinPath directory name = front ++ name := by
  have relative (name : String) (bare : '/' ∉ name.toList)
      : name.toList.head? ≠ some '/' := by
    intro head
    exact bare (List.mem_of_head? head)
  by_cases here : directory = ""
  · refine ⟨"", fun name _ => ?_⟩
    simp [joinPath, here]
  · by_cases closed : directory.toList.getLast? = some '/'
    · refine ⟨directory, fun name bare => ?_⟩
      simp [joinPath, here, closed, relative name bare]
    · refine ⟨directory ++ "/", fun name bare => ?_⟩
      simp [joinPath, here, closed, relative name bare]

/-- Different names without a separator have different paths. -/
theorem joinPath_inj {directory left right : String} (hl : '/' ∉ left.toList)
    (hr : '/' ∉ right.toList)
    : joinPath directory left = joinPath directory right ↔ left = right := by
  obtain ⟨front, behind⟩ := exists_joinPath_eq directory
  rw [behind left hl, behind right hr]
  exact String.append_right_inj front

-----------------------------------------------------------------------------------------
-- The name of the chart
-----------------------------------------------------------------------------------------

/-- A usable configuration names the chart without a separator. -/
theorem Config.slash_not_mem_fileName (accepted : config.validate = .ok ())
    : '/' ∉ config.render.fileName.toList := by
  intro member
  have spoiled : isBare config.render.fileName = false := by
    unfold isBare
    rw [List.all_eq_false]
    exact ⟨'/', member, by decide⟩
  simp only [validate, spoiled, Bool.not_false, if_true] at accepted
  split_ifs at accepted

theorem Outcome.chart_success (outcome : Outcome) (enabled : config.render.enabled = true)
    (path : String)
    : (outcome.success config path).chart.map (·.path)
      = some (joinPath path config.render.fileName) := by
  simp [success, Success.chart, enabled]

/-- Where a directory lists a regular file under the name of the chart, the chart is written to the
path of a phase file exactly if the name has the extension of phase files.
-/
theorem Outcome.chart_discovered_iff (outcome : Outcome) (accepted : config.validate = .ok ())
    (enabled : config.render.enabled = true)
    (bare : ∀ entry ∈ entries, '/' ∉ entry.name.toList)
    (listed : { name := config.render.fileName, kind := .regular content } ∈ entries)
    : (∃ files,
        PhaseFile.discover path config.extension (.directory entries) = .ok files
        ∧ ∃ file ∈ files,
            (outcome.success config path).chart.map (·.path) = some (joinPath path file.name))
      ↔ extension? config.render.fileName = some config.extension := by
  have chart := outcome.chart_success enabled path
  have own := Config.slash_not_mem_fileName accepted
  constructor
  · intro ⟨files, found, file, member, same⟩
    rw [PhaseFile.discover_directory] at found
    split at found
    · cases found
    · cases found
      obtain ⟨present, has⟩ := PhaseFile.mem_ofEntries.mp member
      rw [chart, Option.some.injEq] at same
      have name : config.render.fileName = file.name :=
        (joinPath_inj own (bare file.listed present)).mp same
      rw [name]
      exact has
  · intro has
    have member : { name := config.render.fileName, content := content }
        ∈ PhaseFile.ofEntries config.extension entries :=
      PhaseFile.mem_ofEntries.mpr ⟨listed, has⟩
    refine ⟨_, ?_, _, member, chart⟩
    rw [PhaseFile.discover_directory, if_neg (List.ne_nil_of_mem member)]

/-- A phase file with one record under the default name of the chart. -/
def svgPhase : PhaseFile :=
  {
    name := "alloc_trace.svg"
    content := some (.ofBytes "bucket,count,raw_bytes\n32,1,30\n".toUTF8.toList)
  }

/-- By default the chart is no phase file. -/
theorem Outcome.chart_not_discovered
    : Config.default.validate = .ok ()
      ∧ Config.default.render.enabled = true
      ∧ (∀ entry ∈ [svgPhase.listed], '/' ∉ entry.name.toList)
      ∧ extension? "alloc_trace.svg" ≠ some "csv"
      ∧ ∀ outcome : Outcome,
          (∃ files,
            PhaseFile.discover "traces" "csv" (.directory [svgPhase.listed]) = .ok files
            ∧ ∃ file ∈ files,
                (outcome.success .default "traces").chart.map (·.path)
                  = some (joinPath "traces" file.name))
          ↔ extension? "alloc_trace.svg" = some "csv" := by
  have accepted : Config.default.validate = .ok () := rfl
  have bare : ∀ entry ∈ [svgPhase.listed], '/' ∉ entry.name.toList := by decide
  refine ⟨accepted, rfl, bare, by decide, ?_⟩
  intro outcome
  exact outcome.chart_discovered_iff accepted rfl bare List.mem_cons_self

/-- With `svg` for the extension of phase files, the chart is written over a phase file. -/
theorem svgPhase_overwritten
    : ({ Config.default with extension := "svg" } : Config).validate = .ok ()
      ∧ PhaseFile.discover "traces" "svg" (.directory [svgPhase.listed]) = .ok [svgPhase]
      ∧ ∀ outcome : Outcome,
          (outcome.success { Config.default with extension := "svg" } "traces").chart.map (·.path)
            = some (joinPath "traces" svgPhase.name) := by
  have found : PhaseFile.ofEntries "svg" [svgPhase.listed] = [svgPhase] :=
    PhaseFile.ofEntries_eq (by decide) (.refl _) (by decide)
  refine ⟨rfl, by rw [PhaseFile.discover_directory, found]; rfl, ?_⟩
  intro outcome
  exact outcome.chart_success rfl "traces"

end AllocTrace
