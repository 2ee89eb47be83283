import AllocTrace.Proofs.Phase.Accounting
import AllocTrace.Proofs.Pipeline.Results

/-! The layout that a header shows against the columns that a reader finds. Main statement: the two
agree on every text, so a file that is taken for the stride layout holds no proxy record, and a
first phase file with a proxy record settles the proxy layout.
-/

namespace AllocTrace

variable {source : Csv.Source}

namespace PhaseReader

/-- A reader looks for columns in the names as they stand in the header. -/
theorem index_ofSource (s : Schema) (source : Csv.Source)
    : (ofSource s source).index = ColumnIndex.ofHeader source.contents.header s.columns := by
  rw [ofSource, ofContents, Csv.Contents.trimmed, ColumnIndex.ofHeader_trimmed]

/-- A reader finds the required columns among the stripped names, and no others. -/
theorem isSome_position?_ofSource {s : Schema} {column : String} (required : column ∈ s.columns)
    : ((ofSource s source).index.position? column).isSome = true
      ↔ column ∈ source.contents.header.map Text.trim := by
  rw [index_ofSource, ColumnIndex.position?_ofHeader _ required, List.isSome_idxOf?]

/-- Without a required column a reader yields nothing. -/
theorem records_of_absent {s : Schema} {column : String} (required : column ∈ s.columns)
    (absent : column ∉ source.contents.header.map Text.trim)
    : (ofSource s source).records = [] := by
  rw [records_eq_held, held, List.filterMap_eq_nil_iff, index_ofSource]
  exact fun item _ => decode?_of_lacking required absent item

end PhaseReader

namespace Schema

theorem ofHeader_eq_proxy_iff {header : List String}
    : ofHeader header = .proxy ↔ "proxy_index" ∈ header.map Text.trim := by
  simp [ofHeader, List.mem_map]

/-- Detection and the proxy reader agree on whether there is the column that decides. -/
theorem detect_eq_proxy_iff
    : detect source = .proxy
      ↔ ((PhaseReader.ofSource .proxy source).index.position? "proxy_index").isSome = true := by
  rw [detect, ofHeader_eq_proxy_iff, PhaseReader.isSome_position?_ofSource (by decide)]

/-- Only what shows the proxy layout holds proxy records. -/
theorem detect_of_records (held : (PhaseReader.ofSource .proxy source).records ≠ [])
    : detect source = .proxy := by
  by_contra other
  have absent : "proxy_index" ∉ source.contents.header.map Text.trim :=
    mt ofHeader_eq_proxy_iff.mpr other
  exact held (PhaseReader.records_of_absent (by decide) absent)

/-- Detection agrees with the proxy reader of the same bytes. A file that shows the stride layout
yields no proxy record, and if the first phase file yields one and the layout is to be told by it,
the run has the results that it has with the proxy layout chosen.
-/
theorem detect_agrees (source : Csv.Source)
    : (detect source = .proxy
        ↔ ((PhaseReader.ofSource .proxy source).index.position? "proxy_index").isSome = true)
      ∧ (detect source = .stride → (PhaseReader.ofSource .proxy source).records = [])
      ∧ ∀ (config : Config) (path : String) (entries : List Listed) (file : PhaseFile)
          (others : List PhaseFile),
          config.schema = .auto
          → PhaseFile.ofEntries config.extension entries = file :: others
          → file.content = some source
          → (PhaseReader.ofSource .proxy source).records ≠ []
          → resolve config.schema (file :: others) = .proxy
            ∧ ∀ result,
                Outcome.Yields config path (.directory entries) result
                ↔ Outcome.Yields { config with schema := .proxy } path (.directory entries)
                    result := by
  refine ⟨detect_eq_proxy_iff, ?_, ?_⟩
  · intro shown
    by_contra held
    have proxy := detect_of_records held
    rw [shown] at proxy
    cases proxy
  · intro config path entries file others auto found content held
    have resolved : resolve config.schema (file :: others) = .proxy := by
      rw [auto, resolve, List.head?_cons, Option.bind_some, content, Option.map_some,
        detect_of_records held, Option.getD_some]
    have settled (files : List PhaseFile)
        (h : PhaseFile.discover path config.extension (.directory entries) = .ok files)
        : resolve config.schema files = resolve .proxy files := by
      rw [PhaseFile.discover_directory, found, if_neg (List.cons_ne_nil _ _)] at h
      cases h
      exact resolved
    refine ⟨resolved, fun result => ⟨fun yields => yields.of_resolve settled, fun yields => ?_⟩⟩
    exact yields.of_resolve fun files h => (settled files h).symm

/-- A proxy phase behind a byte-order mark, with the name that decides in quotes and padded. -/
def markedText : Csv.Source :=
  .ofBytes
    ([0xef, 0xbb, 0xbf]
      ++ ("raw_size,alignment,\"proxy_index \",count,fallbacks,raw_total_bytes,"
        ++ " stride_total_bytes\n24,8,1,3,0,72,96\n").toUTF8.toList)

def markedPhase : PhaseFile :=
  { name := "a.csv", content := some markedText }

/-- The marked phase tells the layout of those behind it. -/
theorem markedPhase_detected
    : PhaseFile.ofEntries "csv" [markedPhase.listed] = [markedPhase]
      ∧ (PhaseReader.ofSource .proxy markedText).records ≠ []
      ∧ resolve .auto [markedPhase] = .proxy
      ∧ ∀ result,
          Outcome.Yields .default "traces" (.directory [markedPhase.listed]) result
          ↔ Outcome.Yields { Config.default with schema := .proxy } "traces"
              (.directory [markedPhase.listed]) result := by
  have found : PhaseFile.ofEntries Config.default.extension [markedPhase.listed] = [markedPhase] :=
    PhaseFile.ofEntries_eq (by decide) (.refl _) (by decide)
  have held : (PhaseReader.ofSource .proxy markedText).records ≠ [] := by decide +kernel
  obtain ⟨-, -, settles⟩ := detect_agrees markedText
  obtain ⟨resolved, same⟩ :=
    settles .default "traces" [markedPhase.listed] markedPhase [] rfl found rfl held
  exact ⟨found, held, resolved, same⟩

end Schema

end AllocTrace
