import AllocTrace.Proofs.Pipeline.Conservation

/-! Which of its outcomes a run has. Main statement: each outcome occurs exactly under its own
condition on what stands at the path; neither the schedule nor the choice between sequential and
parallel runs changes it.
-/

namespace AllocTrace

variable {config : Config} {path : String} {place : Place} {result : Except IngestError Outcome}

open PhaseFile (AllOpen FirstClosed ofEntries)

/-- The place is a directory, and these are its phase files, of which there is at least one. -/
def Place.Holds (extension : String) (place : Place) (files : List PhaseFile) : Prop :=
  ∃ entries, place = .directory entries ∧ ofEntries extension entries = files ∧ files ≠ []

namespace Outcome

/-- Every outcome occurs under its own condition on the place, and carries what it should. -/
structure Classified (config : Config) (path : String) (place : Place)
    (result : Except IngestError Outcome)
    : Prop where
  notFound : result = .error (.notFound path) ↔ place = .missing
  notADirectory : result = .error (.notADirectory path) ↔ ∃ content, place = .file content
  noPhaseFiles
    : result = .error (.noPhaseFiles path config.extension)
      ↔ ∃ entries,
          place = .directory entries ∧ ∀ entry ∈ entries, ¬ entry.IsPhase config.extension
  phaseRead
    : (∃ name, result = .error (.phaseRead path name))
      ↔ ∃ files, place.Holds config.extension files ∧ ∃ file ∈ files, file.content = none
  unopened
    : ∀ name,
        result = .error (.phaseRead path name)
        → ∃ files,
            place.Holds config.extension files
            ∧ ∃ file ∈ files,
                file.name = name
                ∧ file.content = none
                ∧ (config.parallel = false → FirstClosed files file)
  noRecords
    : ∀ phases,
        result = .error (.noRecords path phases)
        ↔ ∃ files,
            place.Holds config.extension files
            ∧ AllOpen files
            ∧ (∀ file ∈ files, file.records (Schema.resolve config.schema files) = [])
            ∧ phases = files.length
  success
    : (∃ outcome, result = .ok outcome)
      ↔ ∃ files,
          place.Holds config.extension files
          ∧ AllOpen files
          ∧ ∃ file ∈ files, file.records (Schema.resolve config.schema files) ≠ []
  filled
    : ∀ outcome,
        result = .ok outcome
        → outcome.stats.records ≠ 0
          ∧ outcome.stats.keys ≠ 0
          ∧ outcome.chart.points ≠ []
          ∧ (config.highlights ≠ 0 → outcome.report.rows ≠ [])

/-- The same outcome, but for the file that could not be opened and for what was computed. -/
inductive SameKind : Except IngestError Outcome → Except IngestError Outcome → Prop
  | error (error : IngestError) : SameKind (.error error) (.error error)
  | phaseRead (path left right : String)
    : SameKind (.error (.phaseRead path left)) (.error (.phaseRead path right))
  | ok (left right : Outcome) : SameKind (.ok left) (.ok right)

-----------------------------------------------------------------------------------------
-- Failures
-----------------------------------------------------------------------------------------

theorem Ends.notFound_iff (ends : Ends config path place result)
    : result = .error (.notFound path) ↔ place = .missing := by
  constructor
  · intro failed
    subst failed
    cases ends
    rfl
  · intro missing
    subst missing
    cases ends
    rfl

theorem Ends.notADirectory_iff (ends : Ends config path place result)
    : result = .error (.notADirectory path) ↔ ∃ content, place = .file content := by
  constructor
  · intro failed
    subst failed
    cases ends with
    | file content => exact ⟨content, rfl⟩
  · intro ⟨content, stands⟩
    subst stands
    cases ends
    rfl

theorem Ends.noPhaseFiles_iff (ends : Ends config path place result)
    : result = .error (.noPhaseFiles path config.extension)
      ↔ ∃ entries,
          place = .directory entries ∧ ∀ entry ∈ entries, ¬ entry.IsPhase config.extension := by
  constructor
  · intro failed
    subst failed
    cases ends with
    | empty entries absent => exact ⟨entries, rfl, PhaseFile.ofEntries_eq_nil_iff.mp absent⟩
  · intro ⟨entries, stands, others⟩
    subst stands
    have absent := PhaseFile.ofEntries_eq_nil_iff.mpr others
    cases ends with
    | empty => rfl
    | unopened _ file member =>
        rw [absent] at member
        cases member
    | bare _ found present => exact absurd (found.symm.trans absent) present
    | success _ found _ held =>
        obtain rfl := found.symm.trans absent
        exact absurd rfl held

/-- Where there are phase files, the run fails at one that cannot be opened, or else it finds no
record in any of them, or else it succeeds.
-/
theorem Ends.of_holds {files : List PhaseFile} (ends : Ends config path place result)
    (holds : place.Holds config.extension files)
    : (∃ file ∈ files, file.content = none ∧ result = .error (.phaseRead path file.name))
      ∨ AllOpen files
        ∧ (∀ file ∈ files, file.records (Schema.resolve config.schema files) = [])
        ∧ result = .error (.noRecords path files.length)
      ∨ AllOpen files
        ∧ (∃ file ∈ files, file.records (Schema.resolve config.schema files) ≠ [])
        ∧ ∃ outcome, result = .ok outcome := by
  obtain ⟨entries, rfl, found, present⟩ := holds
  cases ends with
  | empty _ absent => exact absurd (found.symm.trans absent) present
  | unopened _ file member closed =>
      rw [found] at member
      exact Or.inl ⟨file, member, closed, rfl⟩
  | bare _ same _ opened nothing =>
      obtain rfl := found.symm.trans same
      exact Or.inr (Or.inl ⟨opened, PhaseFile.allRecords_eq_nil_iff.mp nothing, rfl⟩)
  | success _ same opened held =>
      obtain rfl := found.symm.trans same
      exact Or.inr (Or.inr ⟨opened, PhaseFile.allRecords_ne_nil_iff.mp held, _, rfl⟩)

theorem Ends.unopened_of_phaseRead {name : String}
    (ends : Ends config path place (.error (.phaseRead path name)))
    : ∃ files,
        place.Holds config.extension files
        ∧ ∃ file ∈ files,
            file.name = name
            ∧ file.content = none
            ∧ (config.parallel = false → FirstClosed files file) := by
  cases ends with
  | unopened entries file member closed first =>
      exact ⟨_, ⟨entries, rfl, rfl, List.ne_nil_of_mem member⟩, file, member, rfl, closed, first⟩

theorem Ends.phaseRead_iff (ends : Ends config path place result)
    : (∃ name, result = .error (.phaseRead path name))
      ↔ ∃ files, place.Holds config.extension files ∧ ∃ file ∈ files, file.content = none := by
  constructor
  · intro ⟨name, failed⟩
    subst failed
    obtain ⟨files, holds, file, member, -, closed, -⟩ := ends.unopened_of_phaseRead
    exact ⟨files, holds, file, member, closed⟩
  · intro ⟨files, holds, phase, member, closed⟩
    rcases ends.of_holds holds with ⟨other, -, -, failed⟩ | ⟨opened, -⟩ | ⟨opened, -⟩
    · exact ⟨other.name, failed⟩
    · exact absurd closed (opened phase member)
    · exact absurd closed (opened phase member)

theorem Ends.noRecords_iff (ends : Ends config path place result) (phases : Nat)
    : result = .error (.noRecords path phases)
      ↔ ∃ files,
          place.Holds config.extension files
          ∧ AllOpen files
          ∧ (∀ file ∈ files, file.records (Schema.resolve config.schema files) = [])
          ∧ phases = files.length := by
  constructor
  · intro failed
    subst failed
    cases ends with
    | bare entries found present opened nothing =>
        have bare := PhaseFile.allRecords_eq_nil_iff.mp nothing
        exact ⟨_, ⟨entries, rfl, found, present⟩, opened, bare, rfl⟩
  · intro ⟨files, holds, opened, nothing, same⟩
    subst same
    rcases ends.of_holds holds with
      ⟨phase, member, closed, -⟩ | ⟨-, -, failed⟩ | ⟨-, ⟨phase, member, held⟩, -⟩
    · exact absurd closed (opened phase member)
    · exact failed
    · exact absurd (nothing phase member) held

-----------------------------------------------------------------------------------------
-- Success
-----------------------------------------------------------------------------------------

theorem Ends.success_iff (ends : Ends config path place result)
    : (∃ outcome, result = .ok outcome)
      ↔ ∃ files,
          place.Holds config.extension files
          ∧ AllOpen files
          ∧ ∃ file ∈ files, file.records (Schema.resolve config.schema files) ≠ [] := by
  constructor
  · intro ⟨outcome, ran⟩
    subst ran
    cases ends with
    | success entries found opened held =>
        have present := PhaseFile.ne_nil_of_allRecords held
        exact ⟨_, ⟨entries, rfl, found, present⟩, opened,
          PhaseFile.allRecords_ne_nil_iff.mp held⟩
  · intro ⟨files, holds, opened, phase, member, held⟩
    rcases ends.of_holds holds with ⟨other, among, closed, -⟩ | ⟨-, nothing, -⟩ | ⟨-, -, ran⟩
    · exact absurd closed (opened other among)
    · exact absurd (nothing phase member) held
    · exact ran

/-- Nothing that a run yields is empty. -/
theorem Ends.filled {outcome : Outcome} (ends : Ends config path place (.ok outcome))
    : outcome.stats.records ≠ 0
      ∧ outcome.stats.keys ≠ 0
      ∧ outcome.chart.points ≠ []
      ∧ (config.highlights ≠ 0 → outcome.report.rows ≠ []) := by
  cases ends with
  | @success entries files found opened held table ingests =>
      have ordered := PhaseFile.ofEntries_ascending config.extension entries
      rw [found] at ordered
      exact (ofFiles_conserves opened ordered rfl ingests).filled held

theorem Ends.classified (ends : Ends config path place result)
    : Classified config path place result := by
  refine {
    notFound := ends.notFound_iff
    notADirectory := ends.notADirectory_iff
    noPhaseFiles := ends.noPhaseFiles_iff
    phaseRead := ends.phaseRead_iff
    unopened := ?_
    noRecords := ends.noRecords_iff
    success := ends.success_iff
    filled := ?_
  }
  · intro name failed
    subst failed
    exact ends.unopened_of_phaseRead
  · intro outcome ran
    subst ran
    exact ends.filled

-----------------------------------------------------------------------------------------
-- Sequential and parallel runs
-----------------------------------------------------------------------------------------

/-- The conditions of the outcomes do not mention the choice, by cases on the outcome. -/
theorem Ends.sameKind {parallel : Bool} {other : Except IngestError Outcome}
    (ends : Ends config path place result)
    (classified : Classified { config with parallel := parallel } path place other)
    : SameKind result other := by
  have own := ends.classified
  cases ends with
  | missing =>
      rw [classified.notFound.mpr (own.notFound.mp rfl)]
      exact .error _
  | file content =>
      rw [classified.notADirectory.mpr (own.notADirectory.mp rfl)]
      exact .error _
  | empty entries absent =>
      rw [classified.noPhaseFiles.mpr (own.noPhaseFiles.mp rfl)]
      exact .error _
  | unopened entries file =>
      obtain ⟨name, same⟩ := classified.phaseRead.mpr (own.phaseRead.mp ⟨file.name, rfl⟩)
      rw [same]
      exact .phaseRead path _ _
  | bare entries =>
      rw [(classified.noRecords _).mpr ((own.noRecords _).mp rfl)]
      exact .error _
  | success entries =>
      obtain ⟨outcome, same⟩ := classified.success.mpr (own.success.mp ⟨_, rfl⟩)
      rw [same]
      exact .ok _ _

/-- A run always has a result; every result that it can have is classified by what stands at the
path; and those of sequential and of parallel runs are of one kind.
-/
theorem Yields.classification (config : Config) (path : String) (place : Place)
    : Yields config path place (ofPlace config path place)
      ∧ ∀ result,
          Yields config path place result
          → Classified config path place result
            ∧ ∀ parallel other,
                Yields { config with parallel := parallel } path place other
                → SameKind result other := by
  refine ⟨ofPlace_yields config path place, ?_⟩
  intro result yields
  refine ⟨yields.ends.classified, ?_⟩
  intro parallel other second
  exact yields.ends.sameKind second.ends.classified

end Outcome

end AllocTrace
