import AllocTrace.Config.Basic
import AllocTrace.Proofs.Directory.Discovery
import Mathlib.Data.List.Induction
import Mathlib.Data.List.TakeWhile

/-! Names with an extension. Main statement: of the extensions that the checks of a configuration
accept, those without a dot are had by every name that ends in a dot and the extension, and all
others by none.
-/

namespace AllocTrace

variable {config : Config} {name extension : String} {entries : List Listed}

-----------------------------------------------------------------------------------------
-- What follows the last dot
-----------------------------------------------------------------------------------------

/-- The name has the extension behind its last dot, and something before that dot. -/
def HasExtension (name extension : String) : Prop :=
  ∃ stem, stem ≠ "" ∧ name = stem ++ "." ++ extension ∧ '.' ∉ extension.toList

/-- The characters before the last dot and those behind it. -/
theorem exists_last_dot {cs : List Char} (dotted : '.' ∈ cs)
    : ∃ front back, cs = front ++ '.' :: back ∧ '.' ∉ back := by
  obtain ⟨before, after, split, absent⟩ :=
    List.eq_append_cons_of_mem (List.mem_reverse.mpr dotted)
  refine ⟨after.reverse, before.reverse, ?_, by simpa using absent⟩
  have whole := congrArg List.reverse split
  simpa using whole

/-- A name is cut at its last dot. -/
theorem extension?_of_last_dot {front back : List Char} (last : '.' ∉ back)
    (h : name.toList = front ++ '.' :: back)
    : extension? name = if front = [] then none else some (String.ofList back) := by
  have split : name.toList.reverse = back.reverse ++ '.' :: front.reverse := by simp [h]
  have plain : ∀ c ∈ back.reverse, decide (c ≠ '.') = true := by
    intro c member
    refine decide_eq_true fun same => last ?_
    rw [← same]
    exact List.mem_reverse.mp member
  have tail : name.toList.reverse.takeWhile (· ≠ '.') = back.reverse := by
    rw [split, List.takeWhile_append_of_pos plain, List.takeWhile_cons_of_neg (by simp),
      List.append_nil]
  unfold extension?
  dsimp only
  rw [tail, split, List.drop_left]
  cases front using List.reverseRecOn with
  | nil => rfl
  | append_singleton rest c => simp

theorem extension?_of_no_dot (absent : '.' ∉ name.toList)
    : extension? name = none := by
  have whole : name.toList.reverse.takeWhile (· ≠ '.') = name.toList.reverse := by
    refine List.takeWhile_eq_self_iff.mpr fun c member => decide_eq_true fun same => absent ?_
    rw [← same]
    exact List.mem_reverse.mp member
  unfold extension?
  dsimp only
  rw [whole, List.drop_length]

theorem extension?_eq_some_iff
    : extension? name = some extension ↔ HasExtension name extension := by
  constructor
  · intro found
    by_cases dotted : '.' ∈ name.toList
    · obtain ⟨front, back, split, last⟩ := exists_last_dot dotted
      rw [extension?_of_last_dot last split, Option.ite_none_left_eq_some, Option.some.injEq]
        at found
      obtain ⟨present, rfl⟩ := found
      refine ⟨String.ofList front, by simpa using present, ?_, by simpa using last⟩
      apply String.toList_inj.mp
      simp [split]
    · rw [extension?_of_no_dot dotted] at found
      cases found
  · rintro ⟨stem, present, rfl, last⟩
    have split : (stem ++ "." ++ extension).toList = stem.toList ++ '.' :: extension.toList := by
      simp
    rw [extension?_of_last_dot last split, if_neg (by simpa using present), String.ofList_toList]

/-- A regular file is a phase file if its name has the extension. -/
theorem Listed.isPhase_iff {entry : Listed}
    : entry.IsPhase extension
      ↔ (∃ content, entry.kind = .regular content) ∧ HasExtension entry.name extension := by
  rw [Listed.IsPhase, extension?_eq_some_iff]

-----------------------------------------------------------------------------------------
-- Extensions that a configuration can have
-----------------------------------------------------------------------------------------

namespace Config

/-- The checks of a configuration look at the first character of the extension. -/
theorem not_dot_of_validate (accepted : config.validate = .ok ())
    : config.extension.toList.head? ≠ some '.' := by
  intro dotted
  simp only [validate, dotted, if_true] at accepted
  split_ifs at accepted

theorem dot_mem_extension_iff (accepted : config.validate = .ok ())
    : '.' ∈ config.extension.toList ↔ '.' ∈ config.extension.toList.tail := by
  have first := not_dot_of_validate accepted
  cases characters : config.extension.toList with
  | nil => simp
  | cons c rest =>
      rw [characters] at first
      have other : '.' ≠ c := fun same => first (congrArg some same.symm)
      simp [other]

/-- A dot behind the first character of the extension, which no check looks at, keeps every name
from having it. Without one, every regular file is discovered whose name is anything, a dot and the
extension.
-/
theorem discover_validated (accepted : config.validate = .ok ()) (path : String)
    (entries : List Listed)
    : ('.' ∉ config.extension.toList.tail
        → ∀ stem content,
            stem ≠ ""
            → { name := stem ++ "." ++ config.extension, kind := .regular content } ∈ entries
            → ∃ files,
                PhaseFile.discover path config.extension (.directory entries) = .ok files
                ∧ { name := stem ++ "." ++ config.extension, content := content } ∈ files)
      ∧ ('.' ∈ config.extension.toList.tail
        → PhaseFile.discover path config.extension (.directory entries)
          = .error (.noPhaseFiles path config.extension)) := by
  rw [← dot_mem_extension_iff accepted]
  constructor
  · intro plain stem content present listed
    have has : extension? (stem ++ "." ++ config.extension) = some config.extension :=
      extension?_eq_some_iff.mpr ⟨stem, present, rfl, plain⟩
    have member : { name := stem ++ "." ++ config.extension, content := content }
        ∈ PhaseFile.ofEntries config.extension entries :=
      PhaseFile.mem_ofEntries.mpr ⟨listed, has⟩
    refine ⟨_, ?_, member⟩
    rw [PhaseFile.discover_directory, if_neg (List.ne_nil_of_mem member)]
  · intro dotted
    have none : PhaseFile.ofEntries config.extension entries = [] := by
      refine PhaseFile.ofEntries_eq_nil_iff.mpr fun entry _ phase => ?_
      obtain ⟨-, -, -, -, plain⟩ := Listed.isPhase_iff.mp phase
      exact plain dotted
    rw [PhaseFile.discover_directory, if_pos none]

/-- A phase file with two dots in its name. -/
def nestedPhase : PhaseFile :=
  {
    name := "a.trace.csv"
    content := some (.ofBytes "bucket,count,raw_bytes\n16,3,48\n".toUTF8.toList)
  }

/-- By default what stands behind the last dot is looked for. -/
theorem nestedPhase_discovered
    : Config.default.validate = .ok ()
      ∧ '.' ∉ "csv".toList.tail
      ∧ "a.trace" ≠ ""
      ∧ nestedPhase.name = "a.trace" ++ "." ++ "csv"
      ∧ ∃ files,
          PhaseFile.discover "traces" "csv" (.directory [nestedPhase.listed]) = .ok files
          ∧ nestedPhase ∈ files := by
  have accepted : Config.default.validate = .ok () := rfl
  refine ⟨accepted, by decide, by decide, rfl, ?_⟩
  exact (discover_validated accepted "traces" [nestedPhase.listed]).1 (by decide) "a.trace"
    nestedPhase.content (by decide) List.mem_cons_self

/-- Asked for by both its dots, the file is not found, although the checks admit the extension. -/
theorem nestedPhase_undiscovered
    : ({ Config.default with extension := "trace.csv" } : Config).validate = .ok ()
      ∧ nestedPhase.name = "a" ++ "." ++ "trace.csv"
      ∧ PhaseFile.discover "traces" "trace.csv" (.directory [nestedPhase.listed])
        = .error (.noPhaseFiles "traces" "trace.csv") := by
  have other : extension? nestedPhase.name ≠ some "trace.csv" := by decide
  have none : PhaseFile.ofEntries "trace.csv" [nestedPhase.listed] = [] := by
    refine PhaseFile.ofEntries_eq_nil_iff.mpr fun entry member phase => ?_
    obtain rfl := List.mem_singleton.mp member
    exact other phase.2
  exact ⟨rfl, rfl, by rw [PhaseFile.discover_directory, if_pos none]⟩

end Config

end AllocTrace
