import AllocTrace.Proofs.Directory.Extensions
import AllocTrace.Proofs.Order.Ascending
import AllocTrace.Proofs.Pipeline.Conservation
import AllocTrace.Proofs.Text.ByteOrder

/-! What a run sees of a trace directory. Main statement: the phase files are exactly the regular
files with the extension, each once and in the byte order of their names, in whatever order the
directory lists them; and entries of other kinds or with other extensions change no result of a run.
-/

namespace AllocTrace

variable {path extension : String} {entries listing : List Listed} {files : List PhaseFile}

namespace PhaseFile

/-- The files are the regular files with the extension, each once, in the byte order of names. -/
structure Lists (extension : String) (entries : List Listed) (files : List PhaseFile) : Prop where
  exact (file : PhaseFile)
    : file ∈ files ↔ file.listed ∈ entries ∧ HasExtension file.name extension
  ascending : files.Pairwise fun a b => Text.encode a.name.toList < Text.encode b.name.toList

/-- Both directories have the same regular files with the extension, whatever else they have. -/
def SamePhases (extension : String) (entries listing : List Listed) : Prop :=
  ∀ file : PhaseFile,
    HasExtension file.name extension → (file.listed ∈ entries ↔ file.listed ∈ listing)

/-- What discovering the phase files of a directory with these entries comes to. -/
structure Discovery (path extension : String) (entries : List Listed) : Prop where
  found (files : List PhaseFile)
    : discover path extension (.directory entries) = .ok files
      ↔ files ≠ [] ∧ Lists extension entries files
  failed (error : IngestError)
    : discover path extension (.directory entries) = .error error
      ↔ error = .noPhaseFiles path extension
        ∧ ∀ file : PhaseFile, file.listed ∈ entries → ¬HasExtension file.name extension
  unordered (listing : List Listed)
    : listing.Perm entries
      → discover path extension (.directory listing)
        = discover path extension (.directory entries)

-----------------------------------------------------------------------------------------
-- The sorted phase files
-----------------------------------------------------------------------------------------

theorem Lists.unique {others : List PhaseFile} (hl : Lists extension entries files)
    (hr : Lists extension entries others)
    : files = others :=
  eq_of_ascending (fun _ _ below => List.lt_asymm below) hl.ascending hr.ascending
    fun file => by rw [hl.exact, hr.exact]

theorem lists_ofEntries (distinct : (entries.map (·.name)).Nodup) (extension : String)
    : Lists extension entries (ofEntries extension entries) where
  exact file := by rw [mem_ofEntries, extension?_eq_some_iff]
  ascending := (ofEntries_strict distinct extension).imp fun below =>
    Text.encode_lt_encode_iff.mpr below

theorem lists_iff (distinct : (entries.map (·.name)).Nodup)
    : Lists extension entries files ↔ ofEntries extension entries = files := by
  constructor
  · exact fun lists => (lists_ofEntries distinct extension).unique lists
  · rintro rfl
    exact lists_ofEntries distinct extension

theorem ofEntries_eq_nil_iff_hasExtension
    : ofEntries extension entries = []
      ↔ ∀ file : PhaseFile, file.listed ∈ entries → ¬HasExtension file.name extension := by
  rw [List.eq_nil_iff_forall_not_mem]
  refine forall_congr' fun file => ?_
  rw [mem_ofEntries, extension?_eq_some_iff, not_and]

-----------------------------------------------------------------------------------------
-- Directories with the same phase files
-----------------------------------------------------------------------------------------

theorem SamePhases.of_perm (same : listing.Perm entries) (extension : String)
    : SamePhases extension entries listing :=
  fun _ _ => same.mem_iff.symm

/-- One more entry is no matter unless it is a phase file. -/
theorem SamePhases.added {entry : Listed} (stray : ¬entry.IsPhase extension)
    (same : SamePhases extension entries listing)
    : SamePhases extension entries (entry :: listing) := by
  intro file has
  have apart : file.listed ≠ entry := by
    rintro rfl
    exact stray (Listed.isPhase_iff.mpr ⟨⟨file.content, rfl⟩, has⟩)
  rw [List.mem_cons, or_iff_right apart]
  exact same file has

theorem SamePhases.ofEntries_eq (same : SamePhases extension entries listing)
    (distinct : (entries.map (·.name)).Nodup) (relisted : (listing.map (·.name)).Nodup)
    : ofEntries extension listing = ofEntries extension entries := by
  refine (lists_iff relisted).mp {
    exact := fun file => ?_
    ascending := (lists_ofEntries distinct extension).ascending
  }
  rw [(lists_ofEntries distinct extension).exact]
  exact and_congr_left (same file)

theorem SamePhases.discover_eq (same : SamePhases extension entries listing)
    (distinct : (entries.map (·.name)).Nodup) (relisted : (listing.map (·.name)).Nodup)
    (path : String)
    : discover path extension (.directory listing)
      = discover path extension (.directory entries) := by
  rw [discover_directory, discover_directory, same.ofEntries_eq distinct relisted]

theorem discovery (distinct : (entries.map (·.name)).Nodup) (path extension : String)
    : Discovery path extension entries where
  found files := by
    rw [discover_directory, lists_iff distinct]
    split
    · rename_i none
      simp only [reduceCtorEq, false_iff, not_and]
      exact fun present found => present (found.symm.trans none)
    · rename_i present
      simp only [Except.ok.injEq]
      refine ⟨fun found => ⟨?_, found⟩, And.right⟩
      rw [← found]
      exact present
  failed error := by
    rw [discover_directory, ← ofEntries_eq_nil_iff_hasExtension]
    split
    · rename_i none
      rw [Except.error.injEq, eq_comm]
      exact ⟨fun same => ⟨same, none⟩, And.left⟩
    · rename_i present
      simp only [reduceCtorEq, false_iff, not_and]
      exact fun _ => present
  unordered listing reordered := by
    have relisted := (reordered.map (·.name)).nodup_iff.mpr distinct
    exact (SamePhases.of_perm reordered extension).discover_eq distinct relisted path

end PhaseFile

namespace Outcome

open PhaseFile (SamePhases)

/-- A run goes by the phase files that it discovers, and by nothing else at its path. -/
theorem Yields.of_discover {config : Config} {place other : Place}
    {result : Except IngestError Outcome} (yields : Yields config path place result)
    (same
      : PhaseFile.discover path config.extension other
        = PhaseFile.discover path config.extension place)
    : Yields config path other result := by
  cases yields with
  | undiscovered h => exact .undiscovered (same.trans h)
  | discovered h aggregates => exact .discovered (same.trans h) aggregates

/-- Discovery takes exactly the regular files with the extension in the byte order of their names,
and directories that have the same such files give every run the same results.
-/
theorem discovery_exact (path extension : String) {entries : List Listed}
    (distinct : (entries.map (·.name)).Nodup)
    : PhaseFile.Discovery path extension entries
      ∧ ∀ listing,
          (listing.map (·.name)).Nodup
          → SamePhases extension entries listing
          → ∀ config : Config,
              config.extension = extension
              → ofPlace config path (.directory listing) = ofPlace config path (.directory entries)
                ∧ ∀ result,
                    Yields config path (.directory listing) result
                    ↔ Yields config path (.directory entries) result := by
  refine ⟨PhaseFile.discovery distinct path extension, ?_⟩
  intro listing relisted same config rfl
  have discovered := same.discover_eq distinct relisted path
  refine ⟨by rw [ofPlace, ofPlace, discovered], fun result => ⟨fun yields => ?_, fun yields => ?_⟩⟩
  · exact yields.of_discover discovered.symm
  · exact yields.of_discover discovered

/-- A directory named like a phase file, a hidden file without an extension, and files whose last
dot is not followed by the extension.
-/
def strays : List Listed :=
  [
    { name := "c.csv", kind := .directory },
    { name := ".csv", kind := .regular (some (.ofBytes [])) },
    { name := "a.csv.bak", kind := .regular none },
    { name := "b.CSV", kind := .regular none }
  ]

/-- Two phases are discovered in the order of their names, and found again among other entries. -/
theorem twoPhases_discovered
    : (twoPhases.map (·.name)).Nodup
      ∧ ((strays ++ twoPhases).map (·.name)).Nodup
      ∧ SamePhases "csv" twoPhases (strays ++ twoPhases)
      ∧ PhaseFile.discover "traces" "csv" (.directory twoPhases)
        = .ok (twoPhases.reverse.filterMap (PhaseFile.ofListed? "csv"))
      ∧ ∀ result,
          Yields .default "traces" (.directory (strays ++ twoPhases)) result
          ↔ Yields .default "traces" (.directory twoPhases) result := by
  have distinct : (twoPhases.map (·.name)).Nodup := by decide
  have relisted : ((strays ++ twoPhases).map (·.name)).Nodup := by decide
  have same : SamePhases "csv" twoPhases (strays ++ twoPhases) := by
    have itself : SamePhases "csv" twoPhases twoPhases := .of_perm (.refl _) "csv"
    refine .added (fun phase => ?_) (.added (fun phase => ?_) (.added (fun phase => ?_)
      (.added (fun phase => ?_) itself)))
    · obtain ⟨⟨_, regular⟩, -⟩ := phase
      cases regular
    · exact absurd phase.2 (by decide)
    · exact absurd phase.2 (by decide)
    · exact absurd phase.2 (by decide)
  have listed : PhaseFile.Lists "csv" twoPhases
      (twoPhases.reverse.filterMap (PhaseFile.ofListed? "csv")) :=
    (PhaseFile.lists_iff distinct).mpr (PhaseFile.ofEntries_eq distinct
      ((List.reverse_perm twoPhases).symm.filterMap _) (by decide))
  obtain ⟨discovery, stray⟩ := discovery_exact "traces" "csv" distinct
  exact ⟨distinct, relisted, same, (discovery.found _).mpr ⟨by decide, listed⟩,
    (stray _ relisted same .default rfl).2⟩

end Outcome

end AllocTrace
