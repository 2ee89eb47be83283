import AllocTrace.Directory
import Mathlib.Data.List.Nodup

/-! The phase files of a directory: its regular files with the extension, each once, ascending by
name, in whatever order they are listed. Main statement: a phase file that is added takes its place
by name, and the others keep theirs.
-/

namespace AllocTrace

variable {extension : String} {entries listing : List Listed}

/-- A regular file whose name has the extension. -/
def Listed.IsPhase (extension : String) (entry : Listed) : Prop :=
  (∃ content, entry.kind = .regular content) ∧ extension? entry.name = some extension

namespace PhaseFile

/-- What a directory lists for the phase file. -/
def listed (file : PhaseFile) : Listed :=
  { name := file.name, kind := .regular file.content }

-----------------------------------------------------------------------------------------
-- Membership
-----------------------------------------------------------------------------------------

theorem ofListed?_eq_some_iff {entry : Listed} {file : PhaseFile}
    : ofListed? extension entry = some file
      ↔ entry = file.listed ∧ extension? file.name = some extension := by
  obtain ⟨name, kind⟩ := entry
  obtain ⟨known, content⟩ := file
  cases kind with
  | directory => simp [ofListed?, listed]
  | regular held =>
      simp only [ofListed?, listed, Option.ite_none_right_eq_some, Option.some.injEq,
        PhaseFile.mk.injEq, Listed.mk.injEq, Kind.regular.injEq]
      constructor
      · rintro ⟨has, rfl, rfl⟩
        exact ⟨⟨rfl, rfl⟩, has⟩
      · rintro ⟨⟨rfl, rfl⟩, has⟩
        exact ⟨has, rfl, rfl⟩

/-- The phase files are the regular files with the extension. -/
theorem mem_ofEntries {file : PhaseFile}
    : file ∈ ofEntries extension entries
      ↔ file.listed ∈ entries ∧ extension? file.name = some extension := by
  rw [ofEntries, List.mem_mergeSort, List.mem_filterMap]
  constructor
  · rintro ⟨entry, member, found⟩
    obtain ⟨rfl, has⟩ := ofListed?_eq_some_iff.mp found
    exact ⟨member, has⟩
  · rintro ⟨member, has⟩
    exact ⟨_, member, ofListed?_eq_some_iff.mpr ⟨rfl, has⟩⟩

theorem ofEntries_eq_nil_iff
    : ofEntries extension entries = [] ↔ ∀ entry ∈ entries, ¬ entry.IsPhase extension := by
  rw [List.eq_nil_iff_forall_not_mem]
  constructor
  · rintro none ⟨name, kind⟩ member ⟨⟨content, rfl⟩, has⟩
    exact none ⟨name, content⟩ (mem_ofEntries.mpr ⟨member, has⟩)
  · intro none file member
    obtain ⟨listed, has⟩ := mem_ofEntries.mp member
    exact none _ listed ⟨⟨_, rfl⟩, has⟩

-----------------------------------------------------------------------------------------
-- Order
-----------------------------------------------------------------------------------------

theorem ofEntries_ascending (extension : String) (entries : List Listed)
    : (ofEntries extension entries).Pairwise fun a b => a.name ≤ b.name := by
  have sorted := @List.pairwise_mergeSort PhaseFile (fun a b => decide (a.name ≤ b.name))
    (fun a b c h k => by simpa using String.le_trans (by simpa using h) (by simpa using k))
    (fun a b => by simpa using String.le_total a.name b.name)
    (entries.filterMap (ofListed? extension))
  exact sorted.imp fun h => by simpa using h

/-- No two phase files of a directory have one name, as no two of its entries do. -/
theorem ofEntries_distinct (distinct : (entries.map (·.name)).Nodup) (extension : String)
    : (ofEntries extension entries).Pairwise fun a b => a.name ≠ b.name := by
  have apart : entries.Pairwise fun a b => a.name ≠ b.name := List.pairwise_map.mp distinct
  refine ((List.mergeSort_perm _ _).pairwise_iff fun h => Ne.symm h).mpr ?_
  refine apart.filterMap _ ?_
  intro a b differ file found other seen
  obtain ⟨rfl, -⟩ := ofListed?_eq_some_iff.mp found
  obtain ⟨rfl, -⟩ := ofListed?_eq_some_iff.mp seen
  exact differ

theorem ofEntries_strict (distinct : (entries.map (·.name)).Nodup) (extension : String)
    : (ofEntries extension entries).Pairwise fun a b => a.name < b.name :=
  ((ofEntries_ascending extension entries).and (ofEntries_distinct distinct extension)).imp
    fun h => Std.lt_of_le_of_ne h.1 h.2

/-- Files that ascend strictly by name are fixed by which they are. -/
theorem eq_of_strict {left right : List PhaseFile} (same : left.Perm right)
    (hl : left.Pairwise fun a b => a.name < b.name)
    (hr : right.Pairwise fun a b => a.name < b.name)
    : left = right :=
  same.eq_of_pairwise (fun _ _ _ _ h k => absurd k (String.lt_asymm h)) hl hr

/-- Phase files known to ascend are the sorted ones, without the sort being run. -/
theorem ofEntries_eq {files : List PhaseFile} (distinct : (entries.map (·.name)).Nodup)
    (same : (entries.filterMap (ofListed? extension)).Perm files)
    (strict : files.Pairwise fun a b => a.name < b.name)
    : ofEntries extension entries = files :=
  eq_of_strict ((List.mergeSort_perm _ _).trans same) (ofEntries_strict distinct extension) strict

/-- A phase file added to a directory takes its place by name, and the others keep theirs, in
whatever order the directory lists its entries.
-/
theorem ofEntries_added {file : PhaseFile}
    (distinct : ((file.listed :: entries).map (·.name)).Nodup)
    (added : listing.Perm (file.listed :: entries))
    (has : extension? file.name = some extension)
    : ∃ before after,
        ofEntries extension entries = before ++ after
        ∧ ofEntries extension listing = before ++ file :: after
        ∧ (∀ other ∈ before, other.name < file.name)
        ∧ ∀ other ∈ after, file.name < other.name := by
  have strict := ofEntries_strict ((added.map _).nodup_iff.mpr distinct) extension
  obtain ⟨before, after, split⟩ := List.append_of_mem
    (mem_ofEntries.mpr ⟨added.mem_iff.mpr List.mem_cons_self, has⟩)
  have found : ofListed? extension file.listed = some file :=
    ofListed?_eq_some_iff.mpr ⟨rfl, has⟩
  have others : (ofEntries extension entries).Perm (before ++ after) := by
    have whole : (before ++ file :: after).Perm (file :: ofEntries extension entries) := by
      rw [← split]
      refine (List.mergeSort_perm _ _).trans ((added.filterMap _).trans ?_)
      rw [List.filterMap_cons_some found]
      exact (List.mergeSort_perm _ _).symm.cons file
    exact (List.perm_middle.symm.trans whole).cons_inv.symm
  rw [split] at strict
  obtain ⟨lower, upper, between⟩ := List.pairwise_append.mp strict
  refine ⟨before, after, ?_, split, ?_, ?_⟩
  · refine eq_of_strict others (ofEntries_strict (List.nodup_cons.mp distinct).2 extension) ?_
    exact strict.sublist ((List.sublist_cons_self file after).append_left before)
  · exact fun other member => between other member file List.mem_cons_self
  · exact (List.pairwise_cons.mp upper).1

-----------------------------------------------------------------------------------------
-- What stands at a path
-----------------------------------------------------------------------------------------

theorem discover_directory (path extension : String) (entries : List Listed)
    : discover path extension (.directory entries)
      = if ofEntries extension entries = [] then .error (.noPhaseFiles path extension)
        else .ok (ofEntries extension entries) := by
  unfold discover
  cases h : ofEntries extension entries <;> simp [h]

end PhaseFile

end AllocTrace
