import AllocTrace.Proofs.Table.Schedules

/-! Phases without records. Such a phase has nothing to add and no peak to raise; it only counts
itself. Main statement: under every schedule, ingesting further phases with one that is empty leaves
the tallies that ingesting them without it can leave, and no others.
-/

namespace AllocTrace

variable {s : Schema} {phases before after : List (List (Record s))}

-----------------------------------------------------------------------------------------
-- Tables alike but for the number of phases
-----------------------------------------------------------------------------------------

/-- The tables have the same tallies; they may have counted different numbers of phases. -/
def Table.Alike (left right : Table s) : Prop :=
  left.tallies = right.tallies

namespace Table.Alike

variable {left right : Table s}

/-- An access changes tallies by what they were, by cases on the access. -/
theorem apply (h : left.Alike right) (access : Access s)
    : (access.apply left).Alike (access.apply right) := by
  unfold Alike at h ⊢
  cases access with
  | add record => simp only [Access.apply, Table.add, Table.update, h]
  | raise key bytes => simp only [Access.apply, Table.raisePeak, Table.update, h]
  | count => exact h

theorem foldl_apply (h : left.Alike right) (trace : Trace s)
    : (trace.foldl Access.apply left).Alike (trace.foldl Access.apply right) := by
  induction trace generalizing left right with
  | nil => exact h
  | cons access rest ih => exact ih (h.apply access)

theorem size (h : left.Alike right)
    : left.size = right.size :=
  congrArg Std.ExtTreeMap.size h

theorem entries (h : left.Alike right)
    : left.entries = right.entries := by
  rw [Table.entries, h, Table.entries]

end Table.Alike

-----------------------------------------------------------------------------------------
-- Idle processes
-----------------------------------------------------------------------------------------

/-- A process of an empty phase, at any of its steps. -/
inductive Process.Idle : Process s → Prop
  | folding : Idle (.folding [] .empty)
  | merging : Idle (.merging [])
  | finished : Idle .finished

/-- An idle process stays idle and leaves all tallies as they are, by cases on its step. -/
theorem Process.Idle.step {process next : Process s} {access : Option (Access s)}
    (idle : process.Idle) (h : process.Step access next) (table : Table s)
    : next.Idle ∧ (access.elim table (Access.apply table)).Alike table := by
  cases idle with
  | folding =>
      cases h with
      | complete _ order same =>
          have none : order = [] := same.eq_nil
          subst none
          exact ⟨.merging, rfl⟩
  | merging =>
      cases h
      exact ⟨.finished, rfl⟩
  | finished => cases h

namespace Run

/-- Processes may stand in any order. -/
theorem Step.perm {run next : Run s} {processes : List (Process s)} (h : run.Step next)
    (same : run.processes.Perm processes)
    : ∃ later,
        Step { processes := processes, table := run.table }
          { processes := later, table := next.table }
        ∧ next.processes.Perm later := by
  cases h with
  | @step left right process moved access table h =>
      have member : process ∈ processes :=
        same.mem_iff.mp (List.mem_append_right _ List.mem_cons_self)
      obtain ⟨front, back, rfl⟩ := List.append_of_mem member
      have others : (left ++ right).Perm (front ++ back) :=
        (List.perm_middle.symm.trans (same.trans List.perm_middle)).cons_inv
      exact ⟨_, .step front back table h,
        List.perm_middle.trans ((others.cons moved).trans List.perm_middle.symm)⟩

/-- Phases in another order have the runs of the given order, by induction on the steps. -/
theorem reachable_perm {other : List (List (Record s))} {run : Run s} (same : phases.Perm other)
    (steps : Relation.ReflTransGen Step (start phases) run)
    : ∃ processes,
        Relation.ReflTransGen Step (start other) { processes := processes, table := run.table }
        ∧ run.processes.Perm processes := by
  induction steps with
  | refl => exact ⟨_, .refl, same.map _⟩
  | tail _ step ih =>
      obtain ⟨processes, earlier, ordered⟩ := ih
      obtain ⟨later, next, moved⟩ := step.perm ordered
      exact ⟨later, earlier.tail next, moved⟩

/-- Without its idle first process a run still reaches tallies that it reached with it, by induction
on the steps: those of the idle process are left out.
-/
theorem reachable_without {run : Run s}
    (steps : Relation.ReflTransGen Step (start ([] :: phases)) run)
    : ∃ idle small,
        Process.Idle idle
        ∧ Relation.ReflTransGen Step (start phases) small
        ∧ run.processes = idle :: small.processes
        ∧ run.table.Alike small.table := by
  induction steps with
  | refl => exact ⟨_, start phases, .folding, .refl, rfl, rfl⟩
  | tail _ step ih =>
      obtain ⟨idle, small, unmoved, earlier, split, alike⟩ := ih
      cases step with
      | @step left right process next access table h =>
          cases left with
          | nil =>
              -- The idle process itself moves; the run without it stays where it is.
              obtain ⟨rfl, rfl⟩ := List.cons.inj split
              obtain ⟨still, same⟩ := unmoved.step h table
              exact ⟨next, small, still, earlier, rfl, Eq.trans same alike⟩
          | cons first left =>
              -- Another process moves, and makes the same step in the run without the idle one.
              obtain ⟨rfl, others⟩ := List.cons.inj split
              obtain ⟨processes, received⟩ := small
              obtain rfl : left ++ process :: right = processes := others
              refine ⟨first, _, unmoved, earlier.tail (.step left right received h), rfl, ?_⟩
              cases access with
              | none => exact alike
              | some access => exact alike.apply access

/-- A finished idle process can be put in front of any run, by induction on the steps. -/
theorem reachable_with {small : Run s}
    (steps : Relation.ReflTransGen Step (start phases) small)
    : ∃ run,
        Relation.ReflTransGen Step (start ([] :: phases)) run
        ∧ run.processes = .finished :: small.processes
        ∧ run.table.Alike small.table := by
  induction steps with
  | refl =>
      exact ⟨_, mergePhase [] (phases.map (.folding · .empty)) .empty .empty, rfl, rfl⟩
  | tail _ step ih =>
      obtain ⟨⟨processes, table⟩, earlier, split, alike⟩ := ih
      cases step with
      | @step left right process next access received h =>
          obtain rfl : processes = .finished :: (left ++ process :: right) := split
          refine ⟨_, earlier.tail (.step (.finished :: left) right table h), rfl, ?_⟩
          cases access with
          | none => exact alike
          | some access => exact alike.apply access

end Run

-----------------------------------------------------------------------------------------
-- Empty phases among others
-----------------------------------------------------------------------------------------

theorem Trace.ofPhase_nil
    : Trace.ofPhase ([] : List (Record s)) = [.count] :=
  rfl

namespace Table

theorem ingestInOrder_empty (before after : List (List (Record s)))
    : (ingestInOrder (before ++ [] :: after)).Alike (ingestInOrder (before ++ after)) := by
  have counted (table : Table s)
      : ([Access.count].foldl Access.apply table).Alike table := rfl
  rw [ingestInOrder_eq, ingestInOrder_eq, List.flatMap_append, List.flatMap_append,
    List.flatMap_cons, Trace.ofPhase_nil]
  unfold Trace.table
  rw [List.foldl_append, List.foldl_append, List.foldl_append]
  exact (counted _).foldl_apply _

/-- What an empty phase was among is reached without it. -/
theorem Ingests.without_empty {parallel : Bool} {table : Table s}
    (h : Ingests (before ++ [] :: after) parallel table)
    : ∃ small, Ingests (before ++ after) parallel small ∧ table.Alike small := by
  cases h with
  | inOrder => exact ⟨_, .inOrder, ingestInOrder_empty before after⟩
  | interleaved run steps finished =>
      obtain ⟨processes, moved, same⟩ := Run.reachable_perm List.perm_middle steps
      obtain ⟨idle, small, -, earlier, split, alike⟩ := Run.reachable_without moved
      refine ⟨small.table, .interleaved small earlier ?_, alike⟩
      intro process member
      refine finished process (same.mem_iff.mpr ?_)
      obtain rfl : processes = idle :: small.processes := split
      exact List.mem_cons_of_mem idle member

/-- What phases can reach is reached with an empty phase among them. -/
theorem Ingests.with_empty {parallel : Bool} {small : Table s}
    (h : Ingests (before ++ after) parallel small)
    : ∃ table, Ingests (before ++ [] :: after) parallel table ∧ table.Alike small := by
  cases h with
  | inOrder => exact ⟨_, .inOrder, ingestInOrder_empty before after⟩
  | interleaved small steps finished =>
      obtain ⟨⟨whole, table⟩, later, split, alike⟩ := Run.reachable_with steps
      obtain ⟨processes, moved, same⟩ := Run.reachable_perm List.perm_middle.symm later
      refine ⟨table, .interleaved _ moved ?_, alike⟩
      intro process member
      obtain rfl : whole = .finished :: small.processes := split
      rcases List.mem_cons.mp (same.mem_iff.mpr member) with rfl | others
      · rfl
      · exact finished process others

end Table

end AllocTrace
