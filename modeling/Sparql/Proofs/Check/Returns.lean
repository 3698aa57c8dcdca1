import Sparql.Proofs.Check.Tallied
import Sparql.Proofs.Operation

/-!
A check of a query that is not strict returns, when the patterns that it descends into are sound. It
makes the visits of the query, those of the body first, and no other step shows in the tally.
-/

namespace Sparql

namespace Query

/-! ## Checks that return -/

theorem checks_of_checked {query : Query} (checked : query.checked = true) : query.Checks := by
  have run := Build.run_check_of_checked checked
  have same : query.afterCheck = query := Build.after_of_run_ok run
  exact ⟨query.log.correct, by rw [same]; exact run, by rw [same]; exact checked⟩

theorem Ready.checks {query : Query} (ready : query.Ready) (lenient : query.Lenient) :
    query.Checks := by
  by_cases checked : query.checked = true
  · exact checks_of_checked checked
  · obtain ⟨correct, query', run, _⟩ :=
      (Build.check_writes ready lenient (Bool.eq_false_iff.mpr checked)).exists_ok
    have same : query.afterCheck = query' := Build.after_of_run_ok run
    exact ⟨correct, by rw [same]; exact run, by rw [same]; exact Build.checked_of_run_check run⟩

theorem Ready.tally_afterCheck {query : Query} (ready : query.Ready) (lenient : query.Lenient)
    (unchecked : query.checked = false) :
    query.afterCheck.tally = query.tallied query.visits { query.tally with owners := [] } := by
  have taken := (ready.written_afterCheck lenient unchecked).2
  exact (congrArg Ledger.tally taken).trans ((accounted ready).tally_taking query _)

/-! ## Trees of queries -/

/-- A descent from the pattern meets the subquery, or one in which a descent meets it. -/
inductive Meets : Query → PatternId → Query → Prop
  | here {query sub : Query} {root id : PatternId} (reaches : query.arena.Reaches root id)
      (found : query.arena.get? id = some (.subquery sub)) : Meets query root sub
  | inside {query sub sub' : Query} {root id root' : PatternId}
      (reaches : query.arena.Reaches root id)
      (found : query.arena.get? id = some (.subquery sub)) (matched : root' ∈ sub.matched)
      (meets : Meets sub root' sub') : Meets query root sub'

theorem Meets.trans {query sub sub' : Query} {root root' : PatternId}
    (meets : query.Meets root sub) (matched : root' ∈ sub.matched)
    (onward : sub.Meets root' sub') : query.Meets root sub' := by
  induction meets with
  | here reaches found => exact .inside reaches found matched onward
  | inside reaches found matched' _ induction =>
      exact .inside reaches found matched' (induction matched onward)

/-- A query that is not strict, whose patterns are sound. -/
structure Checkable (query : Query) : Prop where
  lenient : query.Lenient
  sound : query.Sound

theorem Meets.everywhere {property : Query → Prop} {query sub : Query} {root : PatternId}
    (meets : query.Meets root sub) (holds : query.Everywhere property) :
    sub.Everywhere property := by
  induction meets with
  | here _ found => exact holds.part ⟨_, found⟩
  | inside _ found _ _ induction => exact induction (holds.part ⟨_, found⟩)

/-- A query is ready if the queries that it meets can be checked. The induction is on the level of
the query, which is that of no subquery. -/
theorem Checkable.ready {query : Query} (here : query.Checkable)
    (nested : ∀ root ∈ query.matched, ∀ sub, query.Meets root sub → sub.Checkable)
    (cells : query.Everywhere (·.arena.CellsAreTriples)) : query.Ready := by
  induction equal : query.level using Nat.strong_induction_on generalizing query with
  | h level induction =>
      refine ⟨cells.here, fun root member => ⟨?_, fun id sub reaches found => ?_⟩, ?_⟩
      · exact (here.sound root (List.mem_append_left _ member)).fits
      · have meets := nested root member
        have checkable := meets sub (.here reaches found)
        refine Ready.checks ?_ checkable.lenient
        refine induction sub.level (equal ▸ level_lt_of_get? found) checkable ?_
          (cells.part ⟨id, found⟩) rfl
        exact fun root' member' sub' inside => meets sub' (.inside reaches found member' inside)
      · exact fun template member => (here.sound template (List.mem_append_right _ member)).fits

theorem Meets.ready {query sub : Query} {root : PatternId}
    (nested : ∀ sub, query.Meets root sub → sub.Checkable)
    (cells : query.Everywhere (·.arena.CellsAreTriples)) (meets : query.Meets root sub) :
    sub.Ready :=
  (nested sub meets).ready (fun _ matched sub' onward => nested sub' (meets.trans matched onward))
    (meets.everywhere cells)

theorem Everywhere.ready {query : Query} (checkable : query.Everywhere Checkable)
    (cells : query.Everywhere (·.arena.CellsAreTriples)) : query.Ready :=
  checkable.here.ready (fun _ _ _ meets => (meets.everywhere checkable).here) cells

end Query

end Sparql
