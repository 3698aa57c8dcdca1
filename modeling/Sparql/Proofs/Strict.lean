import Sparql.Proofs.Build.Operations
import Sparql.Proofs.Check.Levels

/-!
What a strict failure leaves behind. The report that raises it marks the query, whichever operation
fails. Only a check that stops at a subquery passes the failure on without a report: then a strict
query is left no more marked than it was.
-/

namespace Sparql

/-! ## Marks -/

namespace Query

structure Marked (query : Query) (diagnostic : Diagnostic) : Prop where
  incorrect : query.log.correct = false
  reported : diagnostic ∈ query.log.entries

def PassesOn (query query' : Query) (diagnostic : Diagnostic) : Prop :=
  ∃ id sub sub', query.arena.get? id = some (.subquery sub) ∧
    Build.check.run sub = .error (.strict diagnostic) sub' ∧
    query'.arena.get? id = some (.subquery sub')

theorem marked_of_add {query : Query} {log : Log} {diagnostic : Diagnostic}
    (raised : query.log = log.add diagnostic) (error : diagnostic.isError = true) :
    query.Marked diagnostic where
  incorrect := by simp [raised, Log.add, error]
  reported := by simp [raised, Log.add]

/-! ## The middle of a check -/

/-- The query in the middle of a check that began with another and has not failed. A strict query
has no new errors, and each subquery is as it was or is checked. -/
structure Going (start query : Query) : Prop where
  strict : query.options.strict = start.options.strict
  grows : ∃ added, query.log.entries = start.log.entries ++ added ∧
    (start.options.strict = true → ∀ diagnostic ∈ added, diagnostic.isError = false)
  correct : start.options.strict = true → query.log.correct = start.log.correct
  parts : ∀ id sub', query.arena.get? id = some (.subquery sub') →
    ∃ sub, start.arena.get? id = some (.subquery sub) ∧
      (sub' = sub ∨ ∃ correct, Build.check.run sub = .ok correct sub')

/-- How a check that began with the query stops with the failure of a strict query. -/
inductive Stops (start : Query) (diagnostic : Diagnostic) : Query → Prop
  | reported {query : Query} (going : start.Going query) (error : diagnostic.isError = true) :
      Stops start diagnostic { query with log := query.log.add diagnostic }
  | passed {query sub sub' : Query} {id : PatternId} (going : start.Going query)
      (found : start.arena.get? id = some (.subquery sub))
      (here : query.arena.get? id = some (.subquery sub))
      (failed : Build.check.run sub = .error (.strict diagnostic) sub') :
      Stops start diagnostic { query with arena := query.arena.set id (.subquery sub') }

theorem Going.refl (start : Query) : start.Going start where
  strict := rfl
  grows := ⟨[], (List.append_nil _).symm, by simp⟩
  correct _ := rfl
  parts _ sub' found := ⟨sub', found, .inl rfl⟩

theorem Going.report {start query : Query} (going : start.Going query) {diagnostic : Diagnostic}
    (allowed : start.options.strict = true → diagnostic.isError = false) :
    start.Going { query with log := query.log.add diagnostic } where
  strict := going.strict
  grows := by
    rcases going.grows with ⟨added, equal, plain⟩
    refine ⟨added ++ [diagnostic], ?_, fun strict entry member => ?_⟩
    · rw [Log.add, equal, List.append_assoc]
    · rcases List.mem_append.mp member with member | member
      · exact plain strict entry member
      · exact List.mem_singleton.mp member ▸ allowed strict
  correct strict := by simp [Log.add, allowed strict, going.correct strict]
  parts := going.parts

end Query

namespace Build

/-! ## Checks that return -/

theorem closedUnderCheck_true {checkSub : Build Bool} :
    ClosedUnderCheck checkSub (fun _ => True) fun _ _ => True where
  report _ _ _ _ := by
    rw [ends_report]
    split <;> trivial
  own _ _ _ := trivial
  project _ _ _ := trivial
  done _ _ := trivial
  part _ _ sub _ _ := by
    unfold Ends
    split <;> trivial
  other _ _ _ _ := trivial

theorem checked_of_run_check {query query' : Query} {correct : Bool}
    (run : check.run query = .ok correct query') : query'.checked = true := by
  rw [check_eq] at run
  have closed : ClosedUnderCheck check (fun _ => True) fun _ _ => True := closedUnderCheck_true
  suffices ends : Ends (checkWith check) query (fun _ query' => query'.checked = true)
      fun _ _ => True from
    ends.of_ok run
  rw [checkWith, ends_bind, ends_get]
  split
  · next checked => exact checked
  · rw [ends_bind, ends_modify]
    refine (preserves_checkBody closed.visits _ trivial).bind fun scope _ _ => ?_
    refine (preserves_checkGroundData closed.visits _ trivial).bind fun _ _ _ => ?_
    refine (preserves_checkTemplates closed.visits _ trivial).bind fun _ _ _ => ?_
    refine (preserves_checkSelect closed scope _ trivial).bind fun _ _ _ => ?_
    exact (preserves_checkGrouping closed.visits _ trivial).bind fun _ _ _ => rfl

end Build

/-! ## Checks that fail -/

theorem Query.Going.part {start query sub sub' : Query} {id : PatternId} {correct : Bool}
    (going : start.Going query) (found : query.arena.get? id = some (.subquery sub))
    (run : Build.check.run sub = .ok correct sub') :
    start.Going { query with arena := query.arena.set id (.subquery sub') } where
  strict := going.strict
  grows := going.grows
  correct := going.correct
  parts id' part found' := by
    rw [Arena.get?_set found] at found'
    split at found'
    · next same =>
        subst same
        cases found'
        rcases going.parts _ sub found with ⟨first, found₀, rfl | ⟨correct₀, run₀⟩⟩
        · exact ⟨sub, found₀, .inr ⟨correct, run⟩⟩
        · rw [Build.run_check_of_checked (Build.checked_of_run_check run₀)] at run
          cases run
          exact ⟨first, found₀, .inr ⟨correct₀, run₀⟩⟩
    · exact going.parts id' part found'

namespace Build

theorem closedUnderCheck_going (start : Query) :
    ClosedUnderCheck check start.Going
      fun failure query => ∀ diagnostic, failure = .strict diagnostic →
        start.Stops diagnostic query where
  report diagnostic query going _ := by
    rw [ends_report]
    split
    · next stops =>
        intro _ equal
        cases equal
        exact .reported going (Bool.and_eq_true _ _ ▸ stops).1
    · next goes =>
        refine going.report fun strict => ?_
        simpa [going.strict, strict] using goes
  own _ _ going := ⟨going.strict, going.grows, going.correct, going.parts⟩
  project _ _ going := ⟨going.strict, going.grows, going.correct, going.parts⟩
  done _ going := ⟨going.strict, going.grows, going.correct, going.parts⟩
  part query id sub going found := by
    unfold Ends
    split
    · next run => exact going.part found run
    · next run =>
        intro diagnostic equal
        rcases equal with rfl
        rcases going.parts id sub found with ⟨first, found₀, rfl | ⟨correct₀, run₀⟩⟩
        · exact .passed going found₀ found run
        · rw [run_check_of_checked (checked_of_run_check run₀)] at run
          cases run
  other _ _ _ plain := by
    intro _ equal
    rcases equal with rfl
    cases plain

theorem stops_of_run_check {start query : Query} {diagnostic : Diagnostic}
    (failed : check.run start = .error (.strict diagnostic) query) :
    start.Stops diagnostic query := by
  rw [check_eq] at failed
  have ends := preserves_checkWith (closedUnderCheck_going start) start (.refl start)
  exact ends.of_error failed diagnostic rfl

/-- A strict failure is that of an error, and its report is new to the query or to a subquery. The
induction is on the level of the query. -/
theorem isError_and_ne_of_run_check {query query' : Query} {diagnostic : Diagnostic}
    (failed : check.run query = .error (.strict diagnostic) query') :
    diagnostic.isError = true ∧ query' ≠ query := by
  induction equal : query.level using Nat.strong_induction_on generalizing query query' with
  | h level induction =>
      cases stops_of_run_check failed with
      | reported going error =>
          refine ⟨error, fun same => ?_⟩
          rcases going.grows with ⟨added, grown, _⟩
          have longer := congrArg (·.log.entries.length) same
          simp [Log.add, grown] at longer
      | @passed _ _ _ id going found here failed' =>
          have below := equal ▸ Query.level_lt_of_get? found
          rcases induction _ below failed' rfl with ⟨error, changed⟩
          refine ⟨error, fun same => changed ?_⟩
          have found' := congrArg (·.arena.get? id) same
          dsimp only at found'
          rw [Arena.get?_set here, if_pos rfl, found] at found'
          exact Pattern.subquery.inj (Option.some.inj found')

/-! ## Operations that fail -/

theorem run_check_of_operation {query query' : Query} {failure : Failure}
    (failed : Operation.check.run.run query = .error failure query') :
    check.run query = .error failure query' := by
  rw [Operation.run, map_eq_pure_bind, EStateM.run_bind] at failed
  cases run : check.run query with
  | ok correct after =>
      rw [run] at failed
      cases failed
  | error failure' after =>
      rw [run] at failed
      cases failed
      rfl

/-- A check that raises the failure itself does not pass it on: the subqueries that it met are
checked, and the others are as they were. -/
theorem not_passesOn_of_going {start query : Query} {diagnostic : Diagnostic}
    (going : start.Going query) : ¬ start.PassesOn query diagnostic := by
  intro holds
  rcases holds with ⟨id, sub, sub', found, failed, here⟩
  rcases going.parts id sub' here with ⟨first, found', same | ⟨correct, run⟩⟩
  · rcases Pattern.subquery.inj (Option.some.inj (found.symm.trans found')) with rfl
    exact (isError_and_ne_of_run_check failed).2 same
  · rcases Pattern.subquery.inj (Option.some.inj (found.symm.trans found')) with rfl
    cases run.symm.trans failed

theorem marked_iff_of_going {start query : Query} {diagnostic : Diagnostic}
    (going : start.Going query) (strict : start.options.strict = true)
    (error : diagnostic.isError = true) : query.Marked diagnostic ↔ start.Marked diagnostic := by
  rcases going.grows with ⟨added, grown, plain⟩
  constructor
  · intro holds
    rcases holds with ⟨incorrect, reported⟩
    refine ⟨(going.correct strict).symm.trans incorrect, ?_⟩
    rw [grown] at reported
    refine (List.mem_append.mp reported).resolve_right fun member => ?_
    exact absurd error (Bool.eq_false_iff.mp (plain strict diagnostic member))
  · intro holds
    rcases holds with ⟨incorrect, reported⟩
    refine ⟨(going.correct strict).trans incorrect, ?_⟩
    rw [grown]
    exact List.mem_append_left _ reported

/-- A strict failure marks the query, unless a check passes on the failure of a subquery. This is
the only exception: a strict query is then marked only if it was before. -/
theorem strict_marks {query query' : Query} {operation : Operation} {diagnostic : Diagnostic}
    (failed : operation.run.run query = .error (.strict diagnostic) query') :
    (query'.Marked diagnostic ∨
      operation = .check ∧ query.PassesOn query' diagnostic) ∧
    (query.options.strict = true →
      (query'.Marked diagnostic ↔
        ¬ (operation = .check ∧ query.PassesOn query' diagnostic) ∨ query.Marked diagnostic)) := by
  by_cases checks : operation = .check
  · subst checks
    have failed' := run_check_of_operation failed
    have error := (isError_and_ne_of_run_check failed').1
    cases stops_of_run_check failed' with
    | @reported middle going _ =>
        have marked : Query.Marked { middle with log := middle.log.add diagnostic } diagnostic :=
          Query.marked_of_add rfl error
        have raised : ¬ query.PassesOn middle diagnostic := not_passesOn_of_going going
        exact ⟨.inl marked, fun _ => iff_of_true marked (.inl fun passes => raised passes.2)⟩
    | @passed middle sub sub' id going found here run =>
        have passes : query.PassesOn
            { middle with arena := middle.arena.set id (.subquery sub') } diagnostic :=
          ⟨id, sub, sub', found, run, (Arena.get?_set here id).trans (if_pos rfl)⟩
        refine ⟨.inr ⟨rfl, passes⟩, fun strict => ?_⟩
        rw [or_iff_right (not_not_intro ⟨rfl, passes⟩), ← marked_iff_of_going going strict error]
        exact ⟨fun marked => ⟨marked.1, marked.2⟩, fun marked => ⟨marked.1, marked.2⟩⟩
  · have builds : Builds .all (fun _ => True) query operation.run :=
      Operation.builds_run operation.within_all checks (fun _ _ => trivial) query
    have raised := ((builds query (.refl query)).of_error failed).2
    rcases raised diagnostic rfl with ⟨error, _, log, raised⟩
    have marked := Query.marked_of_add raised error
    exact ⟨.inl marked, fun _ => iff_of_true marked (.inl fun passes => checks passes.1)⟩

def rebinding : Query :=
  (Operation.setBody 2).run.after
    ((Operation.group [0, 1]).run.after
      ((Operation.bind (.const (.iri "b")) (.ofName "x")).run.after
        ((Operation.bind (.const (.iri "a")) (.ofName "x")).run.after
          { options := { strict := true } })))

def aroundRebinding : Query :=
  (Operation.setBody 0).run.after
    ((Operation.subquery rebinding).run.after { options := { strict := true } })

theorem rebinding_reachable : rebinding.Reachable := by
  have empty : Query.Reachable { options := { strict := true } } := .empty _ _ _ _
  exact .step _ (.step _ (.step _ (.step _ empty trivial nofun) trivial nofun) trivial nofun)
    trivial nofun

theorem aroundRebinding_reachable : aroundRebinding.Reachable := by
  refine .step _ (.step _ (.empty _ _ _ _) trivial ?_) trivial nofun
  intro sub equal
  cases equal
  exact rebinding_reachable

theorem run_check_aroundRebinding :
    Operation.check.run.run aroundRebinding =
      .error (.strict (Problem.targetBound "?x").toDiagnostic)
        (Operation.check.run.after aroundRebinding) := by
  rfl

theorem aroundRebinding_unmarked :
    aroundRebinding.Reachable ∧
      Operation.check.run.run aroundRebinding =
        .error (.strict (Problem.targetBound "?x").toDiagnostic)
          (Operation.check.run.after aroundRebinding) ∧
      ¬ (Operation.check.run.after aroundRebinding).Marked
        (Problem.targetBound "?x").toDiagnostic := by
  refine ⟨aroundRebinding_reachable, run_check_aroundRebinding, fun marked => ?_⟩
  exact absurd marked.incorrect (by decide)

theorem aroundRebinding_strict_marks :
    ((Operation.check.run.after aroundRebinding).Marked
        (Problem.targetBound "?x").toDiagnostic ∨
      Operation.check = .check ∧
        aroundRebinding.PassesOn (Operation.check.run.after aroundRebinding)
          (Problem.targetBound "?x").toDiagnostic) ∧
    (aroundRebinding.options.strict = true →
      ((Operation.check.run.after aroundRebinding).Marked
          (Problem.targetBound "?x").toDiagnostic ↔
        ¬ (Operation.check = .check ∧
          aroundRebinding.PassesOn (Operation.check.run.after aroundRebinding)
            (Problem.targetBound "?x").toDiagnostic) ∨
        aroundRebinding.Marked (Problem.targetBound "?x").toDiagnostic)) :=
  strict_marks run_check_aroundRebinding

end Build

end Sparql
