import Sparql.Proofs.Bindable.Projected
import Sparql.Proofs.Check.Correct
import Sparql.Proofs.Check.Untouched
import Sparql.Proofs.Projection

/-!
What a correct check says of the names that are projected. A name that is bound to an expression is
bound in the scope from there on, and binding it again is an error. A variable that stands for
itself is projected once, but nothing is bound by it: an expression may be bound to its name after
it, and is hidden by it: `hides_of_check`.
-/

namespace Sparql

/-! ## Hidden projections -/

/-- The second binds a name that the first has already, though it binds nothing to it: it stands for
itself, or its target stands for a path. -/
def Projection.Hides (first second : Projection) : Prop :=
  first.target.name = second.target.name ∧ second.value.isSome = true ∧
    (first.value = none ∨ first.target.path = true)

/-- Once its name is bound by the first, it is not bound again by the second. -/
def Projection.Apart (first second : Projection) : Prop :=
  first.value.isSome = true → first.target.path = false → second.value.isSome = true →
    first.target.name ≠ second.target.name

namespace Build

variable {query : Query} {checkSub : Build Bool}

/-! ## Bound names -/

theorem ends_vouches_checkItem (bodyVars : List Variable) (scope : Scope) (item : Projection)
    (query : Query) :
    Ends (checkItem checkSub bodyVars scope item) query
      (fun scope' query' =>
        scope' = (if item.value.isSome then scope.bind item.target else scope) ∧
        query.Vouches (item.value.isSome = true → item.target.occursIn scope = false) query')
      fun _ _ => True := by
  have still := (closedUnderCheck_correct checkSub (query.log.correct = true)).visits
  rw [checkItem]
  cases item.value with
  | none =>
      dsimp only
      rw [ends_bind, ends_get]
      split
      · exact ⟨rfl, .of_log rfl (by simp)⟩
      · apply (preserves_problem still _ query id).bind
        exact fun _ _ before => ⟨rfl, fun correct => ⟨before correct, by simp⟩⟩
  | some value =>
      have tested : Preserves (fun query' => query'.log.correct = true → query.log.correct = true)
          (fun _ _ => True)
          (value.patterns.forM fun tested => discard (checkFrom checkSub scope tested)) :=
        preserves_forM fun tested _ => (preserves_checkFrom still scope tested).discard
      dsimp only
      apply (tested query id).bind
      intro _ query₁ before
      split
      · apply (ends_vouches_problem rfl (item.target.occursIn scope = false) query₁).bind
        rintro _ _ ⟨_, vouches⟩
        refine ⟨rfl, fun correct => ?_⟩
        rcases vouches correct with ⟨correct, free⟩
        exact ⟨before correct, fun _ => free⟩
      · next free =>
          exact ⟨rfl, fun correct => ⟨before correct, fun _ => Bool.eq_false_iff.mpr free⟩⟩

theorem ends_vouches_checkItems (bodyVars : List Variable) (scope : Scope)
    (items : List Projection) (query : Query) :
    Ends (items.foldlM (checkItem checkSub bodyVars) scope) query
      (fun _ => query.Vouches (items.Pairwise Projection.Apart ∧
        ∀ item ∈ items, item.value.isSome = true → item.target.occursIn scope = false))
      fun _ _ => True := by
  induction items generalizing scope query with
  | nil => exact .of_log rfl ⟨.nil, nofun⟩
  | cons item rest induction =>
      rw [List.foldlM_cons]
      apply (ends_vouches_checkItem bodyVars scope item query).bind
      rintro _ query₁ ⟨rfl, first⟩
      apply (induction _ query₁).imp _ fun _ _ => id
      intro _ _ others
      refine (first.trans others).imp ?_
      rintro ⟨free, apart, later⟩
      have later (item' : Projection) (member : item' ∈ rest) (bound : item'.value.isSome = true) :
          item'.target.occursIn scope = false ∧ item.Apart item' := by
        have outside := later item' member bound
        split at outside
        · next binds =>
            rw [Scope.occursIn_bind, Bool.or_eq_false_iff] at outside
            refine ⟨outside.1, fun _ plain _ same => ?_⟩
            simp [Scope.ordinary, plain, Variable.occursIn, Variable.same, same] at outside
        · next binds => exact ⟨outside, fun here => absurd here binds⟩
      refine ⟨List.pairwise_cons.mpr ⟨fun item' member here plain bound => ?_, apart⟩,
        List.forall_mem_cons.mpr ⟨free, fun item' member bound => (later item' member bound).1⟩⟩
      exact (later item' member bound).2 here plain bound

/-! ## The projection of a correct query -/

theorem pairwise_apart_of_check {query' : Query} (new : query.checked = false)
    (run : check.run query = .ok true query') :
    query.clauses.select.Pairwise Projection.Apart := by
  suffices ends : Ends (checkWith check) query
      (fun correct _ => correct = true → query.clauses.select.Pairwise Projection.Apart)
      fun _ _ => True by
    rw [check_eq] at run
    exact ends.of_ok run rfl
  have closed := closedUnderVisits_clauses check (· = query.clauses)
  have later := closedUnderCheck_correct check (query.clauses.select.Pairwise Projection.Apart)
  rw [checkWith, ends_bind, ends_get, if_neg (Bool.eq_false_iff.mp new), ends_bind, ends_modify]
  apply (preserves_checkBody closed _ (by exact rfl)).bind
  intro scope query₁ same
  apply (preserves_checkGroundData closed query₁ same).bind
  intro _ query₂ same
  apply (preserves_checkTemplates closed query₂ same).bind
  intro _ query₃ same
  have selected : Ends (checkSelect check scope) query₃
      (fun _ query' => query'.log.correct = true →
        query.clauses.select.Pairwise Projection.Apart)
      fun _ _ => True := by
    apply (preserves_bodyVariables closed query₃ same).bind
    intro bodyVars query₄ same
    apply (preserves_checkTrailing closed bodyVars scope query₄ same).bind
    rintro ⟨bodyVars, scope⟩ query₅ same
    rw [ends_bind, ends_get, same, ends_bind, ends_discard]
    apply (ends_vouches_checkItems bodyVars scope query.clauses.select query₅).imp _ fun _ _ => id
    intro _ query₆ vouches
    have apart : query₆.log.correct = true → query.clauses.select.Pairwise Projection.Apart :=
      fun correct => (vouches correct).2.1
    rw [ends_bind, ends_get]
    dsimp only
    split
    · exact later.project _ query₆ apart
    · exact apart
  apply selected.bind
  intro _ query₄ apart
  apply (preserves_checkGrouping later.visits query₄ apart).bind
  exact fun _ _ apart => apart

theorem selectedValue?_of_apart {clauses : Clauses} {before after : List Projection}
    {item : Projection} {value : Expr} (select : clauses.select = before ++ item :: after)
    (bound : item.value = some value)
    (apart : ∀ first ∈ before, first.target.name ≠ item.target.name) :
    clauses.selectedValue? item.target = some value := by
  have passed : before.find? (·.target.same item.target) = none := by
    rw [List.find?_eq_none]
    exact fun first member same => apart first member (beq_iff_eq.mp same)
  have here : (item :: after).find? (·.target.same item.target) = some item :=
    List.find?_cons_of_pos (beq_self_eq_true item.target.name)
  rw [Clauses.selectedValue?, select, List.find?_append, passed, Option.none_or, here,
    Option.bind_some, bound]

/-- Where a first check finds a query correct, whatever was projected and in whatever order, a name
is projected twice only where the first binds nothing to it and hides the second. So the names are
pairwise different exactly if nothing is hidden, and each expression that is not hidden is found by
the name that it is bound to. -/
theorem hides_of_check {query' : Query} (reachable : query.Reachable)
    (new : query.checked = false) (run : check.run query = .ok true query') :
    query'.clauses.select.Pairwise (fun first second =>
        first.target.name = second.target.name → first.Hides second) ∧
      ((query'.clauses.selected.map (·.name)).Nodup ↔
        query'.clauses.select.Pairwise fun first second => ¬ first.Hides second) ∧
      ∀ before item after value, query'.clauses.select = before ++ item :: after →
        item.value = some value → (∀ first ∈ before, ¬ first.Hides item) →
          query'.clauses.selectedValue? item.target = some value := by
  have once : query'.clauses.PlainlyOnce :=
    (projectsOnce_check query reachable.plainlyOnce).of_ok run
  have apart : query'.clauses.select.Pairwise Projection.Apart := by
    have completes := (untouched_check query).alike.clauses
    rw [after_of_run_ok run] at completes
    rcases completes with ⟨added, clauses, _⟩
    rw [clauses]
    refine List.pairwise_append.mpr ⟨pairwise_apart_of_check new run, ?_, fun _ _ item member => ?_⟩
    · exact List.pairwise_map.mpr (List.pairwise_of_forall fun _ _ _ _ bound => nomatch bound)
    · rcases List.mem_map.mp member with ⟨v, _, rfl⟩
      exact fun _ _ bound => nomatch bound
  have hides : query'.clauses.select.Pairwise fun first second =>
      first.target.name = second.target.name → first.Hides second := by
    refine (once.and apart).imp ?_
    rintro first second ⟨once, apart⟩ same
    have bound : second.value.isSome = true := by
      cases plain : second.value with
      | none => exact absurd same (once plain)
      | some value => rfl
    refine ⟨same, bound, ?_⟩
    by_contra shown
    rw [not_or, Bool.not_eq_true, ← ne_eq, ← Option.isSome_iff_ne_none] at shown
    exact apart shown.1 shown.2 bound same
  refine ⟨hides, ⟨fun distinct => ?_, fun shown => ?_⟩, ?_⟩
  · rw [Clauses.selected, List.map_map, List.Nodup, List.pairwise_map] at distinct
    exact distinct.imp fun different hidden => different hidden.1
  · rw [Clauses.selected, List.map_map, List.Nodup, List.pairwise_map]
    refine (hides.and shown).imp ?_
    exact fun both same => both.2 (both.1 same)
  · intro before item after value select bound shown
    refine selectedValue?_of_apart select bound fun first member same => shown first member ?_
    rw [select, List.pairwise_append] at hides
    exact hides.2.2 first member item (List.mem_cons_self ..) same

/-- A query that projects a variable by itself, and then with an expression bound to it. -/
def plainThenBound : Query :=
  (Operation.select (.ofName "x") (some (.const (.iri "a")))).run.after
    ((Operation.select (.ofName "x") none).run.after {})

theorem plainThenBound_reachable : plainThenBound.Reachable := by
  have empty : Query.Reachable {} := .empty {} _ _ _
  exact .step _ (.step _ empty trivial nofun) trivial nofun

theorem plainThenBound_twice :
    plainThenBound.Reachable ∧
      check.run plainThenBound = .ok true (check.after plainThenBound) ∧
      (check.after plainThenBound).clauses.selected.map (·.name) = ["x", "x"] ∧
      (check.after plainThenBound).clauses.select.map (·.value.isSome) = [false, true] ∧
      (check.after plainThenBound).clauses.selectedValue? (.ofName "x") = none := by
  refine ⟨plainThenBound_reachable, run_of_approves (by decide +kernel), by decide +kernel,
    by decide +kernel, Option.isNone_iff_eq_none.mp (by decide +kernel)⟩

theorem plainThenBound_hides :
    plainThenBound.Reachable ∧ plainThenBound.checked = false ∧
      check.run plainThenBound = .ok true (check.after plainThenBound) ∧
      (check.after plainThenBound).clauses.select.Pairwise (fun first second =>
        first.target.name = second.target.name → first.Hides second) ∧
      (((check.after plainThenBound).clauses.selected.map (·.name)).Nodup ↔
        (check.after plainThenBound).clauses.select.Pairwise fun first second =>
          ¬ first.Hides second) ∧
      ∀ before item after value,
        (check.after plainThenBound).clauses.select = before ++ item :: after →
          item.value = some value → (∀ first ∈ before, ¬ first.Hides item) →
            (check.after plainThenBound).clauses.selectedValue? item.target = some value := by
  have run : check.run plainThenBound = .ok true (check.after plainThenBound) :=
    run_of_approves (by decide +kernel)
  exact ⟨plainThenBound_reachable, rfl, run, hides_of_check plainThenBound_reachable rfl run⟩

end Build

end Sparql
