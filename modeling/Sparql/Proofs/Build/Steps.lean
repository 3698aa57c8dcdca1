import Sparql.Proofs.Changes
import Sparql.Proofs.Failures

/-!
The single steps of building: each changes a query only in the ways of `Query.ChangesTo`, whether it
returns or fails.
-/

namespace Sparql.Build

variable {α : Type} {rights : Rights} {may : Query → Prop} {start : Query}

/-- The operation changes the query by building alone, since it was as it was at the start. -/
abbrev Builds (rights : Rights) (may : Query → Prop) (start : Query) (x : Build α) : Prop :=
  Preserves (start.ChangesTo rights may)
    (fun failure query => start.ChangesTo rights may query ∧ failure.RaisedIn rights query) x

/-! ## Single steps -/

theorem raisedIn_of_not_strict {failure : Failure} (plain : failure.isStrict = false)
    (query : Query) : failure.RaisedIn rights query := by
  intro diagnostic equal
  subst equal
  cases plain

theorem builds_report {diagnostic : Diagnostic}
    (fits : diagnostic.code = .blankNodeScope → rights.checking = true) :
    Builds rights may start (report diagnostic) := by
  intro query changes
  have changes' := changes.trans (.report query diagnostic fits)
  rw [ends_report]
  split
  · next strict =>
      refine ⟨changes', fun diagnostic' equal => ?_⟩
      cases equal
      exact ⟨(Bool.and_eq_true _ _ ▸ strict).1, fits, query.log, rfl⟩
  · exact changes'

theorem builds_problem {p : Problem} (unshared : ∀ label, p ≠ .blankShared label) :
    Builds rights may start (problem p) := by
  refine builds_report fun shared => ?_
  cases p with
  | blankShared label => exact absurd rfl (unshared label)
  | _ => cases shared

theorem builds_throw {failure : Failure} (plain : failure.isStrict = false) :
    Builds rights may start (throw failure : Build α) :=
  preserves_throw fun query changes => ⟨changes, raisedIn_of_not_strict plain query⟩

theorem builds_look {look : Arena Query → Except Failure α} (plain : Plain look) :
    Builds rights may start (inspect look) :=
  preserves_inspect fun query _ changes failed =>
    ⟨changes, raisedIn_of_not_strict (plain _ _ failed) query⟩

theorem builds_ite {condition : Prop} [Decidable condition] {x y : Build α}
    (yes : Builds rights may start x) (no : Builds rights may start y) :
    Builds rights may start (if condition then x else y) := by
  split
  · exact yes
  · exact no

theorem builds_known (id : PatternId) : Builds rights may start (known id) :=
  (builds_look (plain_get id)).discard

theorem builds_modify {change : Query → Query}
    (similar : ∀ query : Query, query.Similar (change query)) :
    Builds rights may start (modify change) :=
  preserves_modify fun query changes => changes.trans (.similar (similar query))

theorem builds_modifyClauses (change : Clauses → Clauses) :
    Builds rights may start (modifyClauses change) :=
  builds_modify fun _ => ⟨rfl, rfl, rfl, rfl, rfl⟩

theorem ends_push {p : Pattern Query} {query : Query} (changes : start.ChangesTo rights may query)
    (cells : ∀ head cells, p = .collection head cells →
      ∀ cell ∈ cells, query.arena.HoldsTriple cell)
    (part : ∀ sub, p = .subquery sub → may sub) :
    Ends (push p) query
      (fun id query' => start.ChangesTo rights may query' ∧ query'.arena.get? id = some p)
      fun _ _ => False := by
  refine ⟨changes.trans (.push query p cells part), ?_⟩
  exact (Arena.get?_push _ _ _).trans (if_pos rfl)

theorem builds_push {p : Pattern Query} (plain : p.kind ≠ .collection)
    (whole : p.kind ≠ .subquery) : Builds rights may start (push p) := by
  intro query changes
  refine (ends_push changes ?_ ?_).imp (fun _ _ => And.left) fun _ _ => False.elim
  · intro head cells equal
    rcases equal with rfl
    exact absurd rfl plain
  · intro sub equal
    rcases equal with rfl
    exact absurd rfl whole

end Sparql.Build
