import Sparql.Proofs.Build.Normalize
import Sparql.Proofs.Check.Frame

/-!
What all operations keep. Operations change a query only in the ways of `Query.ChangesTo`, and so
what these keep holds of every query that is built, and of its subqueries.
-/

namespace Sparql

/-! ## Checking -/

namespace Build

variable {rights : Rights} {may : Query → Prop}

theorem closedUnderCheck_changesTo (checks : rights.checking = true) {checkSub : Build Bool}
    (keepsSub : ∀ sub : Query, Preserves (sub.ChangesTo rights may)
      (fun _ => sub.ChangesTo rights may) checkSub) (start : Query) :
    ClosedUnderCheck checkSub (start.ChangesTo rights may) fun _ => start.ChangesTo rights may where
  report diagnostic query changes _ := by
    rw [ends_report]
    split <;> exact changes.trans (.report query diagnostic fun _ => checks)
  own query _ changes := changes.trans (.similar ⟨rfl, rfl, rfl, rfl, rfl⟩)
  project _ _ changes := changes.trans (.similar ⟨rfl, rfl, rfl, rfl, rfl⟩)
  done query changes := changes.trans (.done query checks)
  part query id sub changes found := by
    refine (keepsSub sub sub (.refl sub)).imp ?_ ?_
    · exact fun _ sub' inner => changes.trans (.part query found inner)
    · exact fun _ sub' inner => changes.trans (.part query found inner)
  other _ _ changes _ := changes

theorem changesTo_checkAt (checks : rights.checking = true) (level : Nat) (start : Query) :
    Preserves (start.ChangesTo rights may) (fun _ => start.ChangesTo rights may)
      (checkAt level) := by
  induction level generalizing start with
  | zero =>
      refine preserves_checkWith (closedUnderCheck_changesTo checks (fun _ => ?_) start)
      exact preserves_pure true
  | succ level induction =>
      exact preserves_checkWith (closedUnderCheck_changesTo checks induction start)

theorem changesTo_check (checks : rights.checking = true) (start : Query) :
    Preserves (start.ChangesTo rights may) (fun _ => start.ChangesTo rights may) check :=
  preserves_get_bind fun query changes => changesTo_checkAt checks _ start query changes

end Build

/-! ## Operations -/

namespace Operation

open Build

variable {rights : Rights} {may : Query → Prop}

def Within (rights : Rights) : Operation → Prop
  | check => rights.checking = true
  | blank none | blankConstant none | collection _ => rights.labelling = true
  | freshVariable | normalize => rights.naming = true
  | _ => True

theorem within_all (operation : Operation) : operation.Within .all := by
  unfold Within
  split <;> trivial

theorem within_building {operation : Operation} (building : operation ≠ .check) :
    operation.Within ⟨false, true, true⟩ := by
  unfold Within
  split
  case h_1 => exact absurd rfl building
  all_goals trivial

theorem builds_run {operation : Operation} (within : operation.Within rights)
    (building : operation ≠ .check) (part : ∀ sub, operation = .subquery sub → may sub)
    (start : Query) : Builds rights may start operation.run := by
  cases operation with
  | setNamespaces namespaces =>
      refine Preserves.map (builds_modify fun _ => ?_) _
      exact ⟨rfl, rfl, rfl, rfl, rfl⟩
  | freshVariable => exact (builds_freshVariable within).map _
  | blank label =>
      refine (builds_blank ?_).map _
      intro equal
      rcases equal with rfl
      exact within
  | blankConstant label =>
      refine (builds_blankConstant ?_).map _
      intro equal
      rcases equal with rfl
      exact within
  | prefixedName name => exact (builds_prefixedName name).map _
  | literal label datatype lang => exact (builds_literal label datatype lang).map _
  | number label => exact (builds_number label).map _
  | call name args => exact (builds_aggregate name args false none).map _
  | aggregate name args distinct separator =>
      exact (builds_aggregate name args distinct separator).map _
  | patternExists id negated => exact (builds_patternExists id negated).map _
  | pathOperator symbol operand => exact (builds_pathOperator symbol operand).map _
  | repeated least most operand => exact (builds_repeated least most operand).map _
  | pathPair symbol left right => exact (builds_pathPair symbol left right).map _
  | pathPredicate path => exact (builds_pathPredicate path).map _
  | triple subject predicate object => exact (builds_triple subject predicate object).map _
  | setSubmitting submitting =>
      refine Preserves.map (builds_modify fun _ => ?_) _
      exact ⟨rfl, rfl, rfl, rfl, rfl⟩
  | group children => exact (builds_group children).map _
  | addToGroup id child => exact (builds_addToGroup id child).map _
  | union left right => exact (builds_union left right).map _
  | optional body => exact (builds_optional body).map _
  | minus body | service _ _ body | graph _ body =>
      exact ((builds_known body).bind fun _ => builds_push (by nofun) (by nofun)).map _
  | filter _ | bind _ _ | values _ => exact (builds_push (by nofun) (by nofun)).map _
  | subquery sub =>
      refine Preserves.map (fun query changes => ?_) _
      refine (ends_push changes (by nofun) ?_).imp (fun _ _ => And.left) fun _ _ => False.elim
      intro sub' equal
      cases equal
      exact part sub rfl
  | collection items => exact (builds_collection within items).map _
  | collectionHead id => exact (builds_collectionHead id).map _
  | setBody id | setConstruct id | setInsert id | setDelete id =>
      exact (builds_setClause id _).map _
  | setForm _ | setDataUpdate _ | select _ _ | setSelectAll _ | setDistinct _ | setReduced _
  | describe _ | groupBy _ | having _ | orderBy _ _ | setLimit _ | setOffset _ | setValues _ =>
      exact (builds_modifyClauses _).map _
  | define name params body => exact (builds_define name params body).map _
  | normalize => exact (builds_normalize within).map _
  | check => exact absurd rfl building

theorem changesTo_after {operation : Operation} (within : operation.Within rights)
    (part : ∀ sub, operation = .subquery sub → may sub) (query : Query) :
    query.ChangesTo rights may (operation.run.after query) := by
  by_cases check : operation = .check
  · subst check
    exact ((changesTo_check within query).map Answer.verdict).after (.refl query)
  · have builds := builds_run within check part query
    refine Preserves.after (fun query' changes => ?_) (.refl query)
    exact (builds query' changes).imp (fun _ _ => id) fun _ _ => And.left

end Operation

/-! ## Reachable queries -/

namespace Query

/-- What holds of an empty query, and is kept by every change, holds of every query that is built,
and of its subqueries. -/
theorem BuiltBy.everywhere {may : Operation → Prop} {rights : Rights} {property : Query → Prop}
    (within : ∀ operation, may operation → operation.Within rights)
    (empty : ∀ options namespaces library labelOrder,
      property { options, namespaces, library, labelOrder })
    (keeps : ∀ query query' : Query,
      query.ChangesTo rights (fun sub => sub.Everywhere property) query' →
      property query → property query')
    {query : Query} (built : query.BuiltBy may) : query.Everywhere property := by
  induction built with
  | empty options namespaces library labelOrder =>
      exact .alone (empty options namespaces library labelOrder) rfl
  | step operation _ allowed _ before parts =>
      have changes := Operation.changesTo_after (within operation allowed) parts
      exact (changes _).everywhere keeps (fun _ => id) before

theorem Reachable.cellsAreTriples {query : Query} (reachable : query.Reachable) :
    query.Everywhere (·.arena.CellsAreTriples) :=
  reachable.everywhere (fun operation _ => operation.within_all)
    (fun _ _ _ _ id head cells found => by simp [Arena.get?] at found)
    fun _ _ changes => changes.cellsAreTriples

theorem Unchecked.fresh {query : Query} (unchecked : query.Unchecked) :
    query.Everywhere Fresh :=
  BuiltBy.everywhere (fun _ building => Operation.within_building building)
    (fun _ _ _ _ => ⟨rfl, by simp⟩) (fun _ _ changes => changes.fresh rfl) unchecked

end Query

end Sparql
