import Sparql.Proofs.Build.Terms

/-!
Making patterns builds: a made triple is in the arena, and so the cells of a collection are triples
when the collection is added.
-/

namespace Sparql.Build

variable {α : Type} {rights : Rights} {may : Query → Prop} {start : Query}

/-! ## Triples -/

theorem faults_unshared (e : Expr) (p : Problem) (member : p ∈ Path.faults e) (label : String) :
    p ≠ .blankShared label := by
  rintro rfl
  cases Path.code_of_mem_faults member

theorem builds_problems {found : List Problem}
    (unshared : ∀ p ∈ found, ∀ label, p ≠ .blankShared label) :
    Builds rights may start (problems found) := by
  induction found with
  | nil => exact preserves_pure _
  | cons first rest induction =>
      refine (builds_problem (unshared first (List.mem_cons_self ..))).bind fun _ => ?_
      exact induction fun p member => unshared p (List.mem_cons_of_mem _ member)

theorem builds_planPath (path : Expr) : Builds rights may start (planPath path) :=
  preserves_get_bind fun query changes =>
    ((builds_problems (faults_unshared _)).bind fun _ => preserves_pure _) query changes

theorem ends_triple (subject : Expr) (predicate : Predicate) (object : Expr) {query : Query}
    (changes : start.ChangesTo rights may query) :
    Ends (triple subject predicate object) query
      (fun id query' => start.ChangesTo rights may query' ∧ query'.arena.HoldsTriple id)
      fun failure query' =>
        start.ChangesTo rights may query' ∧ failure.RaisedIn rights query' := by
  have planned : Builds rights may start (predicate.path.mapM planPath) := by
    cases predicate.path with
    | none => exact preserves_pure _
    | some path => exact (builds_planPath path).map _
  refine (planned query changes).bind fun path query changes => ?_
  rw [ends_bind, ends_get, ends_bind, ends_modify, ends_bind]
  have counted : query.ChangesTo rights may
      { query with supply.triples := query.supply.triples + 1 } :=
    .similar ⟨rfl, rfl, rfl, rfl, rfl⟩
  refine (ends_push (changes.trans counted) (by nofun) (by nofun)).imp ?_ fun _ _ => False.elim
  intro id query' holds
  rcases holds with ⟨changes', found⟩
  rw [ends_bind, ends_get]
  split
  · exact ⟨changes'.trans (.similar ⟨rfl, rfl, rfl, rfl, rfl⟩), _, found⟩
  · exact ⟨changes', _, found⟩

theorem builds_triple (subject : Expr) (predicate : Predicate) (object : Expr) :
    Builds rights may start (triple subject predicate object) :=
  fun _ changes => (ends_triple subject predicate object changes).imp (fun _ _ => And.left)
    fun _ _ => id

theorem builds_group (children : List PatternId) : Builds rights may start (group children) :=
  builds_push (by nofun) (by nofun)

theorem builds_union (left right : PatternId) : Builds rights may start (union left right) :=
  (builds_known left).bind fun _ => (builds_known right).bind fun _ =>
    builds_push (by nofun) (by nofun)

theorem builds_optional (body : PatternId) : Builds rights may start (optional body) :=
  (builds_known body).bind fun _ => builds_push (by nofun) (by nofun)

theorem builds_addToGroup (id child : PatternId) :
    Builds rights may start (addToGroup id child) := by
  refine (builds_known child).bind fun _ query changes => ?_
  rw [ends_bind, ends_inspect]
  split
  · next children found =>
      exact changes.trans (.join query (Arena.group_eq_ok.mp found) child)
  · next failure failed =>
      exact ⟨changes, raisedIn_of_not_strict (plain_group id _ _ failed) query⟩

/-! ## Collections -/

theorem Ends.since {x : Build α} {query : Query} {returns : α → Query → Prop}
    (changes : start.ChangesTo rights may query)
    (ends : Ends x query (fun value query' => query.ChangesTo rights may query' ∧
      returns value query')
      fun failure query' => query.ChangesTo rights may query' ∧
        failure.RaisedIn rights query') :
    Ends x query
      (fun value query' => start.ChangesTo rights may query' ∧
        query.ChangesTo rights may query' ∧ returns value query')
      fun failure query' => start.ChangesTo rights may query' ∧
        failure.RaisedIn rights query' :=
  ends.imp (fun _ _ holds => ⟨changes.trans holds.1, holds⟩)
    fun _ _ holds => ⟨changes.trans holds.1, holds.2⟩

theorem ends_cell (node item next : Expr) (query : Query) :
    Ends (cell node item next) query
      (fun ids query' => query.ChangesTo rights may query' ∧
        ∀ id ∈ ids, query'.arena.HoldsTriple id)
      fun failure query' => query.ChangesTo rights may query' ∧
        failure.RaisedIn rights query' := by
  apply (ends_triple node _ item (.refl query)).bind
  intro first query₁ holds
  rcases holds with ⟨changes₁, firstHolds⟩
  apply (Ends.since changes₁ (ends_triple node _ next (.refl query₁))).bind
  intro rest query₂ holds
  rcases holds with ⟨changes₂, onward, restHolds⟩
  refine ⟨changes₂, fun id member => ?_⟩
  rcases List.mem_pair.mp member with rfl | rfl
  · exact onward.holdsTriple firstHolds
  · exact restHolds

theorem ends_cells (pairs : List (Expr × Expr)) (query : Query) :
    Ends (cells pairs) query
      (fun ids query' => query.ChangesTo rights may query' ∧
        ∀ id ∈ ids, query'.arena.HoldsTriple id)
      fun failure query' => query.ChangesTo rights may query' ∧
        failure.RaisedIn rights query' := by
  induction pairs generalizing query with
  | nil => exact ⟨.refl query, nofun⟩
  | cons pair rest induction =>
      apply (ends_cell pair.1 pair.2 _ query).bind
      intro first query₁ holds
      rcases holds with ⟨changes₁, firstHold⟩
      apply (Ends.since changes₁ (induction query₁)).bind
      intro others query₂ holds
      rcases holds with ⟨changes₂, onward, othersHold⟩
      refine ⟨changes₂, fun id member => ?_⟩
      rcases List.mem_append.mp member with member | member
      · exact onward.holdsTriple (firstHold id member)
      · exact othersHold id member

theorem builds_collection (labels : rights.labelling = true) (items : List Expr) :
    Builds rights may start (collection items) := by
  refine (preserves_mapM fun _ _ =>
    (builds_blank fun _ => labels).bind fun _ => preserves_pure _).bind ?_
  intro nodes query changes
  apply (Ends.since changes (ends_cells _ query)).bind
  intro ids query' holds
  rcases holds with ⟨changes', _, hold⟩
  refine (ends_push changes' ?_ (by nofun)).imp (fun _ _ => And.left) fun _ _ => False.elim
  intro head cells equal cell member
  cases equal
  exact hold cell member

theorem builds_collectionHead (id : PatternId) :
    Builds rights may start (collectionHead id) := by
  refine (builds_look (plain_get id)).bind fun p => ?_
  cases p with
  | collection head cells => exact preserves_pure _
  | _ => exact builds_throw rfl

/-! ## Clauses -/

theorem builds_setClause (id : PatternId) (change : Clauses → Clauses) :
    Builds rights may start (do
      known id
      modifyClauses change) :=
  (builds_known id).bind fun _ => builds_modifyClauses change

theorem builds_define (name : String) (params : List Variable) (body : Expr) :
    Builds rights may start (define name params body) :=
  (builds_calledName name).bind fun _ =>
    builds_modify fun _ => ⟨rfl, rfl, rfl, rfl, rfl⟩

end Sparql.Build
