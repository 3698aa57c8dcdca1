import Sparql.Proofs.Check.Levels
import Sparql.Proofs.Normalize.Frame

/-!
Operations that leave the clauses of a query as they are. Only those do not that set a clause,
normalize or check: `keepsClauses_run`. A property of the clauses that outlasts the stages of
normalizing, or the completion of the projection, outlasts normalizing and checking.
-/

namespace Sparql

def Operation.concernsClauses : Operation → Bool
  | setForm _ | setDataUpdate _ | setBody _ | setConstruct _ | setInsert _ | setDelete _
  | select _ _ | setSelectAll _ | setDistinct _ | setReduced _ | describe _ | groupBy _ | having _
  | orderBy _ _ | setLimit _ | setOffset _ | setValues _ | normalize | check => true
  | _ => false

namespace Build

variable {α : Type} {kept : Clauses}

abbrev KeepsClauses (kept : Clauses) (x : Build α) : Prop :=
  Preserves (·.clauses = kept) (fun _ query => query.clauses = kept) x

/-! ## Single steps -/

theorem keepsClauses_modify {change : Query → Query}
    (same : ∀ query, (change query).clauses = query.clauses) :
    KeepsClauses kept (modify change) :=
  preserves_modify fun query holds => (same query).trans holds

theorem keepsClauses_inspect (look : Arena Query → Except Failure α) :
    KeepsClauses kept (inspect look) :=
  preserves_inspect fun _ _ holds _ => holds

theorem keepsClauses_push (p : Pattern Query) : KeepsClauses kept (push p) := fun _ => id

theorem keepsClauses_around (id : PatternId) {x : Build α} (keeps : KeepsClauses kept x) :
    KeepsClauses kept (do known id; x) :=
  (keepsClauses_inspect _).discard.bind fun _ => keeps

def Steps.unclaused : Steps :=
  ⟨fun query query' => query'.clauses = query.clauses, fun _ => True, fun _ => True⟩

theorem complains_unclaused : Steps.unclaused.Complains := fun _ _ => trivial

theorem refuses_unclaused : Steps.unclaused.Refuses := fun _ _ => trivial

theorem changes_defers_unclaused : Steps.unclaused.Changes Defers := by
  rintro query _ ⟨key, count, rfl⟩
  rfl

theorem Takes.keepsClauses {x : Build α} (takes : Takes .unclaused x) : KeepsClauses kept x :=
  takes.preserves (fun _ _ same _ holds => same.trans holds) fun _ _ => id

/-! ## Terms, triples and collections -/

theorem keepsClauses_freshVariable : KeepsClauses kept freshVariable :=
  preserves_get_bind fun _ => id

theorem keepsClauses_freshLabel : KeepsClauses kept freshLabel := preserves_get_bind fun _ => id

theorem keepsClauses_blank (label : Option String) : KeepsClauses kept (blank label) := by
  cases label with
  | some label => exact preserves_pure _
  | none => exact keepsClauses_freshLabel.bind fun _ => preserves_pure _

theorem keepsClauses_blankConstant (label : Option String) :
    KeepsClauses kept (blankConstant label) := by
  cases label with
  | some label => exact preserves_pure _
  | none => exact keepsClauses_freshLabel.bind fun _ => preserves_pure _

theorem keepsClauses_triple (subject : Expr) (predicate : Predicate) (object : Expr) :
    KeepsClauses kept (triple subject predicate object) := by
  rw [triple_eq]
  apply (takes_planned complains_unclaused predicate.path).keepsClauses.bind
  intro path query holds
  exact .of_run_ok (run_placeTriple subject predicate.node object path query) holds

theorem keepsClauses_addToGroup (id child : PatternId) :
    KeepsClauses kept (addToGroup id child) := by
  apply keepsClauses_around
  exact (keepsClauses_inspect _).bind fun children => keepsClauses_modify fun _ => rfl

theorem keepsClauses_cells (pairs : List (Expr × Expr)) : KeepsClauses kept (cells pairs) := by
  induction pairs with
  | nil => exact preserves_pure _
  | cons pair rest induction =>
      have cell (node item next : Expr) : KeepsClauses kept (cell node item next) := by
        apply (keepsClauses_triple node _ item).bind
        intro first
        exact (keepsClauses_triple node _ next).bind fun rest => preserves_pure _
      apply (cell _ _ _).bind
      intro first
      exact induction.bind fun others => preserves_pure _

theorem keepsClauses_collection (items : List Expr) : KeepsClauses kept (collection items) := by
  apply Preserves.bind
  · exact preserves_mapM fun _ _ => (keepsClauses_blank none).bind fun _ => preserves_pure _
  · exact fun nodes => (keepsClauses_cells _).bind fun ids => keepsClauses_push _

/-! ## Operations -/

theorem keepsClauses_run {operation : Operation} (apart : operation.concernsClauses = false) :
    KeepsClauses kept operation.run := by
  have complains := complains_unclaused
  have refuses := refuses_unclaused
  have calls (name : String) (args : List Expr) (distinct : Bool) (separator : Option String) :
      KeepsClauses kept (Build.aggregate name args distinct separator) :=
    (takes_aggregate complains changes_defers_unclaused name args _ _).keepsClauses
  cases operation with
  | setNamespaces _ | setSubmitting _ =>
      exact Preserves.map (keepsClauses_modify (by exact fun _ => rfl)) _
  | freshVariable => exact keepsClauses_freshVariable.map _
  | blank label => exact (keepsClauses_blank label).map _
  | blankConstant label => exact (keepsClauses_blankConstant label).map _
  | prefixedName name => exact (takes_prefixedName complains name).keepsClauses.map _
  | literal label datatype lang =>
      exact (takes_literal complains label datatype lang).keepsClauses.map _
  | number label => exact (takes_number refuses label).keepsClauses.map _
  | call name args => exact (calls name args _ _).map _
  | aggregate name args distinct separator => exact (calls name args _ _).map _
  | patternExists id negated => exact (takes_patternExists refuses id negated).keepsClauses.map _
  | pathOperator symbol operand =>
      exact (takes_pathOperator refuses symbol operand).keepsClauses.map _
  | repeated least most operand =>
      exact (takes_repeated refuses least most operand).keepsClauses.map _
  | pathPair symbol left right =>
      exact (takes_pathPair refuses symbol left right).keepsClauses.map _
  | pathPredicate path => exact Preserves.map (preserves_get_bind fun _ => id) _
  | triple subject predicate object => exact (keepsClauses_triple subject predicate object).map _
  | group _ | filter _ | bind _ _ | values _ | subquery _ => exact (keepsClauses_push _).map _
  | addToGroup id child => exact (keepsClauses_addToGroup id child).map _
  | union left right =>
      exact (keepsClauses_around left (keepsClauses_around right (keepsClauses_push _))).map _
  | optional body | minus body | service _ _ body | graph _ body =>
      exact (keepsClauses_around body (keepsClauses_push _)).map _
  | collection items => exact (keepsClauses_collection items).map _
  | collectionHead id => exact (takes_collectionHead refuses id).keepsClauses.map _
  | define name params body =>
      have defines : Steps.unclaused.Changes Defines := by
        rintro query _ ⟨definition, rfl⟩
        rfl
      exact (takes_define complains defines name params body).keepsClauses.map _
  | setForm _ | setDataUpdate _ | setBody _ | setConstruct _ | setInsert _ | setDelete _
  | select _ _ | setSelectAll _ | setDistinct _ | setReduced _ | describe _ | groupBy _ | having _
  | orderBy _ _ | setLimit _ | setOffset _ | setValues _ | normalize | check => cases apart

/-! ## Properties of the clauses -/

abbrev PreservesClauses (property : Clauses → Prop) (x : Build α) : Prop :=
  Preserves (property ·.clauses) (fun _ query => property query.clauses) x

variable {property : Clauses → Prop}

theorem preservesClauses_run {operation : Operation} (apart : operation.concernsClauses = false) :
    PreservesClauses property operation.run := by
  intro query holds
  apply (keepsClauses_run apart query rfl).imp
  · exact fun _ _ same => same ▸ holds
  · exact fun _ _ same => same ▸ holds

theorem preservesClauses_modifyClauses {change : Clauses → Clauses}
    (keeps : ∀ clauses, property clauses → property (change clauses)) :
    PreservesClauses property (modifyClauses change) :=
  fun query holds => keeps query.clauses holds

theorem preservesClauses_setKnown (id : PatternId) {change : Clauses → Clauses}
    (keeps : ∀ clauses, property clauses → property (change clauses)) :
    PreservesClauses property (do known id; modifyClauses change) :=
  (preserves_inspect fun _ _ holds _ => holds).discard.bind fun _ =>
    preservesClauses_modifyClauses keeps

theorem preservesClauses_normalize
    (settles : ∀ {known : String → Prop} {clauses clauses' : Clauses},
      property clauses → clauses.Resolves known clauses' → property clauses')
    (forms : PreservesClauses property normalizeForm) : PreservesClauses property normalize := by
  intro query holds
  have same : Ends normalize query (fun _ query' => property query'.clauses)
        (fun _ query' => property query'.clauses) ↔
      Ends (normalizeWith normalize) query (fun _ query' => property query'.clauses)
        fun _ query' => property query'.clauses := by
    rw [Ends, Ends, run_normalize_eq]
  rw [same, normalizeWith_eq, ends_bind, ends_get]
  split
  · exact holds
  · apply ((ends_normalizeSubqueries normalize query).imp (fun _ _ => And.right) ?_).bind
    · rintro _ _ rfl
      apply ((ends_resolves_settleCalls (withNormalized query)).imp (fun _ _ => id) ?_).bind
      · intro _ settled resolves
        exact (forms settled (settles holds resolves.clauses)).bind fun _ _ => id
      · exact fun _ stopped resolves => settles holds resolves.clauses
    · rintro _ _ ⟨_, log, rfl⟩
      exact holds

theorem preservesClauses_check
    (projects : ∀ vars, PreservesClauses property (projectAll vars)) :
    PreservesClauses property check := by
  have closed : ClosedUnderCheck check (property ·.clauses) fun _ query => property query.clauses :=
    { report := fun diagnostic query holds _ => by
        rw [ends_report]
        split <;> exact holds
      own := fun _ _ holds => holds
      part := fun _ _ _ holds _ => by
        unfold Ends
        split <;> exact holds
      other := fun _ _ holds _ => holds
      project := fun vars query holds => projects vars query holds
      done := fun _ holds => holds }
  intro query holds
  rw [Ends, check_eq]
  exact preserves_checkWith closed query holds

end Build

end Sparql
