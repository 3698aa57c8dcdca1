import Sparql.Build.Calls
import Sparql.Build.Clauses
import Sparql.Build.Paths
import Sparql.Build.Patterns
import Sparql.Proofs.Calls.Places
import Sparql.Proofs.Path.Faults
import Sparql.Proofs.Steps.Basic

/-!
The steps of making terms, calls, paths, patterns and clauses. Names, calls and paths may be
complained about, missing patterns are refused, and what else changes keeps expressions and
subqueries in their places.
-/

namespace Sparql.Build

variable {α : Type} {steps : Steps}

/-! ## Terms -/

section

variable (complains : steps.Complains)

include complains

theorem takes_expand (name : String) : Takes steps (expand name) := by
  apply Takes.ask (fun _ => rfl)
  intro query
  dsimp only
  split
  · exact .pure _
  · split
    · exact .pure _
    · split
      · exact .pure _
      · exact (takes_problem complains (by nofun)).bind fun _ => .pure _

theorem takes_calledName (name : String) : Takes steps (calledName name) := by
  rw [calledName]
  split
  · exact .ask (fun _ => rfl) fun _ => .pure _
  · split
    · exact .pure _
    · split
      · exact (takes_expand complains name).bind fun _ => .pure _
      · exact .pure _

theorem takes_prefixedName (name : String) : Takes steps (prefixedName name) :=
  (takes_expand complains name).bind fun _ => .pure _

theorem takes_literal (label : String) (datatype lang : Option String) :
    Takes steps (literal label datatype lang) := by
  unfold literal
  split
  · exact .pure _
  · exact (takes_expand complains _).bind fun _ => .pure _
  · exact .pure _

end

section

variable (changes : steps.Changes Query.Alike)

include changes

theorem takes_modify {change : Query → Query} (quiet : Quiet change)
    (alike : ∀ query : Query, query.Alike (change query)) : Takes steps (modify change) :=
  .modify quiet fun query => changes _ _ (alike query)

theorem takes_freshVariable : Takes steps freshVariable := by
  apply Takes.ask (fun _ => rfl)
  intro query
  apply (takes_modify changes ?_ ?_).bind fun _ => .pure _
  · exact ⟨fun _ => rfl, fun _ => rfl, fun _ => rfl⟩
  · exact fun query => ⟨rfl, rfl, rfl, 0, by simp⟩

theorem takes_freshLabel : Takes steps freshLabel := by
  apply Takes.ask (fun _ => rfl)
  intro query
  apply (takes_modify changes ?_ ?_).bind fun _ => .pure _
  · exact ⟨fun _ => rfl, fun _ => rfl, fun _ => rfl⟩
  · exact fun query => ⟨rfl, rfl, rfl, 0, by simp⟩

theorem takes_blank (label : Option String) : Takes steps (blank label) := by
  cases label with
  | some label => exact .pure _
  | none => exact (takes_freshLabel changes).bind fun _ => .pure _

theorem takes_blankConstant (label : Option String) : Takes steps (blankConstant label) := by
  cases label with
  | some label => exact .pure _
  | none => exact (takes_freshLabel changes).bind fun _ => .pure _

theorem takes_pathPredicate (path : Expr) : Takes steps (pathPredicate path) := by
  apply Takes.ask (fun _ => rfl)
  intro query
  apply (takes_modify changes ?_ ?_).bind fun _ => .pure _
  · exact ⟨fun _ => rfl, fun _ => rfl, fun _ => rfl⟩
  · exact fun query => ⟨rfl, rfl, rfl, 0, by simp⟩

end

theorem takes_number (refuses : steps.Refuses) (label : String) : Takes steps (number label) := by
  rw [number]
  split
  · exact .pure _
  · exact .throw (refuses _ rfl)

/-! ## Calls -/

section

variable (complains : steps.Complains)

include complains

theorem takes_checkAggregate (call : Call) (args : List Expr) :
    Takes steps (checkAggregate call args) := by
  have nested : Takes steps (do
      if Expr.anyHasAggregate args then
        problem (.nestedAggregate call.name)) :=
    .ite (takes_problem complains (by nofun)) (.pure _)
  exact .ite nested ((takes_problem complains (by nofun)).bind fun _ => nested)

theorem takes_checkArguments (call : Call) (args : List Expr) :
    Takes steps (checkArguments call args) := by
  rw [checkArguments]
  split
  · exact takes_checkAggregate complains call args
  · split
    · exact .ite (.pure _) (takes_problem complains (by nofun))
    · exact .pure _

theorem takes_checkParameters (key : String) (params found : Nat) :
    Takes steps (checkParameters key params found) :=
  .ite (.pure _) (takes_problem complains (by nofun))

theorem takes_prepareRegex (call : Call) (args : List Expr) (flagsAt : Nat) (widen : Bool) :
    Takes steps (prepareRegex call args flagsAt widen) := by
  apply Takes.ask (fun _ => rfl)
  intro query
  split
  · exact .pure _
  · dsimp only
    split
    · apply Takes.ask (fun _ => rfl)
      intro query
      split
      · exact .pure _
      · exact (takes_problem complains (by nofun)).bind fun _ => .pure _
    · exact .pure _

theorem takes_linkExternal (call : Call) : Takes steps (linkExternal call) := by
  rw [linkExternal]
  split
  · exact .pure _
  · exact (takes_problem complains (by nofun)).bind fun _ => .pure _

def Defers (query query' : Query) : Prop :=
  ∃ key count, query' = { query with functions := query.functions.defer key count }

theorem takes_resolveUser (changes : steps.Changes Defers) (call : Call) (args : List Expr) :
    Takes steps (resolveUser call args) := by
  apply Takes.ask (fun _ => rfl)
  intro query
  split
  · exact (takes_checkParameters complains _ _ _).bind fun _ => .pure _
  · apply (Takes.modify ?_ fun query => changes _ _ ⟨_, _, rfl⟩).bind fun _ => .pure _
    exact ⟨fun _ => rfl, fun _ => rfl, fun _ => rfl⟩

theorem takes_prepare (changes : steps.Changes Defers) (call : Call) (args : List Expr) :
    Takes steps (prepare call args) := by
  apply (takes_checkArguments complains call args).bind
  intro _
  split
  · exact .pure _
  · exact .pure _
  · exact (takes_prepareRegex complains call args 2 true).bind fun _ => .pure _
  · exact (takes_prepareRegex complains call args 3 false).bind fun _ => .pure _
  · exact (takes_linkExternal complains call).bind fun _ => .pure _
  · exact (takes_resolveUser complains changes call args).bind fun _ => .pure _
  · exact .pure _

theorem takes_aggregate (changes : steps.Changes Defers) (name : String) (args : List Expr)
    (distinct : Bool) (separator : Option String) :
    Takes steps (aggregate name args distinct separator) :=
  (takes_calledName complains name).bind fun _ => takes_prepare complains changes _ args

end

/-! ## Tested patterns and paths -/

section

variable (refuses : steps.Refuses)

include refuses

theorem takes_patternExists (id : PatternId) (negated : Bool) :
    Takes steps (patternExists id negated) :=
  (takes_known refuses id).bind fun _ => .ite (.pure _) (.pure _)

theorem takes_pathOperator (symbol : String) (operand : Expr) :
    Takes steps (pathOperator symbol operand) := by
  rw [pathOperator]
  split
  · exact .ite (.throw (refuses _ rfl)) (.pure _)
  · exact .throw (refuses _ rfl)

theorem takes_repeated (least most : Option String) (operand : Expr) :
    Takes steps (repeated least most operand) := by
  rw [repeated]
  split
  · exact .pure _
  · next failed => exact .throw (refuses _ (isRefusal_of_countedBounds failed))

theorem takes_pathPair (symbol : String) (left right : Expr) :
    Takes steps (pathPair symbol left right) := by
  unfold pathPair
  split
  · exact .pure _
  · exact .pure _
  · exact .throw (refuses _ rfl)

end

/-! ## Triples -/

theorem faults_bound (e : Expr) (p : Problem) (member : p ∈ Path.faults e) (target : String) :
    p ≠ .neverBound target := by
  rintro rfl
  cases Path.code_of_mem_faults member

theorem takes_problems (complains : steps.Complains) {found : List Problem}
    (errors : ∀ p ∈ found, ∀ target, p ≠ .neverBound target) :
    Takes steps (problems found) := by
  induction found with
  | nil => exact .pure _
  | cons first rest induction =>
      apply (takes_problem complains (errors first (List.mem_cons_self ..))).bind
      intro _
      exact induction fun p member => errors p (List.mem_cons_of_mem _ member)

theorem takes_planPath (complains : steps.Complains) (path : Expr) :
    Takes steps (planPath path) := by
  apply Takes.ask (fun _ => rfl)
  intro query
  exact (takes_problems complains (faults_bound _)).bind fun _ => .pure _

theorem takes_planned (complains : steps.Complains) (path : Option Expr) :
    Takes steps (path.mapM planPath) := by
  cases path with
  | none => exact .pure _
  | some path => exact (takes_planPath complains path).map _

def placeTriple (subject predicate object : Expr) (path : Option Path.Plan) :
    Build PatternId := do
  let number := (← get).supply.triples
  modify fun query => { query with supply.triples := number + 1 }
  let triple : Triple := { number, subject, predicate, object, path }
  let id ← push (.triple triple)
  if (← get).registers.submitting then
    modify fun query => { query with registers := query.registers.submit id triple }
  return id

theorem triple_eq (subject : Expr) (predicate : Predicate) (object : Expr) :
    triple subject predicate object =
      predicate.path.mapM planPath >>= placeTriple subject predicate.node object := rfl

section

variable (changes : steps.Changes Query.Alike)

include changes

theorem takes_push {p : Pattern Query} (plain : p.place? = none) : Takes steps (push p) := by
  apply Takes.ask (fun _ => rfl)
  intro query
  apply (takes_modify changes ?_ ?_).bind fun _ => .pure _
  · exact ⟨fun _ => rfl, fun _ => rfl, fun _ => rfl⟩
  · exact fun query => query.alike_push plain

theorem takes_placeTriple (subject predicate object : Expr) (path : Option Path.Plan) :
    Takes steps (placeTriple subject predicate object path) := by
  apply Takes.ask (fun _ => rfl)
  intro query
  apply (takes_modify changes ?_ ?_).bind
  · intro _
    apply (takes_push changes rfl).bind
    intro id
    apply Takes.ask (fun _ => rfl)
    intro query
    apply Takes.ite _ (.pure _)
    apply (takes_modify changes ?_ ?_).bind fun _ => .pure _
    · exact ⟨fun _ => rfl, fun _ => rfl, fun _ => rfl⟩
    · exact fun query => ⟨rfl, rfl, rfl, 0, by simp⟩
  · exact ⟨fun _ => rfl, fun _ => rfl, fun _ => rfl⟩
  · exact fun query => ⟨rfl, rfl, rfl, 0, by simp⟩

theorem takes_triple (subject : Expr) (predicate : Predicate) (object : Expr)
    (planned : Takes steps (predicate.path.mapM planPath)) :
    Takes steps (triple subject predicate object) := by
  rw [triple_eq]
  exact planned.bind fun path => takes_placeTriple changes subject _ object path

/-! ## Groups and other patterns -/

theorem takes_group (children : List PatternId) : Takes steps (group children) :=
  takes_push changes rfl

theorem takes_union (refuses : steps.Refuses) (left right : PatternId) :
    Takes steps (union left right) := by
  apply (takes_known refuses left).bind
  intro _
  exact (takes_known refuses right).bind fun _ => takes_push changes rfl

theorem takes_optional (refuses : steps.Refuses) (body : PatternId) :
    Takes steps (optional body) :=
  (takes_known refuses body).bind fun _ => takes_push changes rfl

/-! ## Collections -/

theorem takes_cell (node item next : Expr) : Takes steps (cell node item next) := by
  apply (takes_triple changes node _ item (.pure _)).bind
  intro first
  exact (takes_triple changes node _ next (.pure _)).bind fun rest => .pure _

theorem takes_cells (pairs : List (Expr × Expr)) : Takes steps (cells pairs) := by
  induction pairs with
  | nil => exact .pure _
  | cons pair rest induction =>
      apply (takes_cell changes _ _ _).bind
      intro first
      exact induction.bind fun others => .pure _

theorem takes_collection (items : List Expr) : Takes steps (collection items) := by
  apply Takes.bind (takes_mapM fun _ => (takes_blank changes none).bind fun _ => .pure _)
  intro nodes
  exact (takes_cells changes _).bind fun ids => takes_push changes rfl

end

theorem takes_collectionHead (refuses : steps.Refuses) (id : PatternId) :
    Takes steps (collectionHead id) := by
  apply (takes_pattern refuses id).bind
  intro p
  cases p with
  | collection head cells => exact .pure head
  | _ => exact .throw (refuses _ rfl)

/-! ## Clauses -/

theorem takes_modifyClauses (changes : steps.Changes Query.Alike) {change : Clauses → Clauses}
    (same : ∀ clauses, (change clauses).expressions = clauses.expressions) :
    Takes steps (modifyClauses change) :=
  takes_modify changes ⟨fun _ => rfl, fun _ => rfl, fun _ => rfl⟩
    fun query => query.alike_clauses same

/-! ## Additions -/

section

variable {added : List Expr} {may : Query → Prop}

theorem takes_adding {change : Query → Query} (quiet : Quiet change)
    (adds : ∀ query : Query, query.Adds added may (change query)) :
    Takes (.adding added may) (modify change) :=
  .modify quiet adds

theorem takes_addingClause {change : Clauses → Clauses}
    (given : ∀ clauses, ∀ e ∈ (change clauses).expressions, e ∈ clauses.expressions ∨ e ∈ added) :
    Takes (.adding added may) (modifyClauses change) :=
  takes_adding ⟨fun _ => rfl, fun _ => rfl, fun _ => rfl⟩ fun query => query.adds_clauses given

theorem takes_addingPattern {p : Pattern Query} (given : ∀ e, p.value? = some e → e ∈ added)
    (part : ∀ sub, p = .subquery sub → may sub) : Takes (.adding added may) (push p) := by
  apply Takes.ask (fun _ => rfl)
  intro query
  apply Takes.bind
  · exact takes_adding ⟨fun _ => rfl, fun _ => rfl, fun _ => rfl⟩ fun query =>
      query.adds_push given part
  · exact fun _ => .pure _

end

end Sparql.Build
