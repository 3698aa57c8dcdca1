import Sparql.Proofs.Operation
import Sparql.Proofs.Steps.Check
import Sparql.Proofs.Steps.Normalize

/-!
The steps of all operations. Most leave the functions of the query alone, and put no expressions
into it but those that they are given.
-/

namespace Sparql

namespace Operation

/-- The operation may change the functions of the query, or the record of their calls. -/
def concernsFunctions : Operation → Bool
  | call _ _ | aggregate _ _ _ _ | define _ _ _ | normalize => true
  | _ => false

def attached : Operation → List Expr
  | filter e | bind e _ | select _ (some e) | groupBy e | having e | orderBy e _ => [e]
  | _ => []

/-- The subqueries that become part of the query. A check may replace those that are. -/
def embeds : Operation → Query → Prop
  | subquery sub => (· = sub)
  | check => fun _ => True
  | _ => fun _ => False

end Operation

namespace Build

/-! ## Adding and setting -/

section

variable {added : List Expr} {may : Query → Prop}

theorem takes_setSubmitting (submitting : Bool) :
    Takes (.adding added may) (setSubmitting submitting) :=
  takes_adding ⟨fun _ => rfl, fun _ => rfl, fun _ => rfl⟩ fun _ =>
    Query.adds_nothing rfl rfl rfl rfl

theorem takes_plain {p : Pattern Query} (plain : p.place? = none) :
    Takes (.adding added may) (push p) :=
  takes_push Steps.changes_adding plain

theorem takes_plainAround (id : PatternId) {p : Pattern Query} (plain : p.place? = none) :
    Takes (.adding added may) (do known id; push p) :=
  (takes_known Steps.refuses_adding id).bind fun _ => takes_plain plain

theorem takes_plainClause {change : Clauses → Clauses}
    (same : ∀ clauses, (change clauses).expressions = clauses.expressions) :
    Takes (.adding added may) (modifyClauses change) :=
  takes_modifyClauses Steps.changes_adding same

theorem takes_setKnown (id : PatternId) {change : Clauses → Clauses}
    (same : ∀ clauses, (change clauses).expressions = clauses.expressions) :
    Takes (.adding added may) (do known id; modifyClauses change) :=
  (takes_known Steps.refuses_adding id).bind fun _ => takes_plainClause same

theorem takes_addToGroup (id child : PatternId) :
    Takes (.adding added may) (addToGroup id child) := by
  apply (takes_known Steps.refuses_adding child).bind
  intro _
  apply (takes_look Steps.refuses_adding (fair_group id)).bind
  intro children
  exact takes_adding ⟨fun _ => rfl, fun _ => rfl, fun _ => rfl⟩ fun query =>
    query.adds_set id rfl (by simp)

theorem takes_select (target : Variable) (value : Option Expr) :
    Takes (.adding value.toList may) (select target value) := by
  apply takes_addingClause
  intro clauses e member
  split at member
  · exact .inl member
  · simp only [Clauses.expressions, List.filterMap_append, List.mem_append] at member ⊢
    rcases member with (((there | here) | there) | there) | there
    · exact .inl (.inl (.inl (.inl there)))
    · simp at here
      exact .inr (by simp [here])
    · exact .inl (.inl (.inl (.inr there)))
    · exact .inl (.inl (.inr there))
    · exact .inl (.inr there)

end

def Defines (query query' : Query) : Prop :=
  ∃ definition, query' = { query with functions := query.functions.define definition }

theorem takes_define {steps : Steps} (complains : steps.Complains) (changes : steps.Changes Defines)
    (name : String) (params : List Variable) (body : Expr) :
    Takes steps (define name params body) := by
  apply (takes_calledName complains name).bind
  exact fun _ => .modify ⟨fun _ => rfl, fun _ => rfl, fun _ => rfl⟩
    fun query => changes _ _ ⟨_, rfl⟩

/-! ## Operations -/

theorem takes_attaching {operation : Operation} (apart : operation.concernsFunctions = false) :
    Takes (.adding operation.attached operation.embeds) operation.run := by
  have complains := @Steps.complains_adding operation.attached operation.embeds
  have refuses := @Steps.refuses_adding operation.attached operation.embeds
  have changes := @Steps.changes_adding operation.attached operation.embeds
  cases operation with
  | call _ _ | aggregate _ _ _ _ | define _ _ _ | normalize => cases apart
  | setNamespaces namespaces =>
      apply Takes.map
      exact takes_adding ⟨fun _ => rfl, fun _ => rfl, fun _ => rfl⟩ fun _ =>
        Query.adds_nothing rfl rfl rfl rfl
  | freshVariable => exact (takes_freshVariable changes).map _
  | blank label => exact (takes_blank changes label).map _
  | blankConstant label => exact (takes_blankConstant changes label).map _
  | prefixedName name => exact (takes_prefixedName complains name).map _
  | literal label datatype lang => exact (takes_literal complains label datatype lang).map _
  | number label => exact (takes_number refuses label).map _
  | patternExists id negated => exact (takes_patternExists refuses id negated).map _
  | pathOperator symbol operand => exact (takes_pathOperator refuses symbol operand).map _
  | repeated least most operand => exact (takes_repeated refuses least most operand).map _
  | pathPair symbol left right => exact (takes_pathPair refuses symbol left right).map _
  | pathPredicate path => exact (takes_pathPredicate changes path).map _
  | triple subject predicate object =>
      have planned := takes_planned complains predicate.path
      exact (takes_triple changes subject predicate object planned).map _
  | setSubmitting submitting => exact (takes_setSubmitting submitting).map _
  | group _ | values _ => exact (takes_plain rfl).map _
  | subquery sub =>
      apply Takes.map
      apply takes_addingPattern (by simp [Pattern.value?])
      rintro _ ⟨⟩
      rfl
  | filter e | bind e _ =>
      apply Takes.map
      apply takes_addingPattern _ (by simp)
      rintro _ ⟨⟩
      exact List.mem_singleton_self e
  | addToGroup id child => exact (takes_addToGroup id child).map _
  | union left right => exact (takes_union changes refuses left right).map _
  | optional body | minus body | service _ _ body | graph _ body =>
      exact (takes_plainAround body rfl).map _
  | collection items => exact (takes_collection changes items).map _
  | collectionHead id => exact (takes_collectionHead refuses id).map _
  | setBody id | setConstruct id | setInsert id | setDelete id =>
      exact .map (takes_setKnown id (by exact fun _ => rfl)) _
  | setForm _ | setDataUpdate _ | setSelectAll _ | setDistinct _ | setReduced _ | setLimit _
  | setOffset _ | setValues _ => exact .map (takes_plainClause (by exact fun _ => rfl)) _
  | describe term => exact .map (takes_plainClause fun clauses => by split <;> rfl) _
  | select target value =>
      have attached : (Operation.select target value).attached = value.toList := by
        cases value <;> rfl
      rw [attached]
      exact (takes_select target value).map _
  | groupBy e | having e | orderBy e _ =>
      apply Takes.map
      apply takes_addingClause
      intro clauses e' member
      simp only [Clauses.expressions, List.map_append, List.mem_append] at member ⊢
      grind [Operation.attached]
  | check => exact takes_check.map _

theorem takes_run (operation : Operation) : Takes .all operation.run := by
  cases operation with
  | call name args =>
      exact (takes_aggregate Steps.complains_all (Steps.changes_all _) name args false none).map _
  | aggregate name args distinct separator =>
      exact (takes_aggregate Steps.complains_all (Steps.changes_all _) name args _ _).map _
  | define name params body =>
      exact (takes_define Steps.complains_all (Steps.changes_all _) name params body).map _
  | normalize => exact takes_normalize.map _
  | _ => exact (takes_attaching rfl).all

end Build

end Sparql
