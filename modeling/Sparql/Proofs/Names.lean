import Sparql.Proofs.Build.Operations
import Sparql.Proofs.Collection.Made

/-!
The names that operations make up. Each has the next number of its kind, and no other operation
takes blank labels, so that the labels of a query are numbered without gaps. Descriptions take
variables of their own.
-/

namespace Sparql

/-! ## What operations make up -/

def Triple.cellLabel? (t : Triple) : Option String :=
  match t.predicate with
  | .const c => if c = .iri Vocabulary.rdfFirst then t.subject.blankLabel? else none
  | _ => none

def Arena.cellLabels (arena : Arena Query) (id : PatternId) : List String :=
  match arena.get? id with
  | some (.collection _ cells) =>
    cells.filterMap fun cell => ((arena.get? cell).bind Pattern.triple?).bind Triple.cellLabel?
  | _ => []

namespace Operation

def minted (operation : Operation) (query : Query) : List String :=
  match operation, operation.run.run query with
  | freshVariable, .ok (.var v) _ => [v.name]
  | blank none, .ok (.var v) _ => [v.name]
  | blankConstant none, .ok (.const c) _ => [c.text]
  | collection _, .ok (.pattern id) query' => query'.arena.cellLabels id
  | _, _ => []

def taken (supply : Supply) : Operation → List Name
  | freshVariable => [.var supply.vars]
  | blank none | blankConstant none => [.blank supply.blanks]
  | collection items => (List.range' supply.blanks items.length).map .blank
  | _ => []

end Operation

namespace Build

/-! ## Collections -/

def cellLabel? : Expr × Expr × Expr → Option String
  | (subject, .const c, _) => if c = .iri Vocabulary.rdfFirst then subject.blankLabel? else none
  | _ => none

theorem cellLabel?_said (t : Triple) : cellLabel? t.said = t.cellLabel? := by
  rcases t with ⟨number, subject, predicate, object, path⟩
  cases predicate <;> rfl

theorem cellLabels_statements (pairs : List (Expr × Expr)) :
    (statements pairs).filterMap cellLabel? = pairs.filterMap (·.1.blankLabel?) := by
  have other : Constant.iri Vocabulary.rdfRest ≠ .iri Vocabulary.rdfFirst := by decide
  induction pairs with
  | nil => rfl
  | cons pair rest induction =>
      simp only [statements, List.filterMap_cons, cellLabel?, if_pos, if_neg other, induction]

theorem blankLabels_cellNodes (start count : Nat) :
    (cellNodes start count).filterMap Expr.blankLabel? =
      (List.range' start count).map fun number => (Name.blank number).text := by
  rw [cellNodes, cellVariables, List.map_map, List.filterMap_map]
  exact congrFun List.filterMap_eq_map _

theorem Say.cellLabels_eq {arena : Arena Query} {ids : List PatternId}
    {said : List (Expr × Expr × Expr)} (say : Say arena ids said) {id : PatternId} {head : Expr}
    (found : arena.get? id = some (.collection head ids)) :
    arena.cellLabels id = said.filterMap cellLabel? := by
  rcases say with ⟨ts, here, rfl⟩
  rw [Arena.cellLabels, found, List.filterMap_map]
  dsimp only
  clear found
  induction here with
  | nil => rfl
  | cons here _ induction =>
      rw [List.filterMap_cons, List.filterMap_cons, induction, here, Function.comp_apply,
        cellLabel?_said]
      rfl

theorem ends_collection_labels (items : List Expr) (query : Query) :
    Ends (collection items) query
      (fun id query' =>
        query'.arena.cellLabels id =
          (List.range' query.supply.blanks items.length).map (fun number =>
            (Name.blank number).text) ∧
        query'.supply.blanks = query.supply.blanks + items.length)
      fun _ _ => False := by
  refine (ends_collection items query).imp ?_ fun _ _ => id
  intro id query' holds
  rcases holds with ⟨count, ids, found, say⟩
  refine ⟨?_, count⟩
  have length : (cellNodes query.supply.blanks items.length).length ≤ items.length :=
    (length_cellNodes ..).le
  calc query'.arena.cellLabels id
      = ((cellNodes query.supply.blanks items.length).zip items).filterMap
          (·.1.blankLabel?) := by rw [say.cellLabels_eq found, cellLabels_statements]
    _ = (((cellNodes query.supply.blanks items.length).zip items).map Prod.fst).filterMap
          Expr.blankLabel? := by rw [List.filterMap_map]; rfl
    _ = _ := by rw [List.map_fst_zip length, blankLabels_cellNodes]

end Build

/-! ## Names of operations -/

namespace Operation

open Build

/-- The operation makes up no names, apart from those of descriptions. -/
structure Nameless (operation : Operation) : Prop where
  minted : ∀ query, operation.minted query = []
  taken : ∀ supply, operation.taken supply = []
  unlabelled : operation.Within ⟨true, false, true⟩
  unnamed : operation ≠ normalize → operation.Within ⟨true, true, false⟩

inductive Naming : Operation → Prop
  | freshVariable : Naming freshVariable
  | blank : Naming (blank none)
  | blankConstant : Naming (blankConstant none)
  | collection (items : List Expr) : Naming (collection items)
  | nameless {operation : Operation} (nameless : operation.Nameless) : Naming operation

theorem naming (operation : Operation) : operation.Naming := by
  cases operation with
  | freshVariable => exact .freshVariable
  | blank label =>
      cases label with
      | none => exact .blank
      | some label => exact .nameless ⟨fun _ => rfl, fun _ => rfl, trivial, fun _ => trivial⟩
  | blankConstant label =>
      cases label with
      | none => exact .blankConstant
      | some label => exact .nameless ⟨fun _ => rfl, fun _ => rfl, trivial, fun _ => trivial⟩
  | collection items => exact .collection items
  | normalize => exact .nameless ⟨fun _ => rfl, fun _ => rfl, rfl, fun other => absurd rfl other⟩
  | check => exact .nameless ⟨fun _ => rfl, fun _ => rfl, rfl, fun _ => rfl⟩
  | _ => exact .nameless ⟨fun _ => rfl, fun _ => rfl, trivial, fun _ => trivial⟩

/-! Runs of the operations that make up names. -/

theorem run_freshVariable (query : Query) :
    (freshVariable).run.run query =
      .ok (.var { name := (Name.var query.supply.vars).text })
        { query with supply.vars := query.supply.vars + 1 } := by
  rw [← ofName_var]
  rfl

theorem run_blank (query : Query) :
    (blank none).run.run query =
      .ok (.var { name := (Name.blank query.supply.blanks).text, blank := true })
        { query with supply.blanks := query.supply.blanks + 1 } := by
  rw [← ofBlank_blank]
  rfl

theorem run_blankConstant (query : Query) :
    ∃ c : Constant, c.text = (Name.blank query.supply.blanks).text ∧
      (blankConstant none).run.run query =
        .ok (.const c) { query with supply.blanks := query.supply.blanks + 1 } :=
  ⟨_, constant_ofBlank_text query.supply.blanks, rfl⟩

theorem run_collection (items : List Expr) (query : Query) :
    ∃ id query', (collection items).run.run query = .ok (.pattern id) query' ∧
      query'.arena.cellLabels id =
        (List.range' query.supply.blanks items.length).map (fun number =>
          (Name.blank number).text) ∧
      query'.supply.blanks = query.supply.blanks + items.length := by
  rcases (ends_collection_labels items query).exists_ok with ⟨id, query', run, labels, count⟩
  refine ⟨id, query', ?_, labels, count⟩
  rw [Operation.run, map_eq_pure_bind, EStateM.run_bind, run]
  rfl

theorem minted_eq (operation : Operation) (query : Query) :
    operation.minted query = (operation.taken query.supply).map Name.text := by
  cases operation.naming with
  | freshVariable =>
      unfold minted
      rw [run_freshVariable]
      rfl
  | blank =>
      unfold minted
      rw [run_blank]
      rfl
  | blankConstant =>
      rcases run_blankConstant query with ⟨c, text, run⟩
      unfold minted
      rw [run]
      exact congrArg (fun text => [text]) text
  | collection items =>
      rcases run_collection items query with ⟨id, query', run, labels, _⟩
      unfold minted
      rw [run]
      dsimp only
      rw [labels, taken, List.map_map]
      rfl
  | nameless nameless => rw [nameless.minted, nameless.taken, List.map_nil]

theorem taken_nodup (operation : Operation) (supply : Supply) :
    (operation.taken supply).Nodup := by
  cases operation.naming with
  | freshVariable | blank | blankConstant => exact List.nodup_singleton _
  | collection items => exact (List.nodup_range' ..).map fun _ _ => Name.blank.inj
  | nameless nameless =>
      rw [nameless.taken]
      exact List.nodup_nil

/-! Names are taken in order: those between the counts before and after. -/

theorem blanks_after_eq (operation : Operation) (within : operation.Within ⟨true, false, true⟩)
    (query : Query) : (operation.run.after query).supply.blanks = query.supply.blanks := by
  have changes : query.ChangesTo ⟨true, false, true⟩ (fun _ => True) (operation.run.after query) :=
    changesTo_after within (fun _ _ => trivial) query
  exact changes.blanks_eq rfl

theorem vars_after_eq (operation : Operation) (within : operation.Within ⟨true, true, false⟩)
    (query : Query) : (operation.run.after query).supply.vars = query.supply.vars := by
  have changes : query.ChangesTo ⟨true, true, false⟩ (fun _ => True) (operation.run.after query) :=
    changesTo_after within (fun _ _ => trivial) query
  exact changes.vars_eq rfl

theorem vars_after_ge (operation : Operation) (query : Query) :
    query.supply.vars ≤ (operation.run.after query).supply.vars := by
  have changes : query.ChangesTo .all (fun _ => True) (operation.run.after query) :=
    changesTo_after operation.within_all (fun _ _ => trivial) query
  exact changes.vars_le

theorem blank_mem_taken_iff (operation : Operation) (query : Query) (number : Nat) :
    .blank number ∈ operation.taken query.supply ↔
      query.supply.blanks ≤ number ∧ number < (operation.run.after query).supply.blanks := by
  cases operation.naming with
  | freshVariable =>
      rw [after_of_run_ok (run_freshVariable query)]
      simp only [taken, List.mem_singleton, reduceCtorEq, false_iff]
      omega
  | blank =>
      rw [after_of_run_ok (run_blank query)]
      simp only [taken, List.mem_singleton, Name.blank.injEq]
      omega
  | blankConstant =>
      rcases run_blankConstant query with ⟨c, _, run⟩
      rw [after_of_run_ok run]
      simp only [taken, List.mem_singleton, Name.blank.injEq]
      omega
  | collection items =>
      rcases run_collection items query with ⟨id, query', run, _, count⟩
      rw [after_of_run_ok run, count]
      simp only [taken, List.mem_map, Name.blank.injEq, exists_eq_right, List.mem_range'_1]
  | nameless nameless =>
      rw [nameless.taken, blanks_after_eq _ nameless.unlabelled]
      simp only [List.not_mem_nil, false_iff]
      omega

theorem blanks_after_ge (operation : Operation) (query : Query) :
    query.supply.blanks ≤ (operation.run.after query).supply.blanks := by
  cases operation.naming with
  | freshVariable => exact (blanks_after_eq .freshVariable rfl query).ge
  | blank =>
      rw [after_of_run_ok (run_blank query)]
      exact Nat.le_succ _
  | blankConstant =>
      rcases run_blankConstant query with ⟨c, _, run⟩
      rw [after_of_run_ok run]
      exact Nat.le_succ _
  | collection items =>
      rcases run_collection items query with ⟨id, query', run, _, count⟩
      rw [after_of_run_ok run, count]
      exact Nat.le_add_right ..
  | nameless nameless => exact (blanks_after_eq _ nameless.unlabelled query).ge

theorem var_mem_taken_iff {operation : Operation} (other : operation ≠ normalize) (query : Query)
    (number : Nat) :
    .var number ∈ operation.taken query.supply ↔
      query.supply.vars ≤ number ∧ number < (operation.run.after query).supply.vars := by
  cases operation.naming with
  | freshVariable =>
      rw [after_of_run_ok (run_freshVariable query)]
      simp only [taken, List.mem_singleton, Name.var.injEq]
      omega
  | blank =>
      rw [vars_after_eq (.blank none) rfl]
      simp only [taken, List.mem_singleton, reduceCtorEq, false_iff]
      omega
  | blankConstant =>
      rw [vars_after_eq (.blankConstant none) rfl]
      simp only [taken, List.mem_singleton, reduceCtorEq, false_iff]
      omega
  | collection items =>
      rw [vars_after_eq (.collection items) rfl]
      simp only [taken, List.mem_map, reduceCtorEq, and_false, exists_false, false_iff]
      omega
  | nameless nameless =>
      rw [nameless.taken, vars_after_eq _ (nameless.unnamed other)]
      simp only [List.not_mem_nil, false_iff]
      omega

theorem var_mem_taken {operation : Operation} {query : Query} {number : Nat}
    (member : .var number ∈ operation.taken query.supply) :
    query.supply.vars ≤ number ∧ number < (operation.run.after query).supply.vars := by
  by_cases describes : operation = .normalize
  · subst describes
    cases member
  · exact (var_mem_taken_iff describes query number).mp member

end Operation

end Sparql
