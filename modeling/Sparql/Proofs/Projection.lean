import Sparql.Proofs.Build.Clauses
import Sparql.Proofs.Check.Levels
import Sparql.Proofs.Normalize.Frame

/-!
How variables come into the projection of a query. A variable that stands for itself is projected
only if none of its name was projected before, whether it is named by hand, found by describing all,
or added by a check: `Query.Reachable.plainlyOnce`. A variable that an expression is bound to is
always added.
-/

namespace Sparql

namespace Clauses

/-- No variable stands for itself where one of its name was projected before it. -/
def PlainlyOnce (clauses : Clauses) : Prop :=
  clauses.select.Pairwise fun first second =>
    second.value = none → first.target.name ≠ second.target.name

/-- The projection is completed by some of these variables, those that it does not have, each once.
-/
def Supplements (clauses clauses' : Clauses) : Prop :=
  ∃ vars, clauses'.select =
    clauses.select ++ (Variable.unseen clauses.selected vars).map ({ target := · })

variable {clauses clauses' : Clauses}

theorem supplements_of_select (same : clauses'.select = clauses.select) :
    clauses.Supplements clauses' :=
  ⟨[], same.trans (List.append_nil _).symm⟩

theorem PlainlyOnce.supplements (once : clauses.PlainlyOnce)
    (supplements : clauses.Supplements clauses') : clauses'.PlainlyOnce := by
  rcases supplements with ⟨vars, select⟩
  rcases Variable.nodup_unseen clauses.selected vars with ⟨distinct, others⟩
  rw [PlainlyOnce, select, List.pairwise_append]
  refine ⟨once, ?_, fun item member added member' _ => ?_⟩
  · rw [List.Nodup, List.pairwise_map] at distinct
    rw [List.pairwise_map]
    refine distinct.imp ?_
    intro v w different _
    exact different
  · rcases List.mem_map.mp member' with ⟨v, unseen, rfl⟩
    intro same
    have seen : v.occursIn clauses.selected = true := by
      rw [Variable.occursIn_iff, ← same]
      exact List.mem_map_of_mem (List.mem_map_of_mem member)
    exact Bool.false_ne_true ((others v unseen).symm.trans seen)

theorem PlainlyOnce.select (once : clauses.PlainlyOnce) (target : Variable)
    (value : Option Expr) :
    (if value.isNone && target.occursIn clauses.selected then clauses
      else { clauses with select := clauses.select ++ [{ target, value }] }).PlainlyOnce := by
  split
  · exact once
  · next added =>
      rw [PlainlyOnce, List.pairwise_append]
      refine ⟨once, List.pairwise_singleton .., fun item member item' member' plain => ?_⟩
      cases List.mem_singleton.mp member'
      dsimp only at plain
      intro same
      refine added ?_
      rw [plain, Option.isNone_none, Bool.true_and, Variable.occursIn_iff, ← same]
      exact List.mem_map_of_mem (List.mem_map_of_mem member)

def outline (item : Projection) : String × Bool := (item.target.name, item.value.isNone)

theorem plainlyOnce_iff : clauses.PlainlyOnce ↔
    (clauses.select.map outline).Pairwise fun first second =>
      second.2 = true → first.1 ≠ second.1 := by
  rw [List.pairwise_map, PlainlyOnce]
  simp [outline]

theorem PlainlyOnce.resolves {known : String → Prop} (once : clauses.PlainlyOnce)
    (resolves : clauses.Resolves known clauses') : clauses'.PlainlyOnce := by
  have same : ∀ {items items' : List Projection}, List.Forall₂ (fun item item' =>
      item'.target = item.target ∧ Option.Rel (Expr.Resolves known) item.value item'.value)
      items items' → items'.map outline = items.map outline := by
    intro items items' resolves
    induction resolves with
    | nil => rfl
    | @cons item item' _ _ head _ induction =>
        rcases head with ⟨target, value⟩
        have plain : item'.value.isNone = item.value.isNone := by
          generalize item.value = before, item'.value = after at value
          cases value <;> rfl
        rw [List.map_cons, List.map_cons, induction, outline, outline, target, plain]
  rw [plainlyOnce_iff] at once ⊢
  rwa [same resolves.select]

end Clauses

namespace Build

variable {α : Type} {query : Query}

/-- Variables that stand for themselves are still projected once, whichever way the operation
ends. -/
abbrev ProjectsOnce (x : Build α) : Prop :=
  Preserves (·.clauses.PlainlyOnce) (fun _ query => query.clauses.PlainlyOnce) x

/-! ## Normalizing -/

theorem ends_supplements_normalizeForm (query : Query) :
    Ends normalizeForm query (fun _ query' => query.clauses.Supplements query'.clauses)
      fun _ query' => query.clauses.Supplements query'.clauses := by
  by_cases form : query.clauses.form = .describe
  · rw [normalizeForm, ends_bind, ends_get, form]
    dsimp only
    apply ((ends_normalizeDescribe query).and (ends_unchanged_normalizeDescribe query)).imp
    · rintro _ query' ⟨⟨_, rebuilt⟩, _⟩
      have select : query'.clauses.select =
          query.clauses.select ++ (query.missing query.bound).map ({ target := · }) := by
        rw [rebuilt.clauses]
        rfl
      rw [Query.missing] at select
      split at select
      · exact ⟨query.bound, select⟩
      · exact Clauses.supplements_of_select (select.trans (List.append_nil _))
    · rintro _ query' ⟨_, rfl⟩
      exact Clauses.supplements_of_select rfl
  · have plain {query' : Query} (reshapes : query.Reshapes query') :
        query.clauses.Supplements query'.clauses := by
      rcases reshapes.clauses.select with ⟨added, select, none⟩
      rw [none form, List.map_nil, List.append_nil] at select
      exact Clauses.supplements_of_select select
    exact (ends_reshapes_normalizeForm query).imp (fun _ _ => plain) fun _ _ => plain

theorem projectsOnce_normalize : ProjectsOnce normalize := by
  apply preservesClauses_normalize fun once resolves => once.resolves resolves
  intro query once
  apply (ends_supplements_normalizeForm query).imp
  · exact fun _ _ supplements => once.supplements supplements
  · exact fun _ _ supplements => once.supplements supplements

/-! ## Checking -/

theorem projectsOnce_check : ProjectsOnce check :=
  preservesClauses_check fun vars _ once => once.supplements ⟨vars, items_projectAll _ _⟩

/-! ## Operations -/

theorem projectsOnce_run (operation : Operation) : ProjectsOnce operation.run := by
  cases concerns : operation.concernsClauses with
  | false => exact preservesClauses_run concerns
  | true =>
      cases operation with
      | select target value =>
          exact Preserves.map (preservesClauses_modifyClauses fun _ once =>
            once.select target value) _
      | setBody id | setConstruct id | setInsert id | setDelete id =>
          exact Preserves.map (preservesClauses_setKnown id (by exact fun _ once => once)) _
      | describe term =>
          refine Preserves.map (preservesClauses_modifyClauses fun clauses once => ?_) _
          exact once.supplements (Clauses.supplements_of_select (by split <;> rfl))
      | setForm _ | setDataUpdate _ | setSelectAll _ | setDistinct _ | setReduced _ | groupBy _
      | having _ | orderBy _ _ | setLimit _ | setOffset _ | setValues _ =>
          exact Preserves.map (preservesClauses_modifyClauses (by exact fun _ once => once)) _
      | normalize => exact projectsOnce_normalize.map _
      | check => exact projectsOnce_check.map _
      | _ => cases concerns

end Build

theorem Query.Reachable.plainlyOnce {query : Query} (reachable : query.Reachable) :
    query.clauses.PlainlyOnce := by
  induction reachable with
  | empty options namespaces library labelOrder => exact .nil
  | step operation _ _ _ before _ => exact (Build.projectsOnce_run operation).after before

end Sparql
