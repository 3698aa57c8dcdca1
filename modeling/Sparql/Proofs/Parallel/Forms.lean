import Sparql.Proofs.Describe.Agree
import Sparql.Proofs.Parallel.Body

/-!
One query in two forms. Until it is brought into form, it is normalized in the same way in both:
`run_normalize_inForm`. Apart from that, the form of a query makes no difference to a check:
`Query.check_inForm`.
-/

namespace Sparql

open Build

namespace Query

theorem settled_inForm (query : Query) (form : QueryForm) :
    (query.inForm form).settled = query.settled.inForm form := by
  have functions : (query.inForm form).functions = query.functions := rfl
  rw [settled, settled, functions]
  split <;> rfl

theorem inForm_self (query : Query) : query.inForm query.clauses.form = query := by
  cases query
  rfl

theorem check_inForm {query : Query} (sound : query.Sound) (form : QueryForm)
    (projects : query.clauses.selectAll = true →
      (form != .describe) = (query.clauses.form != .describe)) :
    (check.after query).LooksLike (check.after (query.inForm form)) := by
  have shares : query.SharesBody [] (query.inForm form) :=
    ⟨(List.append_nil _).symm, ⟨rfl, rfl, rfl, rfl⟩, rfl, rfl, rfl, rfl, rfl, rfl, projects⟩
  exact check_of_sameBody shares sound (List.append_nil _).symm fun _ _ => List.forall_mem_nil _

end Query

namespace Build

def bringIntoForm : Build Unit := do
  normalizeForm
  modify fun query => { query with normalized := true }

theorem run_normalizeSubqueries_inForm (query : Query) (form : QueryForm) :
    (normalizeSubqueries normalize).run (query.inForm form) =
      match (normalizeSubqueries normalize).run query with
      | .ok value after => .ok value (after.inForm form)
      | .error failure after => .error failure (after.inForm form) := by
  rw [normalizeSubqueries_eq, EStateM.run_bind, EStateM.run_bind, EStateM.run_get, EStateM.run_get]
  dsimp only
  rw [EStateM.run_bind, EStateM.run_bind, EStateM.run_modify, EStateM.run_modify]
  have same : normalizePatterns normalize (query.inForm form).functions.definitions
      (query.inForm form).arena.patterns =
        normalizePatterns normalize query.functions.definitions query.arena.patterns := rfl
  rw [same]
  dsimp only
  split
  · rfl
  · next diagnostic _ =>
      simp only [report, EStateM.run_bind, EStateM.run_modify, EStateM.run_get, Query.inForm]
      cases diagnostic.isError && query.options.strict <;> rfl
  · rfl

variable {query : Query}

theorem run_normalize_inForm (lenient : query.options.strict = false)
    (new : query.normalized = false) :
    (∃ failure log, ∀ form, normalize.run (query.inForm form) =
      .error failure ({ withNormalized query with log }.inForm form)) ∨
    ∀ form, normalize.run (query.inForm form) =
      bringIntoForm.run ((withNormalized query).settled.inForm form) := by
  have whole (form : QueryForm) : normalize.run (query.inForm form) =
      (normalizeSubqueries normalize >>= fun _ => normalizeRest).run (query.inForm form) := by
    rw [run_normalize_eq, normalizeWith_eq, EStateM.run_bind, EStateM.run_get]
    have new' : (query.inForm form).normalized = false := new
    dsimp only
    rw [if_neg (Bool.eq_false_iff.mp new')]
  have ends := ends_normalizeSubqueries normalize query
  unfold Ends at ends
  split at ends
  · next run =>
      rcases ends with ⟨_, rfl⟩
      refine .inr fun form => ?_
      rw [whole, EStateM.run_bind, run_normalizeSubqueries_inForm, run]
      dsimp only
      have lenient' : ((withNormalized query).inForm form).options.strict = false := lenient
      have settles := run_settleCalls lenient'
      rw [Query.settled_inForm] at settles
      change normalizeRest.run ((withNormalized query).inForm form) = _
      rw [normalizeRest, EStateM.run_bind, settles]
      rfl
  · next failure after run =>
      rcases ends with ⟨_, log, rfl⟩
      refine .inl ⟨failure, log, fun form => ?_⟩
      rw [whole, EStateM.run_bind, run_normalizeSubqueries_inForm, run]
      rfl

end Build

end Sparql
