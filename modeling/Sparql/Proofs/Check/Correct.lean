import Sparql.Proofs.Check.Frame

/-!
What the correctness of a query tells after a check. A report of an error makes the query incorrect
for good, so that a query that is correct in the end had no reason for such a report on the way.
-/

namespace Sparql

namespace Query

/-- If the second query is correct then so was the first, and something holds besides. -/
def Vouches (holds : Prop) (query query' : Query) : Prop :=
  query'.log.correct = true → query.log.correct = true ∧ holds

namespace Vouches

variable {holds holds' : Prop} {first second third : Query}

theorem of_log (same : second.log = first.log) (here : holds) : first.Vouches holds second :=
  fun correct => ⟨same ▸ correct, here⟩

theorem trans (left : first.Vouches holds second) (right : second.Vouches holds' third) :
    first.Vouches (holds ∧ holds') third := by
  intro correct
  rcases right correct with ⟨correct, after⟩
  rcases left correct with ⟨correct, before⟩
  exact ⟨correct, before, after⟩

theorem imp (vouches : first.Vouches holds second) (weaker : holds → holds') :
    first.Vouches holds' second :=
  fun correct => (vouches correct).imp_right weaker

end Vouches

end Query

namespace Build

variable {α : Type} {query : Query}

def approves (x : Build Bool) (query : Query) : Bool :=
  match x.run query with
  | .ok value _ => value
  | .error _ _ => false

theorem run_of_approves {x : Build Bool} (holds : x.approves query = true) :
    x.run query = .ok true (x.after query) := by
  rw [approves] at holds
  split at holds
  · next value query' run => rw [after_of_run_ok run, run, holds]
  · cases holds

theorem closedUnderCheck_correct (checkSub : Build Bool) (holds : Prop) :
    ClosedUnderCheck checkSub (fun query => query.log.correct = true → holds)
      fun _ _ => True where
  report diagnostic query here _ := by
    rw [ends_report]
    split
    · trivial
    · exact fun correct => here (Bool.and_eq_true _ _ ▸ correct).1
  own _ _ here := here
  part _ _ _ here _ := by
    unfold Ends
    split
    · exact here
    · trivial
  other _ _ _ _ := trivial
  project _ _ here := here
  done _ here := here

theorem ends_vouches_problem {p : Problem} (error : p.toDiagnostic.isError = true)
    (holds : Prop) (query : Query) :
    Ends (problem p) query (fun _ query' => query'.arena = query.arena ∧ query.Vouches holds query')
      fun _ _ => True := by
  rw [problem, ends_report]
  split
  · trivial
  · refine ⟨rfl, fun correct => ?_⟩
    simp [Log.add, error] at correct

theorem ends_vouches_forM {kept : Query → Prop} {values : List α} {body : α → Build PUnit}
    {holds : α → Prop}
    (each : ∀ value ∈ values, ∀ query, kept query → Ends (body value) query
      (fun _ query' => kept query' ∧ query.Vouches (holds value) query') fun _ _ => True)
    (start : kept query) :
    Ends (forM values body) query
      (fun _ query' => kept query' ∧ query.Vouches (∀ value ∈ values, holds value) query')
      fun _ _ => True := by
  induction values generalizing query with
  | nil => exact ⟨start, .of_log rfl nofun⟩
  | cons value rest induction =>
      rw [List.forM_cons]
      apply (each value (List.mem_cons_self ..) query start).bind
      rintro _ between ⟨start, before⟩
      apply (induction (fun value member => each value (List.mem_cons_of_mem _ member)) start).imp
      · rintro _ _ ⟨kept, after⟩
        exact ⟨kept, (before.trans after).imp fun both => List.forall_mem_cons.mpr both⟩
      · exact fun _ _ => id

end Build

end Sparql
