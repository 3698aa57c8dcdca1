import Sparql.Proofs.Bindable.Basic
import Sparql.Proofs.Check.Surveys
import Sparql.Proofs.Steps.Build

/-!
The steps of checking a query, and of checking the subqueries in it. None of them asks whether the
query is strict.
-/

namespace Sparql.Build

variable {α : Type}

theorem takes_any {look : Arena Query → Except Failure α} :
    Takes (.adding [] fun _ => True) (inspect look) :=
  takes_inspect fun _ _ _ => trivial

theorem takes_complaint (p : Problem) : Takes (.adding [] fun _ => True) (problem p) :=
  .report trivial

/-! ## Blank nodes -/

theorem checkBlank_eq (label : String) (owner : PatternId) :
    checkBlank label owner = (do
      let query ← get
      match query.blankOwners.lookup label with
      | none =>
        modify fun query' =>
          { query' with blankOwners := query.blankOwners ++ [(label, owner)] }
      | some first =>
        if first = owner ∨ query.clauses.dataUpdate = .insertion ∨ isReported query.log label then
          return
        problem (.blankShared label)) := by
  apply get_bind_congr
  intro query
  cases query.blankOwners.lookup label <;> rfl

theorem takes_checkBlank (label : String) (owner : PatternId) :
    Takes (.adding [] fun _ => True) (checkBlank label owner) := by
  rw [checkBlank_eq]
  apply Takes.ask (fun _ => rfl)
  intro query
  split
  · exact takes_adding ⟨fun _ => rfl, fun _ => rfl, fun _ => rfl⟩ fun _ =>
      Query.adds_nothing rfl rfl rfl rfl
  · exact .ite (.pure _) (takes_complaint _)

/-! ## Surveys -/

theorem takes_hear (checkSub : Build Bool) (id : PatternId) :
    Takes (.adding [] fun _ => True) (hear checkSub id) := by
  have replaced (sub : Query) : Takes (.adding [] fun _ => True)
      (modify fun query => { query with arena := query.arena.set id (.subquery sub) }) :=
    takes_adding ⟨fun _ => rfl, fun _ => rfl, fun _ => rfl⟩ fun query =>
      query.adds_set id rfl fun _ _ => trivial
  apply takes_any.bind
  intro p
  split
  · split
    · exact (replaced _).bind fun _ => .throw trivial
    · apply (replaced _).bind
      intro _
      exact (takes_forM fun diagnostic _ => .report trivial).bind fun _ => .pure _
  · exact .pure _

theorem Surveys.takes {checkSub : Build Bool} {x : Build α} (surveys : Surveys checkSub x) :
    Takes (.adding [] fun _ => True) x := by
  induction surveys with
  | pure value => exact .pure value
  | throw _ => exact .throw trivial
  | problem _ => exact takes_complaint _
  | blank label owner => exact takes_checkBlank label owner
  | hear id => exact takes_hear checkSub id
  | ask framed _ rest => exact .ask (fun query => framed query query.strictly ⟨rfl, rfl⟩) rest
  | bind _ _ first rest => exact first.bind rest

/-! ## Projection and grouping -/

theorem takes_projectAll (vars : List Variable) :
    Takes (.adding [] fun _ => True) (projectAll vars) := by
  apply takes_addingClause
  intro clauses e member
  simp only [Clauses.expressions, values_projectAll] at member
  exact .inl member

theorem takes_checkSelect (checkSub : Build Bool) (scope : Scope) :
    Takes (.adding [] fun _ => True) (checkSelect checkSub scope) := by
  have bodyVariables : Takes (.adding [] fun _ => True) bodyVariables := by
    apply Takes.ask (fun _ => rfl)
    intro query
    split
    · exact takes_any
    · exact .pure _
  apply bodyVariables.bind
  intro bodyVars
  have trailing : Surveys checkSub (checkTrailing bodyVars scope) :=
    surveys_checkTrailing bodyVars scope
  apply trailing.takes.bind
  intro found
  apply Takes.ask (fun _ => rfl)
  intro query
  have items : Surveys checkSub
      (discard (query.clauses.select.foldlM (checkItem checkSub found.1) found.2)) :=
    surveys_checkItems found.1 query.clauses.select found.2
  apply items.takes.bind
  intro _
  apply Takes.ask (fun _ => rfl)
  intro query
  apply Takes.ite _ (.pure _)
  exact takes_projectAll _

theorem takes_checkGrouping : Takes (.adding [] fun _ => True) checkGrouping := by
  apply Takes.ask (fun _ => rfl)
  intro query
  apply Takes.ite (.pure _)
  exact takes_forM fun v _ => takes_complaint _

/-! ## Queries -/

theorem takes_checkWith (checkSub : Build Bool) :
    Takes (.adding [] fun _ => True) (checkWith checkSub) := by
  have verdict : Takes (.adding [] fun _ => True) (do return (← get).log.correct) :=
    .ask (fun _ => rfl) fun _ => .pure _
  apply Takes.ask (fun _ => rfl)
  intro query
  apply Takes.ite verdict
  apply Takes.bind
  · exact takes_adding ⟨fun _ => rfl, fun _ => rfl, fun _ => rfl⟩ fun _ =>
      Query.adds_nothing rfl rfl rfl rfl
  intro _
  have body : Surveys checkSub (checkBody checkSub) := surveys_checkBody
  have groundData : Surveys checkSub checkGroundData := surveys_checkGroundData
  have templates : Surveys checkSub checkTemplates := surveys_checkTemplates
  apply body.takes.bind
  intro scope
  apply groundData.takes.bind
  intro _
  apply templates.takes.bind
  intro _
  apply (takes_checkSelect checkSub scope).bind
  intro _
  apply takes_checkGrouping.bind
  intro _
  apply Takes.bind
  · exact takes_adding ⟨fun _ => rfl, fun _ => rfl, fun _ => rfl⟩ fun _ =>
      Query.adds_nothing rfl rfl rfl rfl
  · exact fun _ => verdict

theorem takes_check : Takes (.adding [] fun _ => True) check := by
  apply Takes.ask (fun query => by rw [query.level_strictly])
  intro query
  cases query.level with
  | zero => exact takes_checkWith _
  | succ level => exact takes_checkWith _

end Sparql.Build
