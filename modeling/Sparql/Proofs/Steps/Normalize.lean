import Sparql.Proofs.Steps.Build
import Sparql.Query.Normalize

/-!
The steps of normalizing a query. Bringing it into form reports nothing and keeps expressions and
subqueries in their places.
-/

namespace Sparql.Build

variable {α : Type} {steps : Steps}

/-! ## Forms -/

section

variable (changes : steps.Changes Query.Alike) (fails : ∀ failure, steps.fail failure)

include changes

theorem takes_describeAll (bound : List Variable) : Takes steps (describeAll bound) := by
  have projected : Takes steps (bound.forM fun v => select v none) := by
    apply takes_forM
    intro v _
    exact takes_modifyClauses changes fun clauses => Query.expressions_select clauses v
  apply Takes.ask (fun _ => rfl)
  intro query
  apply Takes.ite _ projected
  apply Takes.bind
  · exact takes_modifyClauses changes fun _ => rfl
  · exact fun _ => projected

include fails

theorem takes_templateOf (root : PatternId) : Takes steps (templateOf root) := by
  apply (takes_inspect fun _ _ _ => fails _).bind
  exact fun children => takes_group changes children

theorem takes_normalizeConstruct : Takes steps normalizeConstruct := by
  apply Takes.ask (fun _ => rfl)
  intro query
  dsimp only
  split
  · exact .pure _
  · exact takes_modifyClauses changes fun _ => rfl
  · apply (takes_templateOf changes fails _).bind
    exact fun _ => takes_modifyClauses changes fun _ => rfl
  · exact .pure _

theorem takes_normalizeDelete : Takes steps normalizeDelete := by
  apply Takes.ask (fun _ => rfl)
  intro query
  dsimp only
  split
  · apply (takes_templateOf changes fails _).bind
    exact fun _ => takes_modifyClauses changes fun _ => rfl
  · exact .pure _

theorem takes_description (term : Expr) : Takes steps (description term) := by
  have fresh : Takes steps freshVariable := takes_freshVariable changes
  have refuses : steps.Refuses := fun failure _ => fails failure
  apply fresh.bind
  intro p
  apply fresh.bind
  intro v
  apply fresh.bind
  intro p'
  apply fresh.bind
  intro v'
  apply (takes_triple changes _ _ _ (.pure _)).bind
  intro outgoing
  apply (takes_triple changes _ _ _ (.pure _)).bind
  intro incoming
  apply (takes_group changes _).bind
  intro left
  apply (takes_group changes _).bind
  intro right
  apply (takes_union changes refuses _ _).bind
  intro either
  exact (takes_optional changes refuses either).bind fun _ => .pure _

omit changes in
theorem takes_bodyParts : Takes steps bodyParts := by
  apply Takes.ask (fun _ => rfl)
  intro query
  split
  · exact .pure _
  · apply (takes_inspect fun _ _ _ => fails _).bind
    intro p
    split <;> exact .pure _

omit changes in
theorem takes_bodyVariables : Takes steps bodyVariables := by
  apply Takes.ask (fun _ => rfl)
  intro query
  split
  · exact takes_inspect fun _ _ _ => fails _
  · exact .pure _

theorem takes_normalizeDescribe : Takes steps normalizeDescribe := by
  have set {change : Clauses → Clauses}
      (same : ∀ clauses, (change clauses).expressions = clauses.expressions) :
      Takes steps (modifyClauses change) := takes_modifyClauses changes same
  have described : Takes steps (do
      let descriptions ← (described (← get).clauses).mapM description
      modifyClauses fun clauses => { clauses with describe := clauses.describe.map Expr.visited }
      let body ← group ((← bodyParts) ++ descriptions.map (·.2))
      modifyClauses fun clauses => { clauses with body := some body }
      let template ← group (descriptions.map (·.1))
      modifyClauses fun clauses => { clauses with construct := some template }) := by
    apply Takes.ask (fun _ => rfl)
    intro query
    apply (takes_mapM fun term => takes_description changes fails term).bind
    intro descriptions
    apply Takes.bind
    · exact set fun _ => rfl
    intro _
    apply (takes_bodyParts fails).bind
    intro parts
    apply (takes_group changes _).bind
    intro body
    apply Takes.bind
    · exact set fun _ => rfl
    intro _
    exact (takes_group changes _).bind fun template => set fun _ => rfl
  apply (takes_bodyVariables fails).bind
  intro bound
  apply Takes.ask (fun _ => rfl)
  intro query
  exact .ite ((takes_describeAll changes bound).bind fun _ => described) described

theorem takes_normalizeForm : Takes steps normalizeForm := by
  apply Takes.ask (fun _ => rfl)
  intro query
  split
  · exact .pure _
  · exact takes_modifyClauses changes fun _ => rfl
  · exact takes_normalizeConstruct changes fails
  · exact takes_normalizeDescribe changes fails
  · exact takes_normalizeDelete changes fails
  · exact takes_modifyClauses changes fun _ => rfl

end

/-! ## Calls and subqueries -/

theorem takes_settle (functions : Functions) (key : String) (counts : List Nat) :
    Takes .all (settle functions key counts) := by
  rw [settle]
  split
  · apply takes_forM
    intro count _
    exact takes_checkParameters Steps.complains_all key _ count
  · apply (takes_problem Steps.complains_all (by nofun)).bind
    intro _
    exact .modify ⟨fun _ => rfl, fun _ => rfl, fun _ => rfl⟩ fun _ => trivial

theorem takes_settleCalls : Takes .all settleCalls := by
  apply Takes.ask (fun _ => rfl)
  intro query
  dsimp only
  apply Takes.ite (.pure _)
  have quiet {change : Query → Query} (quiet : Quiet change) : Takes .all (modify change) :=
    .modify quiet fun _ => trivial
  apply Takes.bind
  · exact quiet ⟨fun _ => rfl, fun _ => rfl, fun _ => rfl⟩
  intro _
  apply Takes.bind
  · exact quiet ⟨fun _ => rfl, fun _ => rfl, fun _ => rfl⟩
  intro _
  exact takes_forM fun call _ => takes_settle _ _ _

theorem normalizeSubqueries_eq (normalizeSub : Build Unit) :
    normalizeSubqueries normalizeSub = (do
      let query ← get
      let result := normalizePatterns normalizeSub query.functions.definitions query.arena.patterns
      modify fun query => { query with arena := ⟨result.1⟩ }
      match result.2 with
      | none => return
      | some (.strict diagnostic) =>
        report diagnostic
        throw (.strict diagnostic)
      | some failure => throw failure) :=
  rfl

theorem takes_normalizeSubqueries (normalizeSub : Build Unit) :
    Takes .all (normalizeSubqueries normalizeSub) := by
  rw [normalizeSubqueries_eq]
  apply Takes.ask (fun _ => rfl)
  intro query
  dsimp only
  apply Takes.bind
  · exact .modify ⟨fun _ => rfl, fun _ => rfl, fun _ => rfl⟩ fun _ => trivial
  intro _
  split
  · exact .pure _
  · exact (Takes.report trivial).bind fun _ => .throw trivial
  · exact .throw trivial

theorem takes_normalizeWith (normalizeSub : Build Unit) :
    Takes .all (normalizeWith normalizeSub) := by
  apply Takes.ask (fun _ => rfl)
  intro query
  apply Takes.ite (.pure _)
  apply (takes_normalizeSubqueries normalizeSub).bind
  intro _
  apply takes_settleCalls.bind
  intro _
  apply (takes_normalizeForm (Steps.changes_all _) fun _ => trivial).bind
  intro _
  exact .modify ⟨fun _ => rfl, fun _ => rfl, fun _ => rfl⟩ fun _ => trivial

theorem takes_normalize : Takes .all normalize := by
  apply Takes.ask (fun query => by rw [query.level_strictly])
  intro query
  cases query.level with
  | zero => exact takes_normalizeWith _
  | succ level => exact takes_normalizeWith _

end Sparql.Build
