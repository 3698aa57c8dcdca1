import Sparql.Proofs.Bindable.Basic
import Sparql.Proofs.Calls.Kept
import Sparql.Proofs.Lockstep
import Sparql.Proofs.Pattern.Reach

/-!
A query before it is brought into form. Its subqueries are normalized then and its calls are
settled, and apart from that it is as it was, up to its expressions: `exists_formed`.
-/

namespace Sparql

/-! ## Settled calls -/

namespace Expr

mutual
theorem patterns_resolved (defined : String → Bool) (e : Expr) :
    (e.resolved defined).patterns = e.patterns := by
  cases e with
  | var _ => rfl
  | const _ => rfl
  | call head args =>
      have same : (head.resolved defined).pattern = head.pattern := by
        rw [Call.resolved]
        split <;> rfl
      rw [resolved, patterns, patterns, same, patternsOf_resolvedAll]

theorem patternsOf_resolvedAll (defined : String → Bool) (args : List Expr) :
    patternsOf (resolvedAll defined args) = patternsOf args := by
  cases args with
  | nil => rfl
  | cons e rest =>
      rw [resolvedAll, patternsOf, patternsOf, patterns_resolved, patternsOf_resolvedAll]
end

end Expr

namespace Pattern

def frame {Sub : Type} (p : Pattern Sub) : Bool × List PatternId := (p.isGroup, p.children)

theorem frame_mapValues (change : Expr → Expr) (p : Pattern Query) :
    (p.mapValues change).frame = p.frame := by
  cases p <;> rfl

theorem parts_mapValues {change : Expr → Expr} (keeps : ∀ e, (change e).patterns = e.patterns)
    (p : Pattern Query) : (p.mapValues change).parts = p.parts := by
  cases p <;> simp [mapValues, parts, children, tested, keeps]

theorem outline_mapValues (offered : Query → List Variable) (change : Expr → Expr)
    (p : Pattern Query) : (p.mapValues change).outline offered = p.outline offered := by
  cases p <;> rfl

end Pattern

theorem Clauses.selected_mapValues (change : Expr → Expr) (clauses : Clauses) :
    (clauses.mapValues change).selected = clauses.selected := by
  simp [selected, mapValues]

namespace Query

/-- The other query has the same patterns and clauses up to their expressions, which test the same
patterns. -/
def Rephrased (query query' : Query) : Prop :=
  ∃ change, (∀ e : Expr, (change e).patterns = e.patterns) ∧
    query'.arena.patterns = query.arena.patterns.map (Pattern.mapValues change) ∧
    query'.clauses = query.clauses.mapValues change ∧ query'.supply = query.supply

theorem rephrased_settled (query : Query) : query.Rephrased query.settled := by
  rw [settled]
  split
  · refine ⟨id, fun _ => rfl, ?_, ?_, rfl⟩
    · have same : (Pattern.mapValues id : Pattern Query → Pattern Query) = id := by
        funext p
        cases p <;> rfl
      rw [same, List.map_id]
    · simp [Clauses.mapValues]
  · exact ⟨_, Expr.patterns_resolved _, rfl, rfl, rfl⟩

namespace Rephrased

variable {query query' : Query}

theorem frames (rephrased : query.Rephrased query') :
    query'.arena.patterns.map Pattern.frame = query.arena.patterns.map Pattern.frame := by
  rcases rephrased with ⟨change, _, patterns, _, _⟩
  rw [patterns, List.map_map]
  exact List.map_congr_left fun p _ => p.frame_mapValues change

theorem binds (rephrased : query.Rephrased query') (offered : Query → List Variable) :
    query'.arena.binds offered = query.arena.binds offered := by
  rcases rephrased with ⟨change, _, patterns, _, _⟩
  funext root
  refine Arena.binds_congr (by simp [Arena.size, patterns]) fun next _ => ?_
  rw [Arena.get?, patterns, List.getElem?_map, Option.map_map]
  exact congrArg (Option.map · _) (funext (Pattern.outline_mapValues offered change))

end Rephrased

end Query

namespace Build

/-! ## Lenient runs -/

theorem outcome_eq_ok {α : Type} {x : Build α} {query query' : Query} {value : α} :
    x.outcome query = (.ok value, query') ↔ x.run query = .ok value query' := by
  rw [outcome]
  cases x.run query <;> simp

theorem run_leniently {α : Type} {steps : Steps} {x : Build α} (takes : Takes steps x)
    {query query' : Query} {value : α} (run : x.run query = .ok value query') :
    x.run query.leniently = .ok value query'.leniently := by
  cases strict : query.options.strict with
  | false =>
      have kept := takes.options_eq query
      rw [after_of_run_ok run] at kept
      rw [Query.leniently_of_lenient strict,
        Query.leniently_of_lenient ((congrArg Options.strict kept).trans strict), run]
  | true =>
      have same : query.strictly = query := by
        rcases query with ⟨arena, clauses, functions, log, supply, registers, options⟩
        rcases options with ⟨_⟩
        cases strict
        rfl
      have outcome := outcome_eq_ok.mpr run
      rw [← same] at outcome
      cases takes.lockstep query with
      | agree warned lenient strictly =>
          rw [outcome] at strictly
          rcases Prod.mk.inj strictly with ⟨rfl, rfl⟩
          exact outcome_eq_ok.mp lenient
      | stop stops =>
          rcases stops.reported with ⟨_, _, _, _, _, stopped, _⟩
          rw [outcome] at stopped
          cases stopped

/-! ## Normalized queries -/

theorem exists_formed {query query' : Query} (new : query.normalized = false)
    (run : normalize.run query = .ok () query') :
    ∃ settled formed, (withNormalized query).Rephrased settled ∧
      normalizeForm.run settled = .ok () formed ∧ query'.arena = formed.arena ∧
      query'.clauses = formed.clauses ∧ query'.normalized = true := by
  suffices ends : Ends (normalizeWith normalize) query.leniently
      (fun _ query' => ∃ formed,
        normalizeForm.run (withNormalized query.leniently).settled = .ok () formed ∧
        query' = { formed with normalized := true })
      fun _ _ => True by
    have lenient := run_leniently takes_normalize run
    rw [run_normalize_eq] at lenient
    rcases ends.of_ok lenient with ⟨formed, run', equal⟩
    have arena : query'.leniently.arena = formed.arena := by rw [equal]
    have clauses : query'.leniently.clauses = formed.clauses := by rw [equal]
    have normalized : query'.leniently.normalized = true := by rw [equal]
    have rephrased := (withNormalized query.leniently).rephrased_settled
    exact ⟨_, formed, rephrased, run', arena, clauses, normalized⟩
  have new' : query.leniently.normalized = false := new
  rw [normalizeWith_eq, ends_bind, ends_get, new', if_neg Bool.false_ne_true]
  apply ((ends_normalizeSubqueries normalize query.leniently).imp (fun _ _ => id)
    fun _ _ _ => trivial).bind
  rintro _ _ ⟨_, rfl⟩
  rw [normalizeRest, ends_bind]
  have lenient : (withNormalized query.leniently).options.strict = false := rfl
  refine .of_run_ok (run_settleCalls lenient) ?_
  apply (ends_run normalizeForm (withNormalized query.leniently).settled).bind
  rintro _ formed run'
  exact ⟨formed, run', rfl⟩

end Build

end Sparql
