import Sparql.Proofs.Build.Operations
import Sparql.Proofs.Check.Returns

/-!
The scope law. A check of a pattern adds to the scope what the pattern makes visible, and reports
exactly the targets that are in scope where they are bound.
-/

namespace Sparql

/-! ## Reports of bound targets -/

def Visit.reports : Visit → List Diagnostic
  | .triple _ _ => []
  | .bind target before =>
    if target.occursIn before then [(Problem.targetBound target.text).toDiagnostic] else []
  | .subquery _ sub => sub.afterCheck.log.rebound

namespace Tally

theorem rebound_own (tally : Tally) (mayShare : Bool) (owner : PatternId) (label : String) :
    (tally.own mayShare owner label).rebound = tally.rebound := by
  unfold own
  split
  · rfl
  · split <;> rfl

theorem rebound_foldl_own (labels : List String) (tally : Tally) (mayShare : Bool)
    (owner : PatternId) :
    (labels.foldl (own · mayShare owner ·) tally).rebound = tally.rebound := by
  induction labels generalizing tally with
  | nil => rfl
  | cons label rest induction => rw [List.foldl_cons, induction, rebound_own]

theorem rebound_foldl_report (entries : List Diagnostic) (tally : Tally) :
    (entries.foldl report tally).rebound =
      tally.rebound ++ entries.filter (·.code = .bindScope) := by
  induction entries generalizing tally with
  | nil => simp
  | cons entry rest induction =>
      rw [List.foldl_cons, induction, report, List.filter_cons]
      by_cases rebound : entry.code = .bindScope <;> simp [rebound]

theorem rebound_visit (tally : Tally) (mayShare : Bool) (visit : Visit) :
    (tally.visit mayShare visit).rebound = tally.rebound ++ visit.reports := by
  cases visit with
  | triple t owner =>
      rw [Tally.visit, rebound_foldl_own, Visit.reports, List.append_nil]
  | bind target before =>
      rw [Tally.visit, Visit.reports]
      split
      · simp [report, Problem.toDiagnostic]
      · rw [List.append_nil]
  | subquery id sub =>
      rw [Tally.visit, rebound_foldl_own, rebound_foldl_report]
      rfl

end Tally

theorem Query.rebound_tallied (query : Query) (visits : List Visit) (tally : Tally) :
    (query.tallied visits tally).rebound = tally.rebound ++ visits.flatMap Visit.reports := by
  induction visits generalizing tally with
  | nil => simp [tallied]
  | cons visit rest induction =>
      rw [tallied, List.foldl_cons, ← tallied, induction, Tally.rebound_visit, List.flatMap_cons,
        List.append_assoc]

/-! ## The law -/

/-- What a check of a pattern makes of a scope, and which targets it reports. -/
structure ScopeLaw (query : Query) (scope : Scope) (id : PatternId) (gained : Scope)
    (query' : Query) : Prop where
  returns : (Build.checkFrom Build.check scope id).run query = .ok (scope ++ gained) query'
  distinct : ((scope ++ gained).map (·.name)).Nodup
  noPath : ∀ v ∈ gained, v.path = false
  visible : ∀ v : Variable, v.occursIn (scope ++ gained) = true ↔
    v.occursIn scope = true ∨ v.occursIn (Scope.ordinary (query.arena.visible id)) = true
  reported : query'.log.rebound =
    query.log.rebound ++ (query.arena.visits scope id).flatMap Visit.reports

namespace Build

theorem scopeLaw_of_opens {query : Query} (cells : query.arena.CellsAreTriples)
    (lenient : query.Lenient) {id : PatternId} (opens : Opens query query.arena.levels id)
    {scope : Scope} (distinct : (scope.map (·.name)).Nodup) :
    ∃ gained query', ScopeLaw query scope id gained query' := by
  have begun : query.Stage query := ⟨lenient, rfl, rfl, fun _ _ found => .inl found⟩
  rcases (writes_checkFrom cells opens (fun _ => rfl) query begun).exists_ok with
    ⟨scope', query', run, equal, _, taken⟩
  have tally : query'.tally = query.tallied (query.arena.visits scope id) query.tally :=
    (congrArg Ledger.tally taken).trans
      ((Arena.accounted_notesAt cells opens.fits scope).tally_taking query _)
  rcases Scope.foldl_bind_grows (query.arena.visible id) distinct with
    ⟨gained, grown, nodup, noPath⟩
  refine ⟨gained, query', ?_, nodup, noPath, fun v => ?_, ?_⟩
  · rw [run, equal, grown]
  · rw [← grown, Scope.occursIn_foldl_bind, Bool.or_eq_true]
  · have rebound := congrArg Tally.rebound tally
    rwa [Query.rebound_tallied] at rebound

/-- The scope law holds of every sound pattern of a reachable query that is not strict, where all
that it meets can be checked. The queries nested in it report their targets by the same law. -/
theorem checkFrom_scopeLaw {query : Query} (reachable : query.Reachable)
    (lenient : query.Lenient) {id : PatternId} (sound : query.arena.Sound id)
    (nested : ∀ sub, query.Meets id sub → sub.Checkable) {scope : Scope}
    (distinct : (scope.map (·.name)).Nodup) :
    (∃ gained query', ScopeLaw query scope id gained query') ∧
      ∀ sub, query.Meets id sub → sub.checked = false →
        sub.afterCheck.log.rebound =
          sub.log.rebound ++ sub.visits.flatMap Visit.reports := by
  have cells := reachable.cellsAreTriples
  constructor
  · refine scopeLaw_of_opens cells.here lenient ⟨sound.fits, fun next sub reaches found => ?_⟩
      distinct
    have meets : query.Meets id sub := .here reaches found
    exact (meets.ready nested cells).checks (nested sub meets).lenient
  · intro sub meets unchecked
    have tally := (meets.ready nested cells).tally_afterCheck (nested sub meets).lenient unchecked
    have rebound := congrArg Tally.rebound tally
    rwa [Query.rebound_tallied] at rebound

def twiceBound : Query :=
  (Operation.group [0, 1, 2]).run.after
    ((Operation.bind (.const (.iri "b")) (.ofName "x")).run.after
      ((Operation.subquery {}).run.after
        ((Operation.bind (.const (.iri "a")) (.ofName "x")).run.after {})))

theorem twiceBound_reachable : twiceBound.Reachable := by
  have empty : Query.Reachable {} := .empty {} _ _ _
  refine .step _ (.step _ (.step _ (.step _ empty trivial nofun) trivial ?_) trivial nofun)
    trivial nofun
  intro sub equal
  cases equal
  exact empty

theorem twiceBound_scopeLaw :
    (∃ gained query', ScopeLaw twiceBound [] 3 gained query') ∧
      ∀ sub, twiceBound.Meets 3 sub → sub.checked = false →
        sub.afterCheck.log.rebound =
          sub.log.rebound ++ sub.visits.flatMap Visit.reports := by
  have descends : twiceBound.arena.Descends := by decide
  refine checkFrom_scopeLaw twiceBound_reachable rfl (descends.sound (by decide)) ?_ List.nodup_nil
  have only (id : PatternId) (sub : Query)
      (found : twiceBound.arena.get? id = some (.subquery sub)) : sub = {} :=
    List.mem_singleton.mp (Query.mem_subqueries ⟨id, found⟩)
  intro sub meets
  obtain rfl : sub = {} := by
    cases meets with
    | here _ found => exact only _ sub found
    | inside _ found matched _ =>
        rw [only _ _ found] at matched
        exact nomatch matched
  exact ⟨rfl, nofun⟩

end Build

end Sparql
