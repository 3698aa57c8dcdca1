import Sparql.Proofs.Calls.WellFormed
import Sparql.Proofs.Normalize.Frame
import Sparql.Proofs.Parallel.Forms

/-!
The names of functions that are called before they are defined. Each stays on record until it is
defined, unless settling stops at a report of a strict query. After that no name is on record, and
the query can be normalized with its calls as they are: `Script.listed_or_forgotten`.
-/

namespace Sparql

open Build

/-! ## Records -/

/-- Names on record stay so until they are defined, and definitions stay. -/
structure Functions.Lists (functions functions' : Functions) : Prop where
  names : ∀ key ∈ functions.undefinedNames, functions'.isDefined key = false →
    key ∈ functions'.undefinedNames
  definitions : ∀ key, functions.isDefined key = true → functions'.isDefined key = true

theorem Functions.Extends.lists {functions functions' : Functions}
    (extension : functions.Extends functions') : functions.Lists functions' :=
  ⟨fun key member _ => extension.names key member, extension.definitions⟩

theorem Functions.lists_inherit (functions : Functions) (outer : List (String × Definition)) :
    functions.Lists (functions.inherit outer) where
  names _ member _ := member
  definitions key defined := by
    rw [isDefined, definition?_inherit, Option.isSome_or, Bool.or_eq_true]
    exact .inl defined

theorem Functions.Lists.trans {first second third : Functions} (before : first.Lists second)
    (after : second.Lists third) : first.Lists third where
  names key member undefined := by
    refine after.names key (before.names key member ?_) undefined
    apply Bool.eq_false_iff.mpr
    intro defined
    exact Bool.false_ne_true (undefined.symm.trans (after.definitions key defined))
  definitions key defined := after.definitions key (before.definitions key defined)

namespace Query

theorem isDefined_mapValues (change : Expr → Expr) (query : Query) (key : String) :
    (query.mapValues change).functions.isDefined key = query.functions.isDefined key := by
  change (query.functions.mapBodies change).isDefined key = _
  rw [Functions.isDefined, Functions.isDefined, Functions.definition?_mapBodies, Option.isSome_map]

theorem isDefined_settled (query : Query) (key : String) :
    query.settled.functions.isDefined key = query.functions.isDefined key := by
  rw [settled]
  split
  · rfl
  · exact query.isDefined_mapValues _ key

theorem lists_settled (query : Query) : query.functions.Lists query.settled.functions where
  names key member undefined := by
    rw [isDefined_settled] at undefined
    rw [undefinedNames_settled, Functions.missing, List.mem_filter]
    exact ⟨member, by simp [undefined]⟩
  definitions key defined := by rwa [isDefined_settled]

/-! ## Forgotten names -/

/-- Normalizing the query stops at the first report on its calls, and then no calls are on record
any more. If the query has no subqueries, it can be normalized nevertheless, as nothing but its form
is left to do. -/
structure Forgets (query : Query) (report : Diagnostic) : Prop where
  strict : query.options.strict = true
  new : query.normalized = false
  whole : failed? query = none
  first : query.functions.settlement.head? = some report
  stops : normalize.run query = .error (.strict report) (normalize.after query)
  empty : (normalize.after query).functions.undefinedNames = []
  defined : ∀ key, (normalize.after query).functions.isDefined key = query.functions.isDefined key
  again : (∀ sub : Query, ¬ sub.IsPartOf query) →
    normalize.run (normalize.after query) = bringIntoForm.run (normalize.after query)

end Query

namespace Build

variable {query : Query}

theorem run_normalize_of_new (new : query.normalized = false) (whole : failed? query = none) :
    normalize.run query = normalizeRest.run (withNormalized query) := by
  have ends := ends_normalizeSubqueries normalize query
  rw [run_normalize_eq, normalizeWith_eq, EStateM.run_bind, EStateM.run_get]
  dsimp only
  rw [new, if_neg Bool.false_ne_true, EStateM.run_bind]
  unfold Ends at ends
  split at ends
  · next run =>
      rcases ends with ⟨_, rfl⟩
      rw [run]
      rfl
  · exact absurd whole ends.1

theorem run_normalize_strict {report : Diagnostic} (strict : query.options.strict = true)
    (new : query.normalized = false) (whole : failed? query = none)
    (first : query.functions.settlement.head? = some report) :
    normalize.run query =
      .error (.strict report) ((withNormalized query).resolved.reporting [report]) := by
  have strict' : (withNormalized query).options.strict = true := strict
  have reports : ∃ others, (withNormalized query).functions.settlement = report :: others :=
    List.head?_eq_some_iff.mp first
  rcases reports with ⟨others, reports⟩
  rw [run_normalize_of_new new whole, normalizeRest, EStateM.run_bind,
    run_settleCalls_strict strict', reports]

theorem run_normalize_of_settled (new : query.normalized = false)
    (whole : ∀ sub : Query, ¬ sub.IsPartOf query) (settled : query.functions.deferred = []) :
    normalize.run query = bringIntoForm.run query := by
  rcases withNormalized_of_whole whole with ⟨same, none⟩
  have idle : settleCalls.run query = .ok () query := by
    rw [settleCalls, EStateM.run_bind, EStateM.run_get]
    dsimp only
    rw [settled, List.isEmpty_nil, if_pos rfl]
    rfl
  rw [run_normalize_of_new new none, same, normalizeRest, EStateM.run_bind, idle]
  rfl

end Build

namespace Query

variable {query : Query}

theorem isPartOf_resolved_reporting {sub : Query} {reports : List Diagnostic}
    (part : sub.IsPartOf (query.resolved.reporting reports)) : sub.IsPartOf query := by
  rcases part with ⟨id, found⟩
  change (query.arena.patterns.map (Pattern.mapValues _))[id]? = _ at found
  rw [List.getElem?_map, Option.map_eq_some_iff] at found
  rcases found with ⟨p, here, equal⟩
  refine ⟨id, here.trans (congrArg some ?_)⟩
  cases p <;> simp_all [Pattern.mapValues]

theorem forgets_of_head? {report : Diagnostic} (strict : query.options.strict = true)
    (new : query.normalized = false) (whole : failed? query = none)
    (first : query.functions.settlement.head? = some report) : query.Forgets report := by
  have run := run_normalize_strict strict new whole first
  have after := after_of_run_error run
  refine ⟨strict, new, whole, first, after ▸ run, ?_, fun key => ?_, fun plain => ?_⟩
  · rw [after]
    rfl
  · rw [after]
    exact (withNormalized query).isDefined_mapValues _ key
  · -- The record was emptied before the report, so that there is nothing left to settle.
    rw [(withNormalized_of_whole plain).1] at after
    rw [after]
    have plain' : ∀ sub : Query, ¬ sub.IsPartOf (query.resolved.reporting [report]) :=
      fun sub part => plain sub (isPartOf_resolved_reporting part)
    exact run_normalize_of_settled new plain' rfl

theorem exists_forgets {key : String} (strict : query.options.strict = true)
    (new : query.normalized = false) (whole : failed? query = none)
    (listed : key ∈ query.functions.undefinedNames)
    (undefined : query.functions.isDefined key = false) : ∃ report, query.Forgets report := by
  cases reports : query.functions.settlement with
  | cons report others =>
      exact ⟨report, forgets_of_head? strict new whole (by rw [reports]; rfl)⟩
  | nil =>
      have none := Functions.unsettled_of_settlement reports
      rcases List.mem_map.mp listed with ⟨entry, member, rfl⟩
      have kept : entry ∈ query.functions.unsettled :=
        List.mem_filter.mpr ⟨member, by simp [undefined]⟩
      simp [none] at kept

end Query

/-! ## Operations -/

namespace Build

theorem ends_lists_normalizeRest (query : Query) :
    Ends normalizeRest query (fun _ query' => query.functions.Lists query'.functions)
      fun _ query' => query.functions.Lists query'.functions ∨
        ∃ report, query.options.strict = true ∧
          query.functions.settlement.head? = some report := by
  rw [normalizeRest]
  apply ((ends_settleCalls query).imp (fun _ _ => id) ?_).bind
  · rintro _ _ rfl
    have forms {query' : Query} (formed : Formed query.settled query') :
        query.functions.Lists query'.functions := formed.alike.functions ▸ query.lists_settled
    apply ((ends_normalizeForm query.settled).imp (fun _ _ => id) ?_).bind
    · intro _ _ formed
      have lists := forms formed
      exact lists
    · exact fun _ _ halted => .inl (forms halted.1)
  · rintro _ _ ⟨report, _, strict, first, _⟩
    exact .inr ⟨report, strict, first⟩

theorem lists_or_forgets_normalize (query : Query) :
    query.functions.Lists (normalize.after query).functions ∨
      ∃ report, query.Forgets report := by
  by_cases old : query.normalized = true
  · rw [after_of_run_ok (run_normalize_of_normalized old)]
    exact .inl (Functions.extends_of_eq rfl).lists
  have new : query.normalized = false := Bool.eq_false_iff.mpr old
  suffices ends : Ends (normalizeWith normalize) query
      (fun _ query' => query.functions.Lists query'.functions ∨ ∃ report, query.Forgets report)
      fun _ query' => query.functions.Lists query'.functions ∨ ∃ report, query.Forgets report by
    have after := ends.after
    rwa [Build.after, ← run_normalize_eq] at after
  rw [normalizeWith_eq, ends_bind, ends_get, if_neg old]
  apply ((ends_normalizeSubqueries normalize query).imp (fun _ _ => id) ?_).bind
  · rintro _ _ ⟨whole, rfl⟩
    apply (ends_lists_normalizeRest (withNormalized query)).imp (fun _ _ => .inl)
    rintro _ _ (lists | ⟨report, strict, first⟩)
    · exact .inl lists
    · exact .inr ⟨report, Query.forgets_of_head? strict new whole first⟩
  · rintro _ _ ⟨_, _, rfl⟩
    exact .inl (Functions.extends_of_eq rfl).lists

theorem lists_or_forgets_subquery {query sub : Query} {id : PatternId}
    (found : query.arena.get? id = some (.subquery sub)) :
    ∃ sub', (normalize.after query).arena.get? id = some (.subquery sub') ∧
      (sub.functions.Lists sub'.functions ∨
        ∃ report, (sub.inheriting query.functions.definitions).Forgets report) := by
  rcases (ends_normalizes query).after.patterns id _ found with ⟨p, here, normalizes⟩
  cases normalizes with
  | resolves resolves =>
      cases resolves
      exact ⟨sub, here, .inl (Functions.extends_of_eq rfl).lists⟩
  | subquery =>
      refine ⟨_, here, ?_⟩
      have inherits := sub.functions.lists_inherit query.functions.definitions
      have normalized := lists_or_forgets_normalize (sub.inheriting query.functions.definitions)
      exact normalized.imp_left inherits.trans

theorem listed_asked (query : Query) (head : Call) (args : List Expr) :
    head.key ∈ (asked query head args).2.functions.undefinedNames ∨
      (asked query head args).2.functions.isDefined head.key = true := by
  rw [asked]
  split
  · next definition found =>
      refine .inr ?_
      change query.functions.isDefined head.key = true
      rw [Functions.isDefined, found]
      rfl
  · exact .inl ((query.functions.mem_undefinedNames_defer ..).mpr (.inl rfl))

/-- The name of a call that was made is on record or defined, if it has no meaning of its own. -/
theorem listed_of_run_aggregate {name : String} {args : List Expr} {distinct : Bool}
    {separator : Option String} {query query' : Query} {e : Expr}
    (meant : Operator.ofName (query.namespaces.key name) = .undefined)
    (run : (aggregate name args distinct separator).run query = .ok e query') :
    query.namespaces.key name ∈ query'.functions.undefinedNames ∨
      query'.functions.isDefined (query.namespaces.key name) = true := by
  have lenient : query.leniently.options.strict = false := rfl
  rcases exists_run_aggregate_of_undefined lenient name distinct separator meant with
    ⟨head, reports, _, key, _, runs⟩
  have takes : Takes .all (aggregate name args distinct separator) :=
    takes_aggregate Steps.complains_all (Steps.changes_all _) name args distinct separator
  have asks := (run_leniently takes run).symm.trans (runs args query.leniently rfl rfl rfl)
  have listed := listed_asked (query.leniently.reporting reports) head args
  rw [← (EStateM.Result.ok.inj asks).2, key] at listed
  exact listed

end Build

namespace Operation

theorem lists_or_forgets (operation : Operation) (query : Query) :
    query.functions.Lists (operation.run.after query).functions ∨
      operation = .normalize ∧ ∃ report, query.Forgets report := by
  by_cases normalizes : operation = .normalize
  · subst normalizes
    rw [run, silent, after_map]
    exact (lists_or_forgets_normalize query).imp_right fun forgets => ⟨rfl, forgets⟩
  · exact .inl (extends_functions normalizes query).lists

theorem isDefined_after (operation : Operation) {query : Query} {key : String}
    (defined : query.functions.isDefined key = true) :
    (operation.run.after query).functions.isDefined key = true := by
  rcases operation.lists_or_forgets query with lists | ⟨rfl, _, forgets⟩
  · exact lists.definitions key defined
  · rw [run, silent, after_map, forgets.defined, defined]

theorem mem_undefinedNames_of_called {operation : Operation} {query query' : Query}
    {answer : Answer} {key : String} {count : Nat} (called : (key, count) ∈ operation.called query)
    (run : operation.run.run query = .ok answer query')
    (undefined : query'.functions.isDefined key = false) :
    key ∈ query'.functions.undefinedNames := by
  have made {name : String} {args : List Expr} {distinct : Bool} {separator : Option String}
      (same : operation.run = Answer.expr <$> Build.aggregate name args distinct separator)
      (here : operation.called query =
        if Operator.ofName (query.namespaces.key name) = .undefined then
          [(query.namespaces.key name, args.length)]
        else []) : key ∈ query'.functions.undefinedNames := by
    rw [here] at called
    split at called
    · next meant =>
        cases List.mem_singleton.mp called
        rw [same, map_eq_pure_bind, EStateM.run_bind] at run
        split at run
        · next e between run' =>
            cases run
            apply (listed_of_run_aggregate meant run').resolve_right
            rw [undefined]
            exact Bool.false_ne_true
        · cases run
    · simp at called
  cases operation with
  | call name args => exact made rfl rfl
  | aggregate name args distinct separator => exact made rfl rfl
  | _ => simp [Operation.called] at called

end Operation

/-! ## Runs -/

namespace Script

theorem undefined_of_play (script : Script) (known : List Outcome) {query : Query} {key : String}
    (undefined : (script.play known query).2.functions.isDefined key = false) :
    query.functions.isDefined key = false := by
  apply Bool.eq_false_iff.mpr
  intro defined
  have keeps (operation : Operation) (query : Query) : query.functions.isDefined key = true →
      (operation.run.after query).functions.isDefined key = true := operation.isDefined_after
  have kept := play_keeps keeps script known defined
  exact Bool.false_ne_true (undefined.symm.trans kept)

theorem listed_play (script : Script) (known : List Outcome) {query : Query} {key : String}
    (listed : key ∈ query.functions.undefinedNames)
    (undefined : (script.play known query).2.functions.isDefined key = false) :
    key ∈ (script.play known query).2.functions.undefinedNames ∨
      ∃ (before : Script) (step : List Outcome → Operation) (rest : Script) (report : Diagnostic),
        script = before ++ step :: rest ∧ step (before.play known query).1 = .normalize ∧
        (before.play known query).2.Forgets report := by
  induction script generalizing known query with
  | nil => exact .inl listed
  | cons step rest induction =>
      rcases (step known).lists_or_forgets query with lists | ⟨normalizes, report, forgets⟩
      · rw [← outcome_snd] at lists
        -- Otherwise the step could have taken the name off the record as a defined one.
        have undefined' : ((step known).run.outcome query).2.functions.isDefined key = false :=
          undefined_of_play rest _ undefined
        rcases induction _ (lists.names key listed undefined') undefined with
          onward | ⟨before, step', rest', report, rfl, found⟩
        · exact .inl onward
        · exact .inr ⟨step :: before, step', rest', report, rfl, found⟩
      · exact .inr ⟨[], step, rest, report, rfl, normalizes, forgets⟩

/-- A call is made of a name without a meaning of its own. However often the query is normalized
after that, and whatever else is done, the name is on record until it is defined, unless the query
is strict and normalizing it stopped at a report on its calls. A strict query with such a name on
record always stops so, if it is not normalized yet and its subqueries can be, and forgets all of
its names. The names of subqueries stay and are forgotten in the same way. -/
theorem listed_or_forgotten {operation : Operation} {query created : Query} {answer : Answer}
    {key : String} {count : Nat} (called : (key, count) ∈ operation.called query)
    (run : operation.run.run query = .ok answer created) (script : Script) (known : List Outcome) :
    ((script.play known created).2.functions.isDefined key = false →
      key ∈ (script.play known created).2.functions.undefinedNames ∨
        ∃ (before : Script) (step : List Outcome → Operation) (rest : Script)
            (report : Diagnostic), script = before ++ step :: rest ∧
          step (before.play known created).1 = .normalize ∧
          (before.play known created).2.Forgets report) ∧
      (∀ query : Query, key ∈ query.functions.undefinedNames →
        query.functions.isDefined key = false → query.options.strict = true →
        query.normalized = false → failed? query = none → ∃ report, query.Forgets report) ∧
      ∀ (query : Query) (id : PatternId) (sub : Query),
        query.arena.get? id = some (.subquery sub) →
        ∃ sub', (normalize.after query).arena.get? id = some (.subquery sub') ∧
          (sub.functions.Lists sub'.functions ∨
            ∃ report, (sub.inheriting query.functions.definitions).Forgets report) := by
  refine ⟨fun undefined => ?_, fun query listed undefined strict new whole => ?_, fun _ _ _ =>
    lists_or_forgets_subquery⟩
  · have before : created.functions.isDefined key = false :=
      undefined_of_play script known undefined
    have listed := Operation.mem_undefinedNames_of_called called run before
    exact script.listed_play known listed undefined
  · exact Query.exists_forgets strict new whole listed undefined

def strictlyCalled : Query :=
  (Operation.call "f" [.var (.ofName "x")]).run.after { options := { strict := true } }

def filteredOnce : Script :=
  [fun _ => .filter (.call { name := "f", operator := .undefined } [.var (.ofName "x")]),
    fun _ => .normalize]

theorem strictlyCalled_forgotten :
    "f" ∉ (filteredOnce.play [] strictlyCalled).2.functions.undefinedNames ∧
      ∃ (before : Script) (step : List Outcome → Operation) (rest : Script) (report : Diagnostic),
        filteredOnce = before ++ step :: rest ∧
        step (before.play [] strictlyCalled).1 = .normalize ∧
        (before.play [] strictlyCalled).2.Forgets report := by
  let start : Query := { options := { strict := true } }
  have run : ∃ answer, (Operation.call "f" [.var (.ofName "x")]).run.run start =
      .ok answer strictlyCalled := exists_run_of_returns (by decide +kernel)
  rcases run with ⟨answer, run⟩
  have called : ("f", 1) ∈ (Operation.call "f" [.var (.ofName "x")]).called start := by
    decide +kernel
  have unlisted : "f" ∉ (filteredOnce.play [] strictlyCalled).2.functions.undefinedNames := by
    decide +kernel
  have undefined : (filteredOnce.play [] strictlyCalled).2.functions.isDefined "f" = false := by
    decide +kernel
  exact ⟨unlisted, ((listed_or_forgotten called run filteredOnce []).1 undefined).resolve_left
    unlisted⟩

/-- Normalizing fails, and then the one condition of the strict query calls a function that is
neither defined nor on record. The next time the query is normalized. -/
theorem strictlyCalled_unlisted :
    let query := (filteredOnce.play [] strictlyCalled).2
    strictlyCalled.functions.undefinedNames = ["f"] ∧
      (filteredOnce.play [] strictlyCalled).1.map Except.toBool = [true, false] ∧
      query.options.strict = true ∧
      (query.arena.patterns.map fun p => (p.value?.map Expr.calls).map
        (List.map fun call => (call.key, call.operator))) = [some [("f", .undefined)]] ∧
      query.functions.isDefined "f" = false ∧ query.functions.undefinedNames = [] ∧
      normalize.returns query = true := by
  decide +kernel

end Script

end Sparql
