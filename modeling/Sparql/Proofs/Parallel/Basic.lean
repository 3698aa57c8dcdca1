import Mathlib.Logic.Function.Basic
import Sparql.Proofs.Check.Returns
import Sparql.Proofs.Pattern.Plain

/-!
Two queries that are checked side by side. The second has the patterns of the first and more after
them, and its blank labels may belong to other patterns. Runs are parallel if they end in the same
way and leave the queries alike: `Comparison.Parallel`.
-/

namespace Sparql

namespace Pattern

def ownsLabels {Sub : Type} : Pattern Sub → Bool
  | triple _ | group _ | collection _ _ => true
  | _ => false

theorem plain_of_ownsLabels {Sub : Type} {p : Pattern Sub} (owns : p.ownsLabels = true) :
    p.plain? = some p := by
  cases p with
  | subquery _ => cases owns
  | _ => rfl

end Pattern

/-! ## Comparisons -/

/-- A check asks the same of the clauses, their form and their patterns apart. -/
structure Clauses.AsksAlike (clauses clauses' : Clauses) : Prop where
  dataUpdate : clauses'.dataUpdate = clauses.dataUpdate
  values : clauses'.values = clauses.values
  selectAll : clauses'.selectAll = clauses.selectAll
  groupBy : clauses'.groupBy = clauses.groupBy

/-- What is fixed of two queries while they are checked: the patterns and clauses that they start
with, which pattern of the second query stands for a pattern of the first where blank labels are
concerned, and which reports count. -/
structure Comparison where
  arena : Arena Query
  extra : List (Pattern Query)
  clauses : Clauses
  clauses' : Clauses
  owner : PatternId → PatternId
  counts : Diagnostic → Bool
  owner_injective : Function.Injective owner
  counts_of_isError : ∀ diagnostic, diagnostic.isError = true → counts diagnostic = true
  counts_of_shared : ∀ diagnostic, diagnostic.code = .blankNodeScope → counts diagnostic = true
  asks : clauses.AsksAlike clauses'

namespace Comparison

/-- A descent from the pattern needs no more levels than these, and meets only patterns that stand
for themselves. -/
def Covers (c : Comparison) : (levels : Nat) → PatternId → Prop
  | 0, _ => False
  | levels + 1, id => c.owner id = id ∧
      ∃ p, c.arena.get? id = some p ∧ ∀ part ∈ p.parts, c.Covers levels part

theorem covers_of_fits {c : Comparison} {levels : Nat} {id : PatternId}
    (fits : c.arena.Fits levels id)
    (fixed : ∀ next, c.arena.Reaches id next → c.owner next = next) : c.Covers levels id := by
  induction levels generalizing id with
  | zero => exact fits.elim
  | succ levels induction =>
      rcases fits with ⟨p, found, fit⟩
      refine ⟨fixed id .refl, p, found, fun part member => ?_⟩
      exact induction (fit part member) fun next reaches =>
        fixed next (.head ⟨p, found, member⟩ reaches)

def whole (c : Comparison) : Arena Query := ⟨c.arena.patterns ++ c.extra⟩

structure Holds (c : Comparison) (query query' : Query) : Prop where
  frame : query.arena.patterns.map Pattern.plain? = c.arena.patterns.map Pattern.plain?
  arena : query'.arena.patterns = query.arena.patterns ++ c.extra
  clauses : query.clauses = { c.clauses with select := query.clauses.select }
  clauses' : query'.clauses = { c.clauses' with select := query.clauses.select }
  tested : ∀ id ∈ query.selectTested, c.Covers c.arena.levels id
  reports : query'.log.entries.filter c.counts = query.log.entries.filter c.counts
  correct : query'.log.correct = query.log.correct
  options : query'.options = query.options
  owners : query'.blankOwners = query.blankOwners.map (Prod.map id c.owner)

variable {c : Comparison} {query query' : Query}

namespace Holds

theorem frame_whole (holds : c.Holds query query') :
    query'.arena.patterns.map Pattern.plain? = c.whole.patterns.map Pattern.plain? := by
  rw [holds.arena, whole, List.map_append, List.map_append, holds.frame]

theorem levels_eq (holds : c.Holds query query') :
    query.arena.levels = c.arena.levels ∧ query'.arena.levels = c.whole.levels :=
  ⟨congrArg (· + 1) (Arena.size_of_map holds.frame),
    congrArg (· + 1) (Arena.size_of_map holds.frame_whole)⟩

theorem exists_get? (holds : c.Holds query query') {id : PatternId} {p : Pattern Query}
    (found : c.arena.get? id = some p) :
    ∃ p', query.arena.get? id = some p' ∧ query'.arena.get? id = some p' ∧
      p'.plain? = p.plain? := by
  have here := Arena.get?_of_frame holds.frame id
  rw [found, Option.map_some, Option.map_eq_some_iff] at here
  rcases here with ⟨p', found', plain⟩
  exact ⟨p', found', Arena.get?_of_added ⟨_, holds.arena.symm⟩ found', plain⟩

theorem exists_subquery (holds : c.Holds query query') {id : PatternId} {sub : Query}
    (found : c.arena.get? id = some (.subquery sub)) :
    ∃ sub', query.arena.get? id = some (.subquery sub') :=
  Arena.exists_subquery_of_frame holds.frame found

theorem get?_arena (holds : c.Holds query query') {id : PatternId} {p : Pattern Query}
    (found : c.arena.get? id = some p) (plain : p.plain? = some p) :
    query.arena.get? id = some p :=
  Arena.get?_of_plain holds.frame found plain

theorem get?_whole (holds : c.Holds query query') {id : PatternId} {p : Pattern Query}
    (found : c.whole.get? id = some p) (plain : p.plain? = some p) :
    query'.arena.get? id = some p :=
  Arena.get?_of_plain holds.frame_whole found plain

theorem keepsParts (holds : c.Holds query query') :
    c.arena.KeepsParts query.arena ∧ c.whole.KeepsParts query'.arena :=
  ⟨Arena.keepsParts_of_frame holds.frame, Arena.keepsParts_of_frame holds.frame_whole⟩

theorem isReported_eq (holds : c.Holds query query') (label : String) :
    Build.isReported query'.log label = Build.isReported query.log label := by
  have told (log : Log) : Build.isReported log label =
      (log.entries.filter c.counts).any fun entry =>
        entry.code == .blankNodeScope && entry.subject == some label := by
    rw [Build.isReported, List.any_filter]
    congr 1
    funext entry
    by_cases shared : entry.code = .blankNodeScope
    · rw [c.counts_of_shared entry shared, Bool.true_and]
    · have other : (entry.code == .blankNodeScope) = false := beq_eq_false_iff_ne.mpr shared
      rw [other, Bool.false_and, Bool.and_false]
  rw [told, told, holds.reports]

theorem lookup_owners (holds : c.Holds query query') (label : String) :
    query'.blankOwners.lookup label = (query.blankOwners.lookup label).map c.owner := by
  rw [holds.owners]
  generalize query.blankOwners = owners
  induction owners with
  | nil => rfl
  | cons first rest induction =>
      rw [List.map_cons, List.lookup_cons, List.lookup_cons]
      simp only [Prod.map_fst, id_eq, Prod.map_snd]
      split
      · rfl
      · exact induction

end Holds

/-! ## Parallel runs -/

section

variable {α β α' β' : Type}

/-- On these queries the operations end in the same way, with values that agree. -/
def Agrees (c : Comparison) (x : Build α) (y : Build β) (agree : α → β → Prop)
    (query query' : Query) : Prop :=
  match x.run query, y.run query' with
  | .ok value after, .ok value' after' => agree value value' ∧ c.Holds after after'
  | .error failure after, .error failure' after' => failure = failure' ∧ c.Holds after after'
  | _, _ => False

def Parallel (c : Comparison) (x : Build α) (y : Build β) (agree : α → β → Prop) : Prop :=
  ∀ query query', c.Holds query query' → c.Agrees x y agree query query'

theorem parallel_pure {agree : α → β → Prop} {value : α} {value' : β}
    (holds : agree value value') : c.Parallel (pure value) (pure value') agree :=
  fun _ _ alike => ⟨holds, alike⟩

theorem parallel_throw (failure : Failure) {agree : α → β → Prop} :
    c.Parallel (throw failure) (throw failure) agree :=
  fun _ _ alike => ⟨rfl, alike⟩

theorem parallel_modify {change change' : Query → Query}
    (keeps : ∀ query query', c.Holds query query' → c.Holds (change query) (change' query')) :
    c.Parallel (modify change) (modify change') fun _ _ => True :=
  fun query query' holds => ⟨trivial, keeps query query' holds⟩

theorem Parallel.bind {x : Build α} {y : Build β} {agree : α → β → Prop} {next : α → Build α'}
    {next' : β → Build β'} {agree' : α' → β' → Prop} (first : c.Parallel x y agree)
    (second : ∀ value value', agree value value' →
      c.Parallel (next value) (next' value') agree') :
    c.Parallel (x >>= next) (y >>= next') agree' := by
  intro query query' holds
  have ends := first query query' holds
  unfold Agrees at ends ⊢
  rw [EStateM.run_bind, EStateM.run_bind]
  cases run : x.run query <;> cases run' : y.run query' <;> rw [run, run'] at ends
  · exact second _ _ ends.1 _ _ ends.2
  · exact ends.elim
  · exact ends.elim
  · exact ends

theorem parallel_get_bind {next next' : Query → Build α} {agree : α → α → Prop}
    (agrees : ∀ query query', c.Holds query query' →
      c.Agrees (next query) (next' query') agree query query') :
    c.Parallel (get >>= next) (get >>= next') agree :=
  agrees

theorem Parallel.discard {x : Build α} {y : Build β} {agree : α → β → Prop}
    (parallel : c.Parallel x y agree) :
    c.Parallel (discard x) (discard y) fun _ _ => True := by
  have ends : c.Parallel (x >>= fun _ => pure ()) (y >>= fun _ => pure ()) fun _ _ => True :=
    parallel.bind fun _ _ _ => parallel_pure trivial
  rwa [← map_eq_pure_bind, ← map_eq_pure_bind] at ends

def Idle (c : Comparison) (x : Build α) (value : α) : Prop :=
  ∀ query query', c.Holds query query' → x.run query' = .ok value query'

theorem Parallel.bind_idle {x : Build α} {y : Build β} {agree : α → β → Prop} {next : β → Build β}
    (parallel : c.Parallel x y agree) (idle : ∀ value, c.Idle (next value) value) :
    c.Parallel x (y >>= next) agree := by
  have ends : c.Parallel (x >>= pure) (y >>= next) agree := by
    refine parallel.bind fun value value' holds query query' alike => ?_
    rw [Agrees, idle value' query query' alike]
    exact ⟨holds, alike⟩
  rwa [bind_pure] at ends

theorem idle_pure (value : α) : c.Idle (pure value) value := fun _ _ _ => rfl

theorem Idle.parallel {y : Build β} {value : α} {value' : β} {agree : α → β → Prop}
    (idle : c.Idle y value') (agrees : agree value value') : c.Parallel (pure value) y agree := by
  intro query query' holds
  rw [Agrees, idle query query' holds]
  exact ⟨agrees, holds⟩

theorem Idle.bind {x : Build α} {value : α} {next : α → Build β} {value' : β}
    (first : c.Idle x value) (second : c.Idle (next value) value') :
    c.Idle (x >>= next) value' := by
  intro query query' holds
  rw [EStateM.run_bind, first query query' holds]
  exact second query query' holds

theorem idle_forM {values : List α} {body : α → Build PUnit}
    (idle : ∀ value ∈ values, c.Idle (body value) ⟨⟩) : c.Idle (forM values body) ⟨⟩ := by
  induction values with
  | nil => exact idle_pure _
  | cons value rest induction =>
      rw [List.forM_cons]
      exact (idle value (List.mem_cons_self ..)).bind
        (induction fun value member => idle value (List.mem_cons_of_mem _ member))

theorem idle_foldlM {values : List α} {body : β → α → Build β} (accumulated : β)
    (idle : ∀ value ∈ values, c.Idle (body accumulated value) accumulated) :
    c.Idle (values.foldlM body accumulated) accumulated := by
  induction values with
  | nil => exact idle_pure _
  | cons value rest induction =>
      rw [List.foldlM_cons]
      exact (idle value (List.mem_cons_self ..)).bind
        (induction fun value member => idle value (List.mem_cons_of_mem _ member))

theorem idle_pattern {id : PatternId} {p : Pattern Query} (found : c.whole.get? id = some p)
    (plain : p.plain? = some p) : c.Idle (Build.pattern id) p := by
  intro query query' holds
  exact Build.run_pattern_ok.mpr ⟨holds.get?_whole found plain, rfl⟩

theorem Parallel.idle_bind {x : Build α} {y : Build α'} {value : α'} {next : α' → Build β}
    {agree : α → β → Prop} (idle : c.Idle y value) (parallel : c.Parallel x (next value) agree) :
    c.Parallel x (y >>= next) agree := by
  intro query query' holds
  have ends := parallel query query' holds
  unfold Agrees at ends ⊢
  rwa [EStateM.run_bind, idle query query' holds]

theorem Parallel.pattern_bind {id : PatternId} {p : Pattern Query} {next : Pattern Query → Build α}
    {y : Build β} {agree : α → β → Prop} (found : c.arena.get? id = some p)
    (plain : p.plain? = some p) (parallel : c.Parallel (next p) y agree) :
    c.Parallel (Build.pattern id >>= next) y agree := by
  intro query query' holds
  have ends := parallel query query' holds
  have looked : (Build.pattern id).run query = .ok p query :=
    Build.run_pattern_ok.mpr ⟨holds.get?_arena found plain, rfl⟩
  unfold Agrees at ends ⊢
  rwa [EStateM.run_bind, looked]

theorem parallel_forM {values : List α} {body body' : α → Build PUnit}
    (parallel : ∀ value ∈ values, c.Parallel (body value) (body' value) fun _ _ => True) :
    c.Parallel (forM values body) (forM values body') fun _ _ => True := by
  induction values with
  | nil => exact parallel_pure trivial
  | cons value rest induction =>
      rw [List.forM_cons, List.forM_cons]
      refine (parallel value (List.mem_cons_self ..)).bind fun _ _ _ => ?_
      exact induction fun value member => parallel value (List.mem_cons_of_mem _ member)

theorem parallel_foldlM {values : List α} {body body' : β → α → Build β} (accumulated : β)
    (parallel : ∀ value ∈ values, ∀ accumulated,
      c.Parallel (body accumulated value) (body' accumulated value) (· = ·)) :
    c.Parallel (values.foldlM body accumulated) (values.foldlM body' accumulated) (· = ·) := by
  induction values generalizing accumulated with
  | nil => exact parallel_pure rfl
  | cons value rest induction =>
      rw [List.foldlM_cons, List.foldlM_cons]
      refine (parallel value (List.mem_cons_self ..) accumulated).bind ?_
      rintro accumulated _ rfl
      exact induction accumulated fun value member => parallel value (List.mem_cons_of_mem _ member)

theorem parallel_inspect {look look' : Arena Query → Except Failure α} {agree : α → α → Prop}
    (same : ∀ query query', c.Holds query query' →
      (∃ value value', look query.arena = .ok value ∧ look' query'.arena = .ok value' ∧
          agree value value') ∨
        ∃ failure, look query.arena = .error failure ∧ look' query'.arena = .error failure) :
    c.Parallel (Build.inspect look) (Build.inspect look') agree := by
  intro query query' holds
  rw [Agrees, Build.run_inspect, Build.run_inspect]
  rcases same query query' holds with
    ⟨value, value', found, found', agree⟩ | ⟨failure, failed, failed'⟩
  · rw [found, found']
    exact ⟨agree, holds⟩
  · rw [failed, failed']
    exact ⟨rfl, holds⟩

end

/-! ## Reports -/

theorem Holds.add (holds : c.Holds query query') (diagnostic : Diagnostic) :
    c.Holds { query with log := query.log.add diagnostic }
      { query' with log := query'.log.add diagnostic } where
  frame := holds.frame
  arena := holds.arena
  clauses := holds.clauses
  clauses' := holds.clauses'
  tested := holds.tested
  reports := by
    rw [Log.add, Log.add, List.filter_append, List.filter_append, holds.reports]
  correct := by rw [Log.add, Log.add, holds.correct]
  options := holds.options
  owners := holds.owners

theorem parallel_report (diagnostic : Diagnostic) :
    c.Parallel (Build.report diagnostic) (Build.report diagnostic) fun _ _ => True := by
  refine (parallel_modify fun query query' holds => holds.add diagnostic).bind fun _ _ _ => ?_
  refine parallel_get_bind fun query query' holds => ?_
  rw [holds.options]
  split
  · exact parallel_throw _ query query' holds
  · exact parallel_pure trivial query query' holds

theorem parallel_problem (p : Problem) :
    c.Parallel (Build.problem p) (Build.problem p) fun _ _ => True :=
  parallel_report _

theorem Holds.report_uncounted (holds : c.Holds query query') {diagnostic : Diagnostic}
    (uncounted : c.counts diagnostic = false) :
    ∃ added added', (Build.report diagnostic).run query = .ok () added ∧
      (Build.report diagnostic).run query' = .ok () added' ∧ c.Holds added query' ∧
      c.Holds query added' := by
  have plain : diagnostic.isError = false := by
    by_contra error
    rw [c.counts_of_isError diagnostic (by simpa using error)] at uncounted
    cases uncounted
  have run (query : Query) : (Build.report diagnostic).run query =
      .ok () { query with log := query.log.add diagnostic } := by
    rw [Build.report, EStateM.run_bind, EStateM.run_modify]
    dsimp only
    rw [plain]
    rfl
  have entries (log : Log) :
      (log.add diagnostic).entries.filter c.counts = log.entries.filter c.counts := by
    rw [Log.add, List.filter_append, List.filter_singleton, uncounted]
    exact List.append_nil _
  have correct (log : Log) : (log.add diagnostic).correct = log.correct := by
    rw [Log.add, plain, Bool.not_false, Bool.and_true]
  refine ⟨_, _, run query, run query', { holds with reports := ?_, correct := ?_ },
    { holds with reports := ?_, correct := ?_ }⟩
  · rw [entries, holds.reports]
  · rw [correct, holds.correct]
  · rw [entries, holds.reports]
  · rw [correct, holds.correct]

end Comparison

end Sparql
