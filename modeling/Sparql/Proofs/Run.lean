import Sparql.Query.Basic

/-!
How operations on a query end. `Ends` says of a run what holds of its value and of the query
afterwards, and what holds of its failure. `Preserves` says that what holds of the query before any
run holds of it after the run.
-/

namespace Sparql

/-! ## Further reports -/

namespace Query

def reporting (query : Query) (reports : List Diagnostic) : Query :=
  { query with log := reports.foldl Log.add query.log }

@[simp] theorem reporting_nil (query : Query) : query.reporting [] = query := by
  cases query
  rfl

theorem reporting_append (query : Query) (reports reports' : List Diagnostic) :
    query.reporting (reports ++ reports') = (query.reporting reports).reporting reports' := by
  rw [reporting, List.foldl_append]
  rfl

@[simp] theorem entries_reporting (query : Query) (reports : List Diagnostic) :
    (query.reporting reports).log.entries = query.log.entries ++ reports := by
  have added (log : Log) : (reports.foldl Log.add log).entries = log.entries ++ reports := by
    induction reports generalizing log with
    | nil => simp
    | cons report rest induction => rw [List.foldl_cons, induction, Log.add, List.append_assoc]; rfl
  exact added query.log

@[simp] theorem functions_reporting (query : Query) (reports : List Diagnostic) :
    (query.reporting reports).functions = query.functions := rfl

end Query

namespace Build

variable {α β : Type}

/-! ## The end of a run -/

def Ends (x : Build α) (query : Query) (returns : α → Query → Prop)
    (fails : Failure → Query → Prop) : Prop :=
  match x.run query with
  | .ok value after => returns value after
  | .error failure after => fails failure after

def after (x : Build α) (query : Query) : Query :=
  match x.run query with
  | .ok _ after => after
  | .error _ after => after

theorem after_of_run_ok {x : Build α} {query after' : Query} {value : α}
    (run : x.run query = .ok value after') : x.after query = after' := by
  rw [after, run]

theorem after_of_run_error {x : Build α} {query after' : Query} {failure : Failure}
    (run : x.run query = .error failure after') : x.after query = after' := by
  rw [after, run]

theorem after_map (x : Build α) (change : α → β) (query : Query) :
    (change <$> x).after query = x.after query := by
  rw [map_eq_pure_bind, after, after, EStateM.run_bind]
  cases x.run query <;> rfl

def returns {α : Type} (x : Build α) (query : Query) : Bool :=
  match x.run query with
  | .ok _ _ => true
  | .error _ _ => false

theorem exists_run_of_returns {α : Type} {x : Build α} {query : Query}
    (holds : x.returns query = true) : ∃ value, x.run query = .ok value (x.after query) := by
  rw [returns] at holds
  split at holds
  · next value query' run => exact ⟨value, by rw [after_of_run_ok run, run]⟩
  · cases holds

section Rules

variable {query : Query} {fails : Failure → Query → Prop}

theorem Ends.of_run_ok {x : Build α} {returns : α → Query → Prop} {value : α} {query' : Query}
    (run : x.run query = .ok value query') (holds : returns value query') :
    Ends x query returns fails := by
  rw [Ends, run]
  exact holds

theorem Ends.of_ok {x : Build α} {returns : α → Query → Prop} {value : α} {query' : Query}
    (ends : Ends x query returns fails) (run : x.run query = .ok value query') :
    returns value query' := by
  rwa [Ends, run] at ends

theorem Ends.of_error {x : Build α} {returns : α → Query → Prop} {failure : Failure}
    {query' : Query} (ends : Ends x query returns fails)
    (run : x.run query = .error failure query') : fails failure query' := by
  rwa [Ends, run] at ends

theorem Ends.imp {x : Build α} {returns returns' : α → Query → Prop}
    {fails' : Failure → Query → Prop} (ends : Ends x query returns fails)
    (ok : ∀ value query', returns value query' → returns' value query')
    (error : ∀ failure query', fails failure query' → fails' failure query') :
    Ends x query returns' fails' := by
  unfold Ends at ends ⊢
  split
  · next run =>
      rw [run] at ends
      exact ok _ _ ends
  · next run =>
      rw [run] at ends
      exact error _ _ ends

theorem Ends.and {x : Build α} {returns returns' : α → Query → Prop}
    {fails' : Failure → Query → Prop} (left : Ends x query returns fails)
    (right : Ends x query returns' fails') :
    Ends x query (fun value query' => returns value query' ∧ returns' value query')
      fun failure query' => fails failure query' ∧ fails' failure query' := by
  unfold Ends at left right ⊢
  split <;> simp_all

theorem ends_run (x : Build α) (query : Query) :
    Ends x query (fun value query' => x.run query = .ok value query') fun _ _ => True := by
  unfold Ends
  split
  · next run => exact run
  · trivial

theorem Ends.after {x : Build α} {property : Query → Prop}
    (ends : Ends x query (fun _ => property) fun _ => property) : property (x.after query) := by
  unfold Ends at ends
  unfold Build.after
  split <;> simp_all

theorem Ends.exists_ok {x : Build α} {returns : α → Query → Prop}
    (ends : Ends x query returns fun _ _ => False) :
    ∃ value query', x.run query = .ok value query' ∧ returns value query' := by
  unfold Ends at ends
  split at ends
  · next value query' run => exact ⟨value, query', run, ends⟩
  · exact ends.elim

@[simp] theorem ends_pure (value : α) (returns : α → Query → Prop) :
    Ends (pure value) query returns fails ↔ returns value query := Iff.rfl

@[simp] theorem ends_get (returns : Query → Query → Prop) :
    Ends get query returns fails ↔ returns query query := Iff.rfl

@[simp] theorem ends_set (query' : Query) (returns : PUnit → Query → Prop) :
    Ends (set query') query returns fails ↔ returns ⟨⟩ query' := Iff.rfl

@[simp] theorem ends_modify (change : Query → Query) (returns : PUnit → Query → Prop) :
    Ends (modify change) query returns fails ↔ returns ⟨⟩ (change query) := Iff.rfl

@[simp] theorem ends_throw (failure : Failure) (returns : α → Query → Prop) :
    Ends (throw failure) query returns fails ↔ fails failure query := Iff.rfl

@[simp] theorem ends_bind (x : Build α) (next : α → Build β) (returns : β → Query → Prop) :
    Ends (x >>= next) query returns fails ↔
      Ends x query (fun value query' => Ends (next value) query' returns fails) fails := by
  unfold Ends
  rw [EStateM.run_bind]
  cases x.run query <;> rfl

@[simp] theorem ends_map (x : Build α) (change : α → β) (returns : β → Query → Prop) :
    Ends (change <$> x) query returns fails ↔
      Ends x query (fun value query' => returns (change value) query') fails := by
  rw [map_eq_pure_bind, ends_bind]
  simp only [ends_pure]

@[simp] theorem ends_discard (x : Build α) (returns : PUnit → Query → Prop) :
    Ends (discard x) query returns fails ↔
      Ends x query (fun _ query' => returns ⟨⟩ query') fails := by
  rw [discard]
  exact ends_map x _ _

theorem ends_inspect (look : Arena Query → Except Failure α) (returns : α → Query → Prop) :
    Ends (inspect look) query returns fails ↔
      match look query.arena with
      | .ok value => returns value query
      | .error failure => fails failure query := by
  rw [inspect, ends_bind, ends_get]
  cases look query.arena <;> rfl

theorem ends_pattern (id : PatternId) (returns : Pattern Query → Query → Prop) :
    Ends (pattern id) query returns fails ↔
      match query.arena.get? id with
      | some p => returns p query
      | none => fails (.unknownPattern id) query := by
  rw [pattern, ends_inspect, Arena.get]
  cases query.arena.get? id <;> rfl

theorem run_inspect (look : Arena Query → Except Failure α) (query : Query) :
    (inspect look).run query =
      match look query.arena with
      | .ok value => .ok value query
      | .error failure => .error failure query := by
  simp only [inspect, EStateM.run_bind, EStateM.run_get]
  cases look query.arena <;> rfl

theorem run_pattern_ok {id : PatternId} {query query' : Query} {p : Pattern Query} :
    (pattern id).run query = .ok p query' ↔ query.arena.get? id = some p ∧ query = query' := by
  rw [pattern, run_inspect, Arena.get]
  cases query.arena.get? id <;> simp

theorem ends_report (diagnostic : Diagnostic) (returns : PUnit → Query → Prop) :
    Ends (report diagnostic) query returns fails ↔
      if diagnostic.isError && query.options.strict then
        fails (.strict diagnostic) { query with log := query.log.add diagnostic }
      else returns ⟨⟩ { query with log := query.log.add diagnostic } := by
  simp only [report, ends_bind, ends_modify, ends_get]
  split <;> simp

theorem ends_reports (reports : List Diagnostic) (query : Query) :
    Ends (forM reports report) query (fun _ query' => query' = query.reporting reports)
      fun _ _ => True := by
  induction reports generalizing query with
  | nil => exact query.reporting_nil.symm
  | cons diagnostic rest induction =>
      rw [List.forM_cons, ends_bind, ends_report]
      split
      · trivial
      · exact induction _

theorem run_report (diagnostic : Diagnostic) (query : Query) :
    (report diagnostic).run query =
      if diagnostic.isError && query.options.strict then
        .error (.strict diagnostic) { query with log := query.log.add diagnostic }
      else .ok ⟨⟩ { query with log := query.log.add diagnostic } := by
  rw [report, EStateM.run_bind, EStateM.run_modify]
  dsimp only
  rw [EStateM.run_bind, EStateM.run_get]
  dsimp only
  split <;> rfl

theorem run_reports {query : Query} (lenient : query.options.strict = false)
    (reports : List Diagnostic) :
    (forM reports report).run query = .ok ⟨⟩ (query.reporting reports) := by
  induction reports generalizing query with
  | nil => rw [Query.reporting_nil]; rfl
  | cons diagnostic rest induction =>
      have first : (report diagnostic).run query = .ok ⟨⟩ (query.reporting [diagnostic]) := by
        rw [run_report, lenient, Bool.and_false]
        rfl
      have later : (query.reporting [diagnostic]).options.strict = false := lenient
      rw [List.forM_cons, EStateM.run_bind, first]
      dsimp only
      rw [induction later, ← Query.reporting_append]
      rfl

theorem Ends.bind {x : Build α} {next : α → Build β} {between : α → Query → Prop}
    {returns : β → Query → Prop} (first : Ends x query between fails)
    (second : ∀ value query', between value query' → Ends (next value) query' returns fails) :
    Ends (x >>= next) query returns fails :=
  (ends_bind x next returns).mpr (first.imp second fun _ _ => id)

end Rules

/-! ## Invariants

An invariant that each part of an operation preserves is preserved by all of it. When the operation
fails, what is said of failures holds instead. -/

def Preserves (invariant : Query → Prop) (fails : Failure → Query → Prop) (x : Build α) : Prop :=
  ∀ query, invariant query → Ends x query (fun _ => invariant) fails

section

variable {invariant : Query → Prop} {fails : Failure → Query → Prop}

theorem Preserves.bind {x : Build α} {next : α → Build β} (first : Preserves invariant fails x)
    (second : ∀ value, Preserves invariant fails (next value)) :
    Preserves invariant fails (x >>= next) :=
  fun query holds => (first query holds).bind second

theorem preserves_get_bind {next : Query → Build α}
    (holds : ∀ query, invariant query → Ends (next query) query (fun _ => invariant) fails) :
    Preserves invariant fails (get >>= next) :=
  fun query start => (ends_bind get next _).mpr (holds query start)

theorem Preserves.map {x : Build α} (preserves : Preserves invariant fails x) (change : α → β) :
    Preserves invariant fails (change <$> x) :=
  fun query start => (ends_map x change _).mpr (preserves query start)

theorem Preserves.discard {x : Build α} (preserves : Preserves invariant fails x) :
    Preserves invariant fails (discard x) :=
  preserves.map _

theorem preserves_pure (value : α) : Preserves invariant fails (pure value) := fun _ => id

theorem preserves_throw {failure : Failure}
    (holds : ∀ query, invariant query → fails failure query) :
    Preserves invariant fails (throw failure : Build α) :=
  holds

theorem preserves_modify {change : Query → Query}
    (holds : ∀ query, invariant query → invariant (change query)) :
    Preserves invariant fails (modify change) :=
  holds

theorem preserves_inspect {look : Arena Query → Except Failure α}
    (holds : ∀ query failure, invariant query → look query.arena = .error failure →
      fails failure query) :
    Preserves invariant fails (inspect look) := by
  intro query start
  rw [ends_inspect]
  split
  · exact start
  · next failure failed => exact holds query failure start failed

theorem preserves_forM {values : List α} {body : α → Build PUnit}
    (preserves : ∀ value ∈ values, Preserves invariant fails (body value)) :
    Preserves invariant fails (forM values body) := by
  induction values with
  | nil => exact preserves_pure _
  | cons value rest induction =>
      rw [List.forM_cons]
      refine (preserves value (List.mem_cons_self ..)).bind fun _ => ?_
      exact induction fun value member => preserves value (List.mem_cons_of_mem _ member)

theorem preserves_mapM {values : List α} {body : α → Build β}
    (preserves : ∀ value ∈ values, Preserves invariant fails (body value)) :
    Preserves invariant fails (values.mapM body) := by
  induction values with
  | nil => exact preserves_pure []
  | cons value rest induction =>
      rw [List.mapM_cons]
      refine (preserves value (List.mem_cons_self ..)).bind fun first => ?_
      refine (induction fun value member => preserves value (List.mem_cons_of_mem _ member)).bind ?_
      exact fun others => preserves_pure (first :: others)

theorem Preserves.after {x : Build α} (preserves : Preserves invariant (fun _ => invariant) x)
    {query : Query} (start : invariant query) : invariant (x.after query) :=
  (preserves query start).after

end

end Build

end Sparql
