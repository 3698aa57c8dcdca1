import Sparql.Proofs.Calls.Places
import Sparql.Proofs.Failures
import Sparql.Proofs.Run

/-!
What operations are made of. An operation asks the query, changes it without touching its reports
and options, reports, and fails. No step asks whether the query is strict: a strict query differs
only in that a report of an error ends the operation. `Takes` says which of these steps an operation
takes, and `Takes.rec` is the way to prove something of all of them at once.
-/

namespace Sparql

namespace Query

def strictly (query : Query) : Query := { query with options.strict := true }

def leniently (query : Query) : Query := { query with options.strict := false }

@[simp] theorem strict_leniently (query : Query) : query.leniently.options.strict = false := rfl

@[simp] theorem log_leniently (query : Query) : query.leniently.log = query.log := rfl

@[simp] theorem leniently_strictly (query : Query) :
    query.leniently.strictly = query.strictly := rfl

theorem level_strictly (query : Query) : query.strictly.level = query.level := by
  rw [Query.level_eq, Query.level_eq]
  rfl

end Query

namespace Build

/-! ## Steps -/

/-- A change that leaves reports and options alone, and does the same whether or not the query is
strict. -/
structure Quiet (change : Query → Query) : Prop where
  blind : ∀ query, change query.strictly = (change query).strictly
  log : ∀ query, (change query).log = query.log
  options : ∀ query, (change query).options = query.options

/-- The steps that an operation may take: what may become of the query, what may be reported, and
which failures may be raised besides those of a strict query. -/
structure Steps where
  change : Query → Query → Prop
  report : Diagnostic → Prop
  fail : Failure → Prop

namespace Steps

def all : Steps := ⟨fun _ _ => True, fun _ => True, fun _ => True⟩

/-- Steps that leave the functions alone and add no other expressions and subqueries. -/
def adding (added : List Expr) (may : Query → Prop) : Steps :=
  ⟨Query.Adds added may, fun _ => True, fun _ => True⟩

def Complains (steps : Steps) : Prop := ∀ diagnostic, diagnostic.isError = true →
  steps.report diagnostic

def Refuses (steps : Steps) : Prop := ∀ failure, failure.isRefusal = true → steps.fail failure

def Changes (steps : Steps) (change : Query → Query → Prop) : Prop := ∀ query query',
  change query query' → steps.change query query'

theorem complains_all : all.Complains := fun _ _ => trivial

theorem changes_all (change : Query → Query → Prop) : all.Changes change := fun _ _ _ => trivial

section

variable {added : List Expr} {may : Query → Prop}

theorem complains_adding : (adding added may).Complains := fun _ _ => trivial

theorem refuses_adding : (adding added may).Refuses := fun _ _ => trivial

theorem changes_adding : (adding added may).Changes Query.Alike :=
  fun _ _ alike => alike.adds added may

end

end Steps

inductive Takes (steps : Steps) : {α : Type} → Build α → Prop
  | pure {α : Type} (value : α) : Takes steps (pure value)
  | throw {α : Type} {failure : Failure} (allowed : steps.fail failure) :
      Takes steps (throw failure : Build α)
  | report {diagnostic : Diagnostic} (allowed : steps.report diagnostic) :
      Takes steps (report diagnostic)
  | modify {change : Query → Query} (quiet : Quiet change)
      (allowed : ∀ query, steps.change query (change query)) : Takes steps (modify change)
  | ask {α : Type} {next : Query → Build α} (blind : ∀ query, next query.strictly = next query)
      (rest : ∀ query, Takes steps (next query)) : Takes steps (get >>= next)
  | bind {α β : Type} {x : Build α} {next : α → Build β} (first : Takes steps x)
      (rest : ∀ value, Takes steps (next value)) : Takes steps (x >>= next)

variable {α β : Type} {steps : Steps}

theorem get_bind_congr {next next' : Query → Build α}
    (same : ∀ query, (next query).run query = (next' query).run query) :
    get >>= next = get >>= next' :=
  funext same

/-! ## Compositions -/

namespace Takes

theorem all {x : Build α} (takes : Takes steps x) : Takes .all x := by
  induction takes with
  | pure value => exact .pure value
  | throw _ => exact .throw trivial
  | report _ => exact .report trivial
  | modify quiet _ => exact .modify quiet fun _ => trivial
  | ask blind _ rest => exact .ask blind rest
  | bind _ _ first rest => exact first.bind rest

theorem map {x : Build α} (takes : Takes steps x) (change : α → β) :
    Takes steps (change <$> x) := by
  rw [map_eq_pure_bind]
  exact takes.bind fun value => .pure (change value)

theorem discard {x : Build α} (takes : Takes steps x) : Takes steps (discard x) :=
  takes.map _

theorem ite {condition : Prop} [Decidable condition] {x y : Build α} (yes : Takes steps x)
    (no : Takes steps y) : Takes steps (if condition then x else y) := by
  split
  · exact yes
  · exact no

end Takes

theorem takes_forM {values : List α} {body : α → Build PUnit}
    (takes : ∀ value ∈ values, Takes steps (body value)) : Takes steps (forM values body) := by
  induction values with
  | nil => exact .pure _
  | cons value rest induction =>
      rw [List.forM_cons]
      apply (takes value (List.mem_cons_self ..)).bind
      intro _
      exact induction fun value member => takes value (List.mem_cons_of_mem _ member)

theorem takes_mapM {values : List α} {body : α → Build β}
    (takes : ∀ value, Takes steps (body value)) : Takes steps (values.mapM body) := by
  induction values with
  | nil => exact .pure []
  | cons value rest induction =>
      rw [List.mapM_cons]
      apply (takes value).bind
      intro first
      exact induction.bind fun others => .pure (first :: others)

/-! ## Questions to the arena -/

theorem takes_inspect {look : Arena Query → Except Failure α}
    (allowed : ∀ arena failure, look arena = .error failure → steps.fail failure) :
    Takes steps (inspect look) := by
  apply Takes.ask (fun _ => rfl)
  intro query
  cases looked : look query.arena with
  | ok value => exact .pure value
  | error failure => exact .throw (allowed _ failure looked)

theorem takes_look (refuses : steps.Refuses) {look : Arena Query → Except Failure α}
    (fair : Fair look) : Takes steps (inspect look) :=
  takes_inspect fun arena failure failed => refuses failure (fair arena failure failed)

theorem takes_pattern (refuses : steps.Refuses) (id : PatternId) : Takes steps (pattern id) :=
  takes_look refuses (fair_get id)

theorem takes_known (refuses : steps.Refuses) (id : PatternId) : Takes steps (known id) :=
  (takes_pattern refuses id).discard

/-! ## Reports -/

theorem isError_toDiagnostic {p : Problem} (error : ∀ target, p ≠ .neverBound target) :
    p.toDiagnostic.isError = true := by
  cases p with
  | neverBound target => exact absurd rfl (error target)
  | _ => rfl

theorem takes_problem (complains : steps.Complains) {p : Problem}
    (error : ∀ target, p ≠ .neverBound target) : Takes steps (problem p) :=
  .report (complains _ (isError_toDiagnostic error))

end Build

end Sparql
