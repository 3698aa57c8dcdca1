import Sparql.Proofs.Steps.Operation

/-!
A strict query fails at the first error that another one collects. The two do the same until then,
and if there is no error they do the same throughout: `Script.failFast`.
-/

namespace Sparql

/-! ## Runs -/

def Build.outcome {α : Type} (x : Build α) (query : Query) : Except Failure α × Query :=
  match x.run query with
  | .ok value query' => (.ok value, query')
  | .error failure query' => (.error failure, query')

namespace Query

/-- The query has the same reports as before and others, none of which is an error. -/
def Warned (query query' : Query) : Prop :=
  ∃ warnings, query'.log.entries = query.log.entries ++ warnings ∧
    ∀ warning ∈ warnings, warning.isError = false

theorem Warned.refl (query : Query) : query.Warned query := ⟨[], by simp, by simp⟩

theorem Warned.trans {query query' query'' : Query} (first : query.Warned query')
    (second : query'.Warned query'') : query.Warned query'' := by
  rcases first with ⟨warnings, first, harmless⟩
  rcases second with ⟨warnings', second, harmless'⟩
  refine ⟨warnings ++ warnings', by rw [second, first, List.append_assoc], ?_⟩
  intro warning member
  rcases List.mem_append.mp member with member | member
  · exact harmless warning member
  · exact harmless' warning member

theorem leniently_of_lenient {query : Query} (lenient : query.options.strict = false) :
    query.leniently = query := by
  rcases query with ⟨arena, clauses, functions, log, supply, registers, options⟩
  rcases options with ⟨strict⟩
  cases lenient
  rfl

end Query

namespace Build

variable {α β : Type}

@[simp] theorem outcome_modify (change : Query → Query) (query : Query) :
    (modify change : Build PUnit).outcome query = (.ok ⟨⟩, change query) := rfl

theorem outcome_get_bind (next : Query → Build α) (query : Query) :
    (get >>= next).outcome query = (next query).outcome query := rfl

theorem outcome_report (diagnostic : Diagnostic) (query : Query) :
    (report diagnostic).outcome query =
      (if diagnostic.isError && query.options.strict then .error (.strict diagnostic) else .ok (),
        { query with log := query.log.add diagnostic }) := by
  rw [outcome]
  simp only [report, EStateM.run_bind, EStateM.run_modify, EStateM.run_get]
  cases diagnostic.isError && query.options.strict <;> rfl

theorem outcome_bind (x : Build α) (next : α → Build β) (query : Query) :
    (x >>= next).outcome query =
      match x.outcome query with
      | (.ok value, query') => (next value).outcome query'
      | (.error failure, query') => (.error failure, query') := by
  rw [outcome, EStateM.run_bind, outcome]
  cases x.run query <;> rfl

/-- The operation stops at an error that others would go on after. -/
structure StopsAt (x : Build α) (query : Query) (diagnostic : Diagnostic) : Prop where
  isError : diagnostic.isError = true
  reported : ∃ reached others failed, query.Warned reached ∧
    (x.outcome query.leniently).2.log.entries =
      reached.log.entries ++ diagnostic :: others ∧
    x.outcome query.strictly = (.error (.strict diagnostic), failed) ∧
    failed.log.entries = reached.log.entries ++ [diagnostic]

/-- What an operation does with a query that collects errors, and with one that allows none. -/
inductive Lockstep (x : Build α) (query : Query) : Prop
  | agree {result : Except Failure α} {query' : Query} (warned : query.Warned query')
      (lenient : x.outcome query.leniently = (result, query'.leniently))
      (strict : x.outcome query.strictly = (result, query'.strictly))
  | stop {diagnostic : Diagnostic} (stops : StopsAt x query diagnostic)

/-! ## Reports stay -/

theorem Takes.grows {steps : Steps} {x : Build α} (takes : Takes steps x) (query : Query) :
    query.log.entries <+: (x.outcome query).2.log.entries := by
  induction takes generalizing query with
  | pure value => exact List.prefix_refl _
  | throw _ => exact List.prefix_refl _
  | report _ =>
      rw [outcome_report]
      exact List.prefix_append _ _
  | modify quiet _ =>
      simp only [outcome_modify, quiet.log, List.prefix_refl]
  | ask _ _ induction => exact induction query query
  | @bind _ _ x next _ _ first rest =>
      have grown := first query
      rw [outcome_bind]
      generalize x.outcome query = reached at grown ⊢
      rcases reached with ⟨failure | value, query'⟩
      · exact grown
      · exact grown.trans (rest value query')

/-! ## Runs in lockstep -/

theorem lockstep_report (diagnostic : Diagnostic) (query : Query) :
    Lockstep (report diagnostic) query := by
  cases isError : diagnostic.isError with
  | true =>
      apply Lockstep.stop
      refine ⟨isError, query, [], { query.strictly with log := query.log.add diagnostic },
        .refl query, ?_, ?_, rfl⟩
      · rw [outcome_report]
        rfl
      · rw [outcome_report, isError]
        rfl
  | false =>
      have warned : query.Warned { query with log := query.log.add diagnostic } :=
        ⟨[diagnostic], rfl, by simpa using isError⟩
      apply Lockstep.agree warned
      · rw [outcome_report, isError]
        rfl
      · rw [outcome_report, isError]
        rfl

theorem lockstep_modify {change : Query → Query} (quiet : Quiet change) (query : Query) :
    Lockstep (modify change) query := by
  have lenient : (change query.leniently).options.strict = false := by
    rw [quiet.options, query.strict_leniently]
  have warned : query.Warned (change query.leniently) :=
    ⟨[], by rw [quiet.log, query.log_leniently, List.append_nil], by simp⟩
  apply Lockstep.agree warned
  · rw [outcome_modify, Query.leniently_of_lenient lenient]
  · rw [outcome_modify, ← quiet.blind, query.leniently_strictly]

theorem StopsAt.bind {x : Build α} {query : Query} {diagnostic : Diagnostic}
    (stops : StopsAt x query diagnostic) {steps : Steps} {next : α → Build β}
    (rest : ∀ value, Takes steps (next value)) : StopsAt (x >>= next) query diagnostic := by
  rcases stops with ⟨isError, reached, others, failed, warned, lenient, strict, added⟩
  generalize ran : x.outcome query.leniently = result at lenient
  have grown : result.2.log.entries <+: ((x >>= next).outcome query.leniently).2.log.entries := by
    rw [outcome_bind, ran]
    rcases result with ⟨failure | value, query'⟩
    · exact List.prefix_refl _
    · exact (rest value).grows query'
  rcases grown with ⟨later, grown⟩
  refine ⟨isError, reached, others ++ later, failed, warned, ?_, ?_, added⟩
  · rw [← grown, lenient, List.append_assoc, List.cons_append]
  · rw [outcome_bind, strict]

theorem StopsAt.after {x : Build α} {next : α → Build β} {query query' : Query} {value : α}
    {diagnostic : Diagnostic} (stops : StopsAt (next value) query' diagnostic)
    (warned : query.Warned query')
    (lenient : x.outcome query.leniently = (.ok value, query'.leniently))
    (strict : x.outcome query.strictly = (.ok value, query'.strictly)) :
    StopsAt (x >>= next) query diagnostic := by
  rcases stops with ⟨isError, reached, others, failed, warned', lenient', strict', added⟩
  refine ⟨isError, reached, others, failed, warned.trans warned', ?_, ?_, added⟩
  · rw [outcome_bind, lenient]
    exact lenient'
  · rw [outcome_bind, strict]
    exact strict'

theorem Lockstep.bind {x : Build α} {next : α → Build β} {query : Query} (first : Lockstep x query)
    {steps : Steps} (takes : ∀ value, Takes steps (next value))
    (rest : ∀ value query', Lockstep (next value) query') : Lockstep (x >>= next) query := by
  cases first with
  | stop stops => exact .stop (stops.bind takes)
  | @agree result query' warned lenient strict =>
      cases result with
      | error failure =>
          apply Lockstep.agree warned
          · rw [outcome_bind, lenient]
          · rw [outcome_bind, strict]
      | ok value =>
          cases rest value query' with
          | stop stops => exact .stop (stops.after warned lenient strict)
          | agree warned' lenient' strict' =>
              apply Lockstep.agree (warned.trans warned')
              · rw [outcome_bind, lenient]
                exact lenient'
              · rw [outcome_bind, strict]
                exact strict'

/-- No step asks whether the query is strict, so the runs go in lockstep up to the first error. -/
theorem Takes.lockstep {steps : Steps} {x : Build α} (takes : Takes steps x) (query : Query) :
    Lockstep x query := by
  induction takes generalizing query with
  | pure value => exact .agree (.refl query) rfl rfl
  | throw _ => exact .agree (.refl query) rfl rfl
  | report _ => exact lockstep_report _ query
  | modify quiet _ => exact lockstep_modify quiet query
  | @ask _ next blind _ induction =>
      -- Both runs go on as the lenient query tells.
      have same : next query.strictly = next query.leniently := by
        rw [← query.leniently_strictly, blind]
      cases induction query.leniently query with
      | agree warned lenient strict =>
          refine .agree warned lenient ?_
          rw [outcome_get_bind, same]
          exact strict
      | stop stops =>
          rcases stops with ⟨isError, reached, others, failed, warned, lenient, strict, added⟩
          apply Lockstep.stop
          refine ⟨isError, reached, others, failed, warned, lenient, ?_, added⟩
          rw [outcome_get_bind, same]
          exact strict
  | bind _ rest first second => exact (first query).bind rest second

end Build

/-! ## Scripts -/

abbrev Outcome := Except Failure Answer

/-- Operations to be made one after the other. Each may use what those before it came to. -/
abbrev Script := List (List Outcome → Operation)

namespace Script

/-- Make all operations, whether or not some of them fail, after others that came to the known
outcomes. -/
def play : Script → List Outcome → Query → List Outcome × Query
  | [], known, query => (known, query)
  | operation :: rest, known, query =>
    let (outcome, query) := (operation known).run.outcome query
    play rest (known ++ [outcome]) query

/-- Whether or not the query is strict, all operations come to the same, and report no errors. -/
structure Agrees (script : Script) (known : List Outcome) (query : Query)
    (outcomes : List Outcome) (query' : Query) : Prop where
  lenient : script.play known query.leniently = (outcomes, query'.leniently)
  strict : script.play known query.strictly = (outcomes, query'.strictly)
  warned : query.Warned query'

variable {script rest : Script} {operation : List Outcome → Operation}
  {known outcomes : List Outcome} {query query' : Query}

theorem agrees_nil (known : List Outcome) (query : Query) : Agrees [] known query known query :=
  ⟨rfl, rfl, .refl query⟩

theorem Agrees.cons {outcome : Outcome} {between : Query} (warned : query.Warned between)
    (lenient : (operation known).run.outcome query.leniently = (outcome, between.leniently))
    (strict : (operation known).run.outcome query.strictly = (outcome, between.strictly))
    (agrees : Agrees rest (known ++ [outcome]) between outcomes query') :
    Agrees (operation :: rest) known query outcomes query' where
  lenient := by
    rw [play, lenient]
    exact agrees.lenient
  strict := by
    rw [play, strict]
    exact agrees.strict
  warned := warned.trans agrees.warned

theorem play_grows (script : Script) (known : List Outcome) (query : Query) :
    query.log.entries <+: (script.play known query).2.log.entries := by
  induction script generalizing known query with
  | nil => exact List.prefix_refl _
  | cons operation rest induction =>
      exact ((Build.takes_run (operation known)).grows query).trans (induction _ _)

theorem agrees_or_stops (script : Script) (known : List Outcome) (query : Query) :
    (∃ outcomes query', script.Agrees known query outcomes query') ∨
      ∃ before operation rest outcomes query' diagnostic,
        script = before ++ operation :: rest ∧ Agrees before known query outcomes query' ∧
          Build.StopsAt (operation outcomes).run query' diagnostic := by
  induction script generalizing known query with
  | nil => exact .inl ⟨known, query, agrees_nil known query⟩
  | cons operation rest induction =>
      cases (Build.takes_run (operation known)).lockstep query with
      | stop stops =>
          exact .inr ⟨[], operation, rest, known, query, _, rfl, agrees_nil known query, stops⟩
      | @agree outcome between warned lenient strict =>
          rcases induction (known ++ [outcome]) between with
            ⟨outcomes, query', agrees⟩ |
            ⟨before, stopping, after, outcomes, query', diagnostic, equal, agrees, stops⟩
          · exact .inl ⟨outcomes, query', agrees.cons warned lenient strict⟩
          · apply Or.inr
            refine ⟨operation :: before, stopping, after, outcomes, query', diagnostic, ?_,
              agrees.cons warned lenient strict, stops⟩
            rw [equal, List.cons_append]

theorem play_append (before after : Script) (known : List Outcome) (query : Query) :
    (before ++ after).play known query =
      after.play (before.play known query).1 (before.play known query).2 := by
  induction before generalizing known query with
  | nil => rfl
  | cons operation rest induction => exact induction _ _

theorem find?_warnings {warnings : List Diagnostic}
    (harmless : ∀ warning ∈ warnings, warning.isError = false) :
    warnings.find? Diagnostic.isError = none := by
  simpa using harmless

/-- A strict query fails at the first error that another one collects, after the same warnings.
Without errors both come to the same. -/
theorem failFast (script : Script) (known : List Outcome) (query : Query) :
    ∃ gained,
      (script.play known query.leniently).2.log.entries = query.log.entries ++ gained ∧
      match gained.find? Diagnostic.isError with
      | none => ∃ outcomes query', script.Agrees known query outcomes query'
      | some diagnostic => ∃ before operation rest outcomes query',
          script = before ++ operation :: rest ∧ Agrees before known query outcomes query' ∧
          Build.StopsAt (operation outcomes).run query' diagnostic := by
  rcases agrees_or_stops script known query with
    ⟨outcomes, query', agrees⟩ |
    ⟨before, operation, rest, outcomes, query', diagnostic, equal, agrees, stops⟩
  · rcases agrees.warned with ⟨warnings, added, harmless⟩
    refine ⟨warnings, by rw [agrees.lenient]; exact added, ?_⟩
    rw [find?_warnings harmless]
    exact ⟨outcomes, query', agrees⟩
  · have stops' := stops
    rcases stops' with ⟨isError, reached, others, failed, warned, lenient, strict, added⟩
    rcases agrees.warned.trans warned with ⟨warnings, added, harmless⟩
    have later := play_grows rest
      (outcomes ++ [((operation outcomes).run.outcome query'.leniently).1])
      ((operation outcomes).run.outcome query'.leniently).2
    rcases later with ⟨later, grown⟩
    refine ⟨warnings ++ diagnostic :: (others ++ later), ?_, ?_⟩
    · rw [equal, play_append, agrees.lenient, play, ← grown, lenient, added]
      simp
    · have first : (warnings ++ diagnostic :: (others ++ later)).find? Diagnostic.isError =
          some diagnostic := by
        rw [List.find?_append, find?_warnings harmless, Option.none_or,
          List.find?_cons_of_pos isError]
      rw [first]
      exact ⟨before, operation, rest, outcomes, query', equal, agrees, stops⟩

end Script

end Sparql
