import Sparql.Proofs.Build.Operations
import Sparql.Proofs.Calls.WellFormed

/-!
What becomes of the calls of a query. A call waits for a definition on record, or it was counted,
once, by the definition that was there. In a correct query it fitted that definition then:
`Query.Tracks`.
-/

namespace Sparql

/-! ## Calls of functions -/

namespace Call

/-- A call with so many arguments waits for a definition or was counted, if it is undefined, and was
counted if it is a call of a function. -/
structure Among (waits counted : String × Nat → Prop) (call : Call) (count : Nat) : Prop where
  undefined : call.operator = .undefined → waits (call.key, count) ∨ counted (call.key, count)
  function : call.operator = .userFunction → counted (call.key, count)

variable {waits waits' counted counted' : String × Nat → Prop} {call : Call} {count : Nat}

theorem Among.mono (among : call.Among waits counted count)
    (stays : ∀ pair, waits pair → waits' pair ∨ counted' pair)
    (more : ∀ pair, counted pair → counted' pair) : call.Among waits' counted' count where
  undefined operator := (among.undefined operator).elim (stays _) fun here => .inr (more _ here)
  function operator := more _ (among.function operator)

theorem Among.resolved (among : call.Among waits counted count) (defined : String → Bool)
    (settles : ∀ pair, waits pair → defined pair.1 = true → counted' pair)
    (stays : ∀ pair, waits pair → waits' pair ∨ counted' pair)
    (more : ∀ pair, counted pair → counted' pair) :
    (call.resolved defined).Among waits' counted' count := by
  by_cases undefined : call.operator = .undefined
  · refine ⟨fun _ => ?_, fun function => ?_⟩
    · rw [key_resolved]
      exact (among.mono stays more).undefined undefined
    · rw [operator_resolved undefined] at function
      rw [key_resolved]
      split at function
      · next isDefined =>
          exact (among.undefined undefined).elim (settles _ · isDefined) (more _)
      · cases function
  · rw [resolved_of_ne undefined]
    exact among.mono stays more

end Call

namespace Expr

section

variable (defined : String → Bool)

mutual
theorem terms_resolved (e : Expr) : (e.resolved defined).terms =
    e.terms.map fun term => (term.1.resolved defined, resolvedAll defined term.2) := by
  cases e with
  | var v => rfl
  | const c => rfl
  | call head args => rw [resolved, terms, terms, List.map_cons, termsOf_resolvedAll args]

theorem termsOf_resolvedAll (args : List Expr) : termsOf (resolvedAll defined args) =
    (termsOf args).map fun term => (term.1.resolved defined, resolvedAll defined term.2) := by
  cases args with
  | nil => rfl
  | cons e rest =>
      rw [resolvedAll, termsOf, termsOf, List.map_append, terms_resolved e,
        termsOf_resolvedAll rest]
end

end

def CallsAmong (waits counted : String × Nat → Prop) (e : Expr) : Prop :=
  ∀ term ∈ e.terms, term.1.Among waits counted term.2.length

variable {waits waits' counted counted' : String × Nat → Prop} {e : Expr}

theorem CallsAmong.mono (among : e.CallsAmong waits counted)
    (stays : ∀ pair, waits pair → waits' pair ∨ counted' pair)
    (more : ∀ pair, counted pair → counted' pair) : e.CallsAmong waits' counted' :=
  fun term member => (among term member).mono stays more

theorem CallsAmong.resolved (among : e.CallsAmong waits counted) (defined : String → Bool)
    (settles : ∀ pair, waits pair → defined pair.1 = true → counted' pair)
    (stays : ∀ pair, waits pair → waits' pair ∨ counted' pair)
    (more : ∀ pair, counted pair → counted' pair) :
    (e.resolved defined).CallsAmong waits' counted' := by
  intro term member
  rw [terms_resolved] at member
  rcases List.mem_map.mp member with ⟨before, there, rfl⟩
  rw [length_resolvedAll]
  exact (among before there).resolved defined settles stays more

theorem callsAmong_call {head : Call} {stored args : List Expr}
    (here : head.Among waits counted stored.length) (terms : termsOf stored = termsOf args)
    (inside : ∀ e ∈ args, e.CallsAmong waits counted) :
    (call head stored).CallsAmong waits counted := by
  intro term member
  rcases List.mem_cons.mp member with rfl | member
  · exact here
  · rw [terms] at member
    rcases mem_termsOf.mp member with ⟨e, given, there⟩
    exact inside e given term there

theorem PlainOn.callsAmong {operands : List Expr} (plain : e.PlainOn operands)
    (given : ∀ e ∈ operands, e.CallsAmong waits counted) : e.CallsAmong waits counted := by
  have meant {head : Call} (other : head.operator ≠ .undefined)
      (plain : head.operator ≠ .userFunction) (count : Nat) : head.Among waits counted count :=
    ⟨(absurd · other), (absurd · plain)⟩
  rcases plain with ⟨head, args, rfl, ⟨step, among⟩ | ⟨⟨test, _⟩, rfl⟩⟩
  · have path := step.path
    rw [Call.isPath] at path
    refine callsAmong_call (meant ?_ ?_ _) rfl fun e there => given e (among e there)
    all_goals
      intro operator
      rw [operator] at path
      cases path
  · refine callsAmong_call (meant ?_ ?_ _) rfl (by simp)
    all_goals rcases test with operator | operator <;> simp [operator]

/-! ## Accounts -/

/-- Each call of a function in the expression, defined or not, is in one of these expressions, or it
is known otherwise. -/
def Draws (own : Expr → Prop) (foreign : String × Nat → Prop) (e : Expr) : Prop :=
  ∀ term ∈ e.terms, term.1.operator = .undefined ∨ term.1.operator = .userFunction →
    (∃ made, own made ∧ term ∈ made.terms) ∨ foreign (term.1.key, term.2.length)

/-- Each call in the expression is on record or was counted, or it is known otherwise. -/
def Accounted (foreign : String × Nat → Prop) (functions : Functions)
    (counted : List (String × Nat)) (e : Expr) : Prop :=
  e.CallsAmong (· ∈ functions.waiting) fun call => call ∈ counted ∨ foreign call

section

variable {foreign : String × Nat → Prop} {functions functions' : Functions}
  {counted more : List (String × Nat)} {e : Expr}

theorem Draws.accounted {own : Expr → Prop} (draws : e.Draws own foreign)
    (accounted : ∀ made, own made → made.Accounted foreign functions counted) :
    e.Accounted foreign functions counted := by
  intro term member
  refine ⟨fun operator => ?_, fun operator => ?_⟩
  · rcases draws term member (.inl operator) with ⟨made, here, there⟩ | other
    · exact (accounted made here term there).undefined operator
    · exact .inr (.inr other)
  · rcases draws term member (.inr operator) with ⟨made, here, there⟩ | other
    · exact (accounted made here term there).function operator
    · exact .inr other

theorem Accounted.later (accounted : e.Accounted foreign functions counted)
    (stays : ∀ call ∈ functions.waiting, call ∈ functions'.waiting ∨ call ∈ more) :
    e.Accounted foreign functions' (counted ++ more) :=
  accounted.mono
    (fun call waits => (stays call waits).imp_right fun new => .inl (List.mem_append_right _ new))
    fun _ => Or.imp_left (List.mem_append_left _)

theorem Accounted.resolved (accounted : e.Accounted foreign functions counted)
    (defined : String → Bool)
    (settles : ∀ call ∈ functions.waiting, defined call.1 = true → call ∈ more)
    (stays : ∀ call ∈ functions.waiting, call ∈ functions'.waiting ∨ call ∈ more) :
    (e.resolved defined).Accounted foreign functions' (counted ++ more) :=
  CallsAmong.resolved accounted defined
    (fun call waits isDefined => .inl (List.mem_append_right _ (settles call waits isDefined)))
    (fun call waits => (stays call waits).imp_right fun new => .inl (List.mem_append_right _ new))
    fun _ => Or.imp_left (List.mem_append_left _)

end

end Expr

/-! ## Counting -/

/-- The expression is part of the query, or the body of one of its functions. -/
def Query.Holds (query : Query) (e : Expr) : Prop :=
  e ∈ query.expressions ∨
    ∃ key definition, query.functions.definition? key = some definition ∧ e = definition.body

structure Census where
  /-- The expressions that the query built. -/
  built : List Expr := []
  /-- The key and the count of arguments of each call that was held against a definition. -/
  counted : List (String × Nat) := []
  /-- Those of them whose function was defined anew, the last time with another number of
  parameters. -/
  outgrown : List (String × Nat) := []

namespace Operation

/-- The calls that the operation holds against the definitions of the query. -/
def counts (operation : Operation) (query : Query) : List (String × Nat) :=
  match operation with
  | normalize =>
    if query.normalized then []
    else query.functions.waiting.filter fun call => query.functions.isDefined call.1
  | operation => (operation.called query).filter fun call => query.functions.isDefined call.1

/-- The counted calls that do not fit the last definition of their function any more. -/
def outgrows (operation : Operation) (query : Query) (census : Census) : List (String × Nat) :=
  match operation with
  | define name params _ =>
    census.outgrown.filter (·.1 ≠ query.namespaces.key name) ++
      census.counted.filter fun call =>
        call.1 = query.namespaces.key name ∧ call.2 ≠ params.length
  | _ => census.outgrown

end Operation

def Census.next (census : Census) (operation : Operation) (query : Query) : Census where
  built := census.built ++ operation.built query
  counted := census.counted ++ operation.counts query
  outgrown := operation.outgrows query census

def Census.Has (census : Census) (query : Query) (e : Expr) : Prop :=
  e ∈ census.built ∨ query.Holds e

/-- The query collects errors, has no subqueries, and is made by operations with such a census.
Functions may be defined at any time, and again. The operations are given expressions with calls
that the query built or holds, and maybe some others. -/
inductive Query.Counted (foreign : String × Nat → Prop) : Query → Census → Prop
  | empty (options : Options) (namespaces : Namespaces) (library : Regex.Library)
      (labelOrder : LabelOrder) (lenient : options.strict = false) :
      Counted foreign { options, namespaces, library, labelOrder } {}
  | step {query : Query} {census : Census} (operation : Operation)
      (before : Counted foreign query census) (alone : ∀ sub, operation ≠ .subquery sub)
      (given : ∀ e ∈ operation.operands, e.Draws (census.Has query) foreign) :
      Counted foreign (operation.run.after query) (census.next operation query)

/-! ## Reports -/

namespace Functions

theorem arity?_eq_of_misfit? {arity? : String → Option Nat} {call : String × Nat} {params : Nat}
    (found : arity? call.1 = some params) (fits : misfit? arity? call = none) :
    arity? call.1 = some call.2 := by
  rw [misfit?, found] at fits
  dsimp only at fits
  split at fits
  · next same => rw [found, same]
  · cases fits

theorem isError_of_misfit? {arity? : String → Option Nat} {call : String × Nat}
    {report : Diagnostic} (misfit : misfit? arity? call = some report) : report.isError = true := by
  rw [misfit?] at misfit
  split at misfit
  · split at misfit
    · cases misfit
    · cases misfit
      rfl
  · cases misfit

theorem arity?_of_isDefined {functions : Functions} {call : String × Nat}
    (isDefined : functions.isDefined call.1 = true)
    (fine : ∀ report ∈ (misfit? functions.arity? call).toList, report.isError = false) :
    functions.arity? call.1 = some call.2 := by
  rw [← isSome_arity?] at isDefined
  rcases Option.isSome_iff_exists.mp isDefined with ⟨params, found⟩
  cases misfit : misfit? functions.arity? call with
  | none => exact arity?_eq_of_misfit? found misfit
  | some report =>
      have error := isError_of_misfit? misfit
      rw [fine report (by simp [misfit])] at error
      cases error

end Functions

namespace Query

theorem correct_reporting (query : Query) (reports : List Diagnostic) :
    (query.reporting reports).log.correct = true ↔
      query.log.correct = true ∧ ∀ report ∈ reports, report.isError = false := by
  have added (log : Log) : (reports.foldl Log.add log).correct = true ↔
      log.correct = true ∧ ∀ report ∈ reports, report.isError = false := by
    induction reports generalizing log with
    | nil => simp
    | cons report rest induction =>
        rw [List.foldl_cons, induction, Log.add, Bool.and_eq_true, Bool.not_eq_true',
          List.forall_mem_cons, and_assoc]
  exact added query.log

theorem correct_settled {query : Query} (correct : query.settled.log.correct = true) :
    query.log.correct = true ∧ ∀ report ∈ query.functions.settlement, report.isError = false := by
  rw [settled] at correct
  split at correct
  · next empty =>
      refine ⟨correct, ?_⟩
      rw [Functions.settlement, List.isEmpty_iff.mp empty]
      simp
  · exact (query.resolved.correct_reporting _).mp correct

theorem arity?_of_correct_settled {query : Query} (correct : query.settled.log.correct = true)
    {call : String × Nat} (waits : call ∈ query.functions.waiting)
    (isDefined : query.functions.isDefined call.1 = true) :
    query.functions.arity? call.1 = some call.2 := by
  apply Functions.arity?_of_isDefined isDefined
  intro report member
  apply (correct_settled correct).2
  apply query.functions.settlement_perm.mem_iff.mpr
  exact List.mem_append_left _ (List.mem_filterMap.mpr ⟨call, waits, Option.mem_toList.mp member⟩)

theorem mem_waiting_settled {query : Query} {call : String × Nat}
    (waits : call ∈ query.functions.waiting)
    (undefined : query.functions.isDefined call.1 = false) :
    call ∈ query.settled.functions.waiting := by
  rw [Functions.waiting, deferred_settled, Functions.unsettled]
  rcases List.mem_flatMap.mp waits with ⟨entry, member, inside⟩
  rcases List.mem_map.mp inside with ⟨count, there, rfl⟩
  have kept : (!query.functions.isDefined entry.1) = true := by simpa using undefined
  exact List.mem_flatMap.mpr ⟨entry, List.mem_filter.mpr ⟨member, kept⟩, inside⟩

theorem arity?_settled (query : Query) (key : String) :
    query.settled.functions.arity? key = query.functions.arity? key := by
  rw [settled]
  split
  · rfl
  · change ((query.functions.mapBodies _).definition? key).map _ = _
    rw [Functions.definition?_mapBodies, Functions.arity?, Option.map_map]
    rfl

theorem holds_settled {query : Query} {e : Expr} (holds : query.settled.Holds e) :
    ∃ before, query.Holds before ∧
      (e = before ∨ e = before.resolved query.functions.isDefined) := by
  rw [settled] at holds
  split at holds
  · exact ⟨e, holds, .inl rfl⟩
  · rcases holds with member | ⟨key, definition, found, rfl⟩
    · have same := expressions_mapValues (Expr.resolved query.functions.isDefined) query
      change e ∈ (query.mapValues _).expressions at member
      rw [same] at member
      rcases List.mem_map.mp member with ⟨before, there, rfl⟩
      exact ⟨before, .inl there, .inr rfl⟩
    · change (query.functions.mapBodies _).definition? key = _ at found
      rw [Functions.definition?_mapBodies] at found
      rcases Option.map_eq_some_iff.mp found with ⟨before, there, rfl⟩
      exact ⟨before.body, .inr ⟨key, before, there, rfl⟩, .inr rfl⟩

/-! ## What a census tells -/

theorem ChangesTo.whole {rights : Rights} {query query' : Query}
    (changes : query.ChangesTo rights (fun _ => False) query')
    (whole : ∀ sub : Query, ¬ sub.IsPartOf query) : ∀ sub : Query, ¬ sub.IsPartOf query' := by
  induction changes with
  | refl query | report query _ _ | label query _ | name query _ | done query _ => exact whole
  | trans _ _ first second => exact second (first whole)
  | push query p _ part =>
      intro sub isPart
      exact (isPartOf_push isPart).elim (part sub) (whole sub)
  | join query found _ =>
      intro sub isPart
      rcases isPartOf_set found isPart with equal | isPart
      · cases equal
      · exact whole sub isPart
  | values query change => exact fun sub isPart => whole sub (isPartOf_mapValues isPart)
  | part query found _ _ => exact absurd ⟨_, found⟩ (whole _)
  | similar similar =>
      intro sub isPart
      rw [IsPartOf, similar.arena] at isPart
      exact whole sub isPart

variable {foreign : String × Nat → Prop} {census : Census} {query query' : Query}

/-- All calls are accounted for. In a correct query, those that were counted fit their functions,
unless they are outgrown. -/
structure Tracks (foreign : String × Nat → Prop) (census : Census) (query : Query) : Prop where
  lenient : query.options.strict = false
  whole : ∀ sub : Query, ¬ sub.IsPartOf query
  accounts : ∀ e, census.Has query e → e.Accounted foreign query.functions census.counted
  fits : query.log.correct = true → ∀ call ∈ census.counted, call ∉ census.outgrown →
    query.functions.arity? call.1 = some call.2
  unfit : ∀ call ∈ census.outgrown,
    ∃ params, query.functions.arity? call.1 = some params ∧ params ≠ call.2

theorem tracks_empty (foreign : String × Nat → Prop) (options : Options) (namespaces : Namespaces)
    (library : Regex.Library) (labelOrder : LabelOrder) (lenient : options.strict = false) :
    Tracks foreign {} { options, namespaces, library, labelOrder } where
  lenient := lenient
  whole sub part := by
    rcases part with ⟨id, found⟩
    simp [Arena.get?] at found
  accounts e has := by
    rcases has with member | member | ⟨key, definition, found, _⟩
    · simp at member
    · simp [expressions, Clauses.expressions] at member
    · simp [Functions.definition?] at found
  fits _ call member := by simp at member
  unfit call member := by simp at member

namespace Tracks

variable (tracks : Tracks foreign census query) (operation : Operation)

include tracks

theorem lenient_after : (operation.run.after query).options.strict = false :=
  ((Build.takes_run operation).options_eq query) ▸ tracks.lenient

theorem whole_after (alone : ∀ sub, operation ≠ .subquery sub) (sub : Query) :
    ¬ sub.IsPartOf (operation.run.after query) :=
  (operation.changesTo_after operation.within_all (fun sub equal => absurd equal (alone sub))
    query).whole tracks.whole sub

variable {operation}

/-- The definitions stay, and the calls that are counted now fit them, if the query is correct. -/
theorem goesOn {more : List Expr} {counted : List (String × Nat)}
    (alone : ∀ sub, operation ≠ .subquery sub)
    (arity : ∀ key, (operation.run.after query).functions.arity? key = query.functions.arity? key)
    (correct : (operation.run.after query).log.correct = true →
      ∀ call ∈ counted, query.functions.arity? call.1 = some call.2)
    (accounts : ∀ e, e ∈ census.built ++ more ∨ (operation.run.after query).Holds e →
      e.Accounted foreign (operation.run.after query).functions (census.counted ++ counted)) :
    Tracks foreign
      { built := census.built ++ more
        counted := census.counted ++ counted
        outgrown := census.outgrown }
      (operation.run.after query) where
  lenient := tracks.lenient_after operation
  whole := tracks.whole_after operation alone
  accounts := accounts
  fits isCorrect call member current := by
    rw [arity]
    rcases List.mem_append.mp member with old | new
    · exact tracks.fits (Operation.correct_of_after isCorrect) call old current
    · exact correct isCorrect call new
  unfit call member := by
    rw [arity]
    exact tracks.unfit call member

end Tracks

end Query

end Sparql
