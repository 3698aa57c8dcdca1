import Sparql.Proofs.Calls.Made
import Sparql.Proofs.Operator.Names
import Sparql.Proofs.Reports

/-!
Calls in a correct query are well formed. The table of operators, that of digests and the namespaces
tell apart the names that a call is made of, and each kind of call is counted and prepared in its
own way: `ends_prepare`. What is known of a call then stays known until the query is normalized:
`wellFormed_of_correct`.
-/

namespace Sparql

/-! ## Terms -/

namespace Expr

mutual
def terms : Expr → List (Call × List Expr)
  | var _ => []
  | const _ => []
  | call head args => (head, args) :: termsOf args

def termsOf : List Expr → List (Call × List Expr)
  | [] => []
  | e :: rest => e.terms ++ termsOf rest
end

mutual
theorem map_terms (e : Expr) : e.terms.map (·.1) = e.calls := by
  cases e with
  | var v => rfl
  | const c => rfl
  | call head args => rw [terms, calls, List.map_cons, map_termsOf args]

theorem map_termsOf (args : List Expr) : (termsOf args).map (·.1) = callsOf args := by
  cases args with
  | nil => rfl
  | cons e rest => rw [termsOf, callsOf, List.map_append, map_terms e, map_termsOf rest]
end

theorem mem_termsOf {args : List Expr} {term : Call × List Expr} :
    term ∈ termsOf args ↔ ∃ e ∈ args, term ∈ e.terms := by
  induction args with
  | nil => simp [termsOf]
  | cons e rest induction => simp [termsOf, induction]

end Expr

theorem Build.termsOf_castArgs (head : Call) (args : List Expr) :
    Expr.termsOf (castArgs head args) = Expr.termsOf args := by
  rcases args with _ | ⟨value, _ | ⟨second, rest⟩⟩
  · rfl
  · simp [castArgs, Expr.termsOf, Expr.terms]
  · rfl

/-! ## Well-formed calls -/

/-- The arguments of a call as it is written fit its operator. -/
structure Call.Suits (call : Call) (args : List Expr) : Prop where
  arity : ∀ arity, Build.writtenArity? call.operator = some arity →
    arity.accepts args.length = true
  flat : call.isAggregate = true → ∀ inner ∈ Expr.callsOf args, inner.isAggregate = false

/-- What its name says is true of the call. Steps of paths have names of their own. -/
structure Call.WellFormed (functions : Functions) (head : Call) (args : List Expr) : Prop where
  operator : head.isPath = false → head.operator = Operator.ofName head.key ∨
    Operator.ofName head.key = .undefined ∧ head.operator = .userFunction
  path : head.isPath = true →
    Operator.ofPathSymbol? head.name = some head.operator ∨ head.operator = .counted
  arity : ∀ arity, head.operator.arity? = some arity → arity.accepts args.length = true
  flat : head.isAggregate = true → ∀ inner ∈ Expr.callsOf args, inner.isAggregate = false
  cast : head.operator = .cast → ∃ value, args = [value, .const (.iri head.key),
    .const (.literal (Vocabulary.castImplementation head.key) Vocabulary.xsdString)]
  hash : head.operator = .hash → ∃ algorithm,
    Operator.digest? head.key = some algorithm ∧ head.modality = some algorithm
  external : head.operator = .external → ∃ target,
    Extension.Target.ofName? head.key = some target ∧ head.external = some target
  undefined : head.operator = .undefined → head.key ∈ functions.undefinedNames
  userFunction : head.operator = .userFunction → functions.isDefined head.key = true

def Expr.WellFormed (functions : Functions) (e : Expr) : Prop :=
  ∀ term ∈ e.terms, term.1.WellFormed functions term.2

section

variable {functions : Functions} {call head : Call} {args : List Expr}

theorem Call.Suits.wellFormed (suits : call.Suits args)
    (named : call.operator = Operator.ofName call.key) (operator : head.operator = call.operator)
    (key : head.key = call.key) (uncast : call.operator ≠ .cast)
    (hash : call.operator = .hash → ∃ algorithm,
      Operator.digest? call.key = some algorithm ∧ head.modality = some algorithm)
    (external : call.operator = .external → ∃ target,
      Extension.Target.ofName? call.key = some target ∧ head.external = some target)
    (undefined : call.operator = .undefined → call.key ∈ functions.undefinedNames) :
    head.WellFormed functions args := by
  have aggregate : head.isAggregate = call.isAggregate := congrArg Operator.isAggregate operator
  have path : head.isPath = false := by
    rw [Call.isPath, operator, named]
    exact (Operator.ofName_plain _).1
  constructor
  · exact fun _ => .inl (by rw [operator, key, named])
  · simp [path]
  · intro arity found
    exact suits.arity arity (by rwa [Build.writtenArity?, if_neg uncast, ← operator])
  · rw [aggregate]
    exact suits.flat
  · rw [operator]
    exact (absurd · uncast)
  · rwa [operator, key]
  · rwa [operator, key]
  · rwa [operator, key]
  · rw [operator, named]
    exact (absurd · (Operator.ofName_plain _).2)

theorem Call.Suits.wellFormed_cast (suits : call.Suits args)
    (named : call.operator = Operator.ofName call.key) (isCast : call.operator = .cast) :
    call.WellFormed functions (Build.castArgs call args) := by
  have one : args.length = 1 := by
    apply (Arity.accepts_exactly 1 args.length).mp
    exact suits.arity _ (by rw [Build.writtenArity?, if_pos isCast])
  rcases List.length_eq_one_iff.mp one with ⟨value, rfl⟩
  refine ⟨fun _ => .inl named, ?_, ?_, ?_, fun _ => ⟨value, rfl⟩, ?_, ?_, ?_, ?_⟩
  · simp [Call.isPath, Operator.isPath, Operator.family, isCast]
  · intro arity found
    rw [isCast] at found
    cases found
    rfl
  all_goals simp [Call.isAggregate, Operator.isAggregate, Operator.family, isCast]

theorem Call.wellFormed_userFunction (operator : head.operator = .userFunction)
    (unknown : Operator.ofName head.key = .undefined)
    (defined : functions.isDefined head.key = true) : head.WellFormed functions args := by
  refine ⟨fun _ => .inr ⟨unknown, operator⟩, ?_, ?_, ?_, ?_, ?_, ?_, ?_, fun _ => defined⟩
  all_goals
    simp [Call.isAggregate, Operator.isAggregate, Call.isPath, Operator.isPath, Operator.family,
      Operator.arity?, operator]

end

namespace Build

variable {α β : Type}

/-! ## Correct runs -/

/-- If the query is correct after the run, it was so before, and the result is as described. -/
def Secures (x : Build α) (holds : α → Functions → Prop) : Prop :=
  ∀ query, Ends x query (fun value query' => query'.log.correct = true →
    query.log.correct = true ∧ holds value query'.functions) fun _ _ => True

theorem secures_pure {value : α} {holds : α → Functions → Prop}
    (result : ∀ functions, holds value functions) : Secures (pure value) holds :=
  fun query correct => ⟨correct, result query.functions⟩

theorem Secures.imp {x : Build α} {holds holds' : α → Functions → Prop} (secures : Secures x holds)
    (weaker : ∀ value functions, holds value functions → holds' value functions) :
    Secures x holds' := by
  intro query
  apply (secures query).imp
  · exact fun value query' result correct =>
      ⟨(result correct).1, weaker value _ (result correct).2⟩
  · exact fun _ _ => id

theorem Secures.bind {x : Build α} {next : α → Build β} {between : α → Prop}
    {holds : β → Functions → Prop} (first : Secures x fun value _ => between value)
    (second : ∀ value, Secures (next value) fun value' functions =>
      between value → holds value' functions) : Secures (x >>= next) holds := by
  intro query
  apply (first query).bind
  intro value query' before
  apply (second value query').imp
  · intro value' query'' after correct
    rcases after correct with ⟨correct', result⟩
    exact ⟨(before correct').1, result (before correct').2⟩
  · exact fun _ _ => id

theorem Secures.map {x : Build α} {holds : α → Functions → Prop} {holds' : β → Functions → Prop}
    (secures : Secures x holds) {change : α → β}
    (result : ∀ value functions, holds value functions → holds' (change value) functions) :
    Secures (do return change (← x)) holds' := by
  intro query
  apply (secures query).bind
  intro value query' holds correct
  exact ⟨(holds correct).1, result value query'.functions (holds correct).2⟩

theorem secures_problem {p : Problem} (error : ∀ target, p ≠ .neverBound target) :
    Secures (problem p) fun _ _ => False := by
  intro query
  rw [problem, ends_report]
  split
  · trivial
  · intro correct
    rw [Log.add, isError_toDiagnostic error] at correct
    simp at correct

theorem secures_get_bind {next : Query → Build α} {holds : α → Functions → Prop}
    (secures : ∀ query, Secures (next query) holds) : Secures (get >>= next) holds := by
  intro query
  rw [ends_bind, ends_get]
  exact secures query query

theorem secures_ite {condition : Prop} [Decidable condition] {x y : Build α}
    {holds : α → Functions → Prop} (yes : condition → Secures x holds)
    (no : ¬condition → Secures y holds) : Secures (if condition then x else y) holds := by
  split
  · next holds => exact yes holds
  · next fails => exact no fails

theorem Takes.secures {steps : Steps} {x : Build α} (takes : Takes steps x) :
    Secures x fun _ _ => True := by
  induction takes with
  | pure value => exact secures_pure fun _ => trivial
  | throw _ => exact fun _ => trivial
  | report _ =>
      intro query
      rw [ends_report]
      split
      · trivial
      · exact fun correct => ⟨(Bool.and_eq_true_iff.mp correct).1, trivial⟩
  | modify quiet _ =>
      intro query correct
      rw [quiet.log] at correct
      exact ⟨correct, trivial⟩
  | ask _ _ induction => exact fun query => induction query query
  | bind _ _ first rest => exact first.bind fun value => (rest value).imp fun _ _ _ _ => trivial

/-! ## Calls -/

theorem accepts_of_fits {operator : Operator} (aggregate : operator.isAggregate = true)
    {count : Nat} (fits : if operator == .count then count ≤ 1 else count = 1) {arity : Arity}
    (found : writtenArity? operator = some arity) : arity.accepts count = true := by
  cases operator <;> simp [Operator.isAggregate, Operator.family] at aggregate <;>
    simp [writtenArity?, Operator.arity?] at found fits <;> subst found <;>
    simp [Arity.accepts, Arity.exactly, Arity.between, fits]

theorem secures_checkAggregate {call : Call} (aggregate : call.isAggregate = true)
    (args : List Expr) : Secures (checkAggregate call args) fun _ _ => call.Suits args := by
  have flat : Secures (do
      if Expr.anyHasAggregate args then
        problem (.nestedAggregate call.name)) fun _ _ =>
        ∀ inner ∈ Expr.callsOf args, inner.isAggregate = false := by
    apply secures_ite
    · exact fun _ => (secures_problem (by simp)).imp fun _ _ => False.elim
    · intro flat
      apply secures_pure
      intro _ inner inside
      rw [Expr.anyHasAggregate_eq, List.any_eq_true] at flat
      simpa using fun holds => flat ⟨inner, inside, holds⟩
  apply secures_ite
  · exact fun fits => flat.imp fun _ _ flat =>
      ⟨fun arity found => accepts_of_fits aggregate fits found, fun _ => flat⟩
  · exact fun _ => (secures_problem (by simp)).bind fun _ =>
      flat.imp fun _ _ _ => False.elim

theorem secures_checkArguments (call : Call) (args : List Expr) :
    Secures (checkArguments call args) fun _ _ => call.Suits args := by
  rw [checkArguments]
  split
  · next aggregate => exact secures_checkAggregate aggregate args
  · next plain =>
      split
      · next arity found =>
          apply secures_ite
          · intro accepts
            apply secures_pure
            intro _
            refine ⟨fun arity' found' => ?_, fun aggregate => absurd aggregate plain⟩
            rw [found] at found'
            cases found'
            exact accepts
          · exact fun _ => (secures_problem (by simp)).imp fun _ _ => False.elim
      · next none =>
          apply secures_pure
          intro _
          refine ⟨fun arity found => ?_, fun aggregate => absurd aggregate plain⟩
          rw [none] at found
          cases found

theorem secures_prepareRegex (call : Call) (args : List Expr) (flagsAt : Nat) (widen : Bool) :
    Secures (prepareRegex call args flagsAt widen) fun prepared _ =>
      ∃ regex, prepared = { call with regex } := by
  rw [prepareRegex_eq]
  apply secures_get_bind
  intro query
  apply secures_ite
  · exact fun _ => secures_pure fun _ => ⟨call.regex, rfl⟩
  · intro _
    unfold readRegex
    split
    · apply secures_get_bind
      intro query
      split
      · exact secures_pure fun _ => ⟨_, rfl⟩
      · exact (secures_problem (by simp)).bind fun _ => secures_pure fun _ => False.elim
    · exact secures_pure fun _ => ⟨call.regex, rfl⟩

theorem secures_linkExternal (call : Call) :
    Secures (linkExternal call) fun linked _ => ∃ target,
      Extension.Target.ofName? call.key = some target ∧
        linked = { call with external := some target } := by
  rw [linkExternal]
  split
  · next target found => exact secures_pure fun _ => ⟨target, found, rfl⟩
  · exact (secures_problem (by simp)).bind fun _ => secures_pure fun _ => False.elim

theorem secures_resolveUser (call : Call) (args : List Expr) :
    Secures (resolveUser call args) fun resolved functions =>
      call.key ∈ functions.undefinedNames ∧ resolved = call ∨
        functions.isDefined call.key = true ∧
          resolved = { call with operator := .userFunction } := by
  intro query
  rw [resolveUser, ends_bind, ends_get]
  split
  · next definition found =>
      have defined : query.functions.isDefined call.key = true := by
        rw [Functions.isDefined, found]
        rfl
      rw [checkParameters]
      split
      · exact fun correct => ⟨correct, .inr ⟨defined, rfl⟩⟩
      · apply (secures_problem (by simp) query).bind
        exact fun _ _ failed correct => (failed correct).2.elim
  · intro correct
    refine ⟨correct, .inl ⟨?_, rfl⟩⟩
    exact (query.functions.mem_undefinedNames_defer call.key call.key args.length).mpr (.inl rfl)

theorem secures_finish {call : Call} {args : List Expr}
    (named : call.operator = Operator.ofName call.key) :
    Secures (finish call args) fun e functions => ∃ head stored, e = .call head stored ∧
      Expr.termsOf stored = Expr.termsOf args ∧
      (call.Suits args → head.WellFormed functions stored) := by
  have regex (flagsAt : Nat) (widen : Bool) (uncast : call.operator ≠ .cast)
      (unhashed : call.operator ≠ .hash) (unlinked : call.operator ≠ .external)
      (meant : call.operator ≠ .undefined) :
      Secures (do return Expr.call (← prepareRegex call args flagsAt widen) args)
        fun e functions => ∃ head stored, e = .call head stored ∧
          Expr.termsOf stored = Expr.termsOf args ∧
          (call.Suits args → head.WellFormed functions stored) := by
    apply (secures_prepareRegex call args flagsAt widen).map
    rintro _ _ ⟨regex, rfl⟩
    refine ⟨{ call with regex }, args, rfl, rfl, fun suits => ?_⟩
    exact suits.wellFormed named rfl (Call.key_congr rfl rfl) uncast (absurd · unhashed)
      (absurd · unlinked) (absurd · meant)
  unfold finish
  split
  · next operator =>
      apply secures_pure
      intro _
      refine ⟨call, castArgs call args, rfl, termsOf_castArgs call args, fun suits => ?_⟩
      exact suits.wellFormed_cast named operator
  · next operator =>
      have digest := (Operator.ofName_eq_hash_iff _).mp (named.symm.trans operator)
      rcases Option.isSome_iff_exists.mp digest with ⟨algorithm, found⟩
      rw [found]
      apply secures_pure
      intro _
      refine ⟨{ call with modality := some algorithm }, args, rfl, rfl, fun suits => ?_⟩
      exact suits.wellFormed named rfl (Call.key_congr rfl rfl) (by simp [operator])
        (fun _ => ⟨algorithm, found, rfl⟩) (by simp [operator]) (by simp [operator])
  · next operator => apply regex <;> simp [operator]
  · next operator => apply regex <;> simp [operator]
  · next operator =>
      apply (secures_linkExternal call).map
      rintro _ _ ⟨target, found, rfl⟩
      refine ⟨{ call with external := some target }, args, rfl, rfl, fun suits => ?_⟩
      exact suits.wellFormed named rfl (Call.key_congr rfl rfl) (by simp [operator])
        (by simp [operator]) (fun _ => ⟨target, found, rfl⟩) (by simp [operator])
  · next operator =>
      apply (secures_resolveUser call args).map
      rintro _ _ (⟨recorded, rfl⟩ | ⟨defined, rfl⟩)
      · refine ⟨_, args, rfl, rfl, fun suits => ?_⟩
        exact suits.wellFormed named rfl rfl (by simp [operator]) (by simp [operator])
          (by simp [operator]) fun _ => recorded
      · have key : { call with operator := .userFunction }.key = call.key := Call.key_congr rfl rfl
        refine ⟨{ call with operator := .userFunction }, args, rfl, rfl, fun _ => ?_⟩
        apply Call.wellFormed_userFunction rfl
        · rw [key, ← named, operator]
        · rwa [key]
  · next uncast unhashed _ _ unlinked meant =>
      apply secures_pure
      intro _
      refine ⟨call, args, rfl, rfl, fun suits => ?_⟩
      exact suits.wellFormed named rfl rfl uncast (absurd · unhashed) (absurd · unlinked)
        (absurd · meant)

theorem secures_aggregate (name : String) (args : List Expr) (distinct : Bool)
    (separator : Option String) :
    Secures (aggregate name args distinct separator) fun e functions => ∃ head stored,
      e = .call head stored ∧ Expr.termsOf stored = Expr.termsOf args ∧
        head.WellFormed functions stored := by
  rw [aggregate_eq]
  apply (takes_calledName Steps.complains_all name).secures.bind
  intro called
  have named := operator_writtenCall called distinct separator
  generalize writtenCall called distinct separator = call at named
  rw [prepare_eq]
  apply (secures_checkArguments call args).bind
  intro _
  apply (secures_finish named).imp
  rintro _ _ ⟨head, stored, equal, terms, wellFormed⟩ suits _
  exact ⟨head, stored, equal, terms, wellFormed suits⟩

end Build

/-! ## Later operations -/

structure Functions.Extends (functions functions' : Functions) : Prop where
  names : ∀ key ∈ functions.undefinedNames, key ∈ functions'.undefinedNames
  definitions : ∀ key, functions.isDefined key = true → functions'.isDefined key = true

theorem Functions.Extends.trans {first second third : Functions} (before : first.Extends second)
    (after : second.Extends third) : first.Extends third where
  names key member := after.names key (before.names key member)
  definitions key defined := after.definitions key (before.definitions key defined)

theorem Functions.extends_of_eq {functions functions' : Functions} (same : functions' = functions) :
    functions.Extends functions' := by
  subst same
  exact ⟨fun _ => id, fun _ => id⟩

theorem Functions.extends_defer (functions : Functions) (key : String) (count : Nat) :
    functions.Extends (functions.defer key count) where
  names other member := (functions.mem_undefinedNames_defer key other count).mpr (.inr member)
  definitions _ := id

theorem Functions.extends_define (functions : Functions) (definition : Definition) :
    functions.Extends (functions.define definition) where
  names _ := id
  definitions key defined := by
    rw [isDefined, definition?_define]
    split
    · rfl
    · exact defined

namespace Operation

theorem extends_of_takes {α : Type} {x : Build α}
    (takes : Build.Takes ⟨fun query query' => query.functions.Extends query'.functions,
      fun _ => True, fun _ => True⟩ x) (query : Query) :
    query.functions.Extends (x.after query).functions := by
  have kept : Build.Preserves (fun query' => query.functions.Extends query'.functions)
      (fun _ query' => query.functions.Extends query'.functions) x :=
    takes.preserves (fun _ _ after _ before => before.trans after) fun _ _ => id
  exact kept.after (Functions.extends_of_eq rfl)

theorem extends_functions {operation : Operation} (unsettled : operation ≠ .normalize)
    (query : Query) : query.functions.Extends (operation.run.after query).functions := by
  have complains : Build.Steps.Complains ⟨fun query query' : Query =>
      query.functions.Extends query'.functions, fun _ => True, fun _ => True⟩ := fun _ _ => trivial
  cases concerns : operation.concernsFunctions with
  | false =>
      exact Functions.extends_of_eq ((Build.takes_attaching concerns).adds query).functions
  | true =>
      have defers : Build.Steps.Changes ⟨fun query query' : Query =>
          query.functions.Extends query'.functions, fun _ => True, fun _ => True⟩
          Build.Defers := by
        rintro query _ ⟨key, count, rfl⟩
        exact query.functions.extends_defer key count
      have defines : Build.Steps.Changes ⟨fun query query' : Query =>
          query.functions.Extends query'.functions, fun _ => True, fun _ => True⟩
          Build.Defines := by
        rintro query _ ⟨definition, rfl⟩
        exact query.functions.extends_define definition
      cases operation with
      | call name args =>
          exact extends_of_takes
            ((Build.takes_aggregate complains defers name args _ _).map _) query
      | aggregate name args distinct separator =>
          exact extends_of_takes
            ((Build.takes_aggregate complains defers name args _ _).map _) query
      | define name params body =>
          have takes := Build.takes_define complains defines name params body
          exact extends_of_takes (takes.map _) query
      | normalize => exact absurd rfl unsettled
      | _ => cases concerns

theorem correct_of_after {operation : Operation} {query : Query}
    (correct : (operation.run.after query).log.correct = true) : query.log.correct = true := by
  rcases operation.endures_after query [] query rfl with ⟨_, here, grows⟩
  cases here
  cases before : query.log.correct with
  | true => rfl
  | false => exact (grows.incorrect before).symm.trans correct

end Operation

theorem Call.WellFormed.mono {functions functions' : Functions} {head : Call} {args : List Expr}
    (wellFormed : head.WellFormed functions args) (later : functions.Extends functions') :
    head.WellFormed functions' args :=
  { wellFormed with
    undefined := fun operator => later.names _ (wellFormed.undefined operator)
    userFunction := fun operator => later.definitions _ (wellFormed.userFunction operator) }

theorem Expr.WellFormed.mono {functions functions' : Functions} {e : Expr}
    (wellFormed : e.WellFormed functions) (later : functions.Extends functions') :
    e.WellFormed functions' :=
  fun term member => (wellFormed term member).mono later

/-! ## Expressions that are built -/

theorem Call.IsTest.wellFormed {head : Call} (test : head.IsTest) (functions : Functions) :
    head.WellFormed functions [] := by
  rcases test with ⟨test, named⟩
  have suits : head.Suits [] := by
    refine ⟨?_, by simp [Expr.callsOf]⟩
    rcases test with operator | operator <;>
      simp [Build.writtenArity?, operator, Operator.arity?, Arity.accepts, Arity.exactly]
  rcases test with operator | operator <;>
    apply suits.wellFormed named rfl rfl <;> simp [operator]

theorem Call.IsStep.wellFormed {head : Call} {args : List Expr} (step : head.IsStep args)
    (functions : Functions) : head.WellFormed functions args := by
  have family : head.operator.family = .path := by
    simpa [Call.isPath, Operator.isPath] using step.path
  constructor
  · simp [step.path]
  · exact fun _ => step.symbol
  · exact step.arity
  · simp [isAggregate, Operator.isAggregate, family]
  all_goals
    intro operator
    rw [operator] at family
    cases family

theorem Expr.wellFormed_call {functions : Functions} {head : Call} {stored args : List Expr}
    (here : head.WellFormed functions stored) (terms : termsOf stored = termsOf args)
    (given : ∀ e ∈ args, e.WellFormed functions) : (call head stored).WellFormed functions := by
  intro term member
  rcases List.mem_cons.mp member with equal | inside
  · cases equal
    exact here
  · rw [terms] at inside
    rcases mem_termsOf.mp inside with ⟨e, there, inside⟩
    exact given e there term inside

theorem Expr.PlainOn.wellFormed {functions : Functions} {operands : List Expr} {e : Expr}
    (plain : e.PlainOn operands) (given : ∀ e ∈ operands, e.WellFormed functions) :
    e.WellFormed functions := by
  rcases plain with ⟨head, args, rfl, ⟨step, among⟩ | ⟨test, rfl⟩⟩
  · exact wellFormed_call (step.wellFormed functions) rfl fun e there => given e (among e there)
  · exact wellFormed_call (test.wellFormed functions) rfl nofun

namespace Query

/-- The query is made by operations before it is normalized, and these are the expressions that
they built. Each is made of earlier ones. -/
inductive Builds : Query → List Expr → Prop
  | empty (options : Options) (namespaces : Namespaces) (library : Regex.Library)
      (labelOrder : LabelOrder) : Builds { options, namespaces, library, labelOrder } []
  | step {query : Query} {built : List Expr} (operation : Operation)
      (before : Builds query built) (unsettled : operation ≠ .normalize)
      (own : operation.isBuilding = true → ∀ e ∈ operation.operands, e.Own built) :
      Builds (operation.run.after query) (built ++ operation.built query)

end Query

theorem Operation.wellFormed_aggregate {name : String} {args : List Expr} {distinct : Bool}
    {separator : Option String} {query : Query}
    (correct : ((aggregate name args distinct separator).run.after query).log.correct = true)
    (given : ∀ e ∈ args, e.WellFormed
      ((aggregate name args distinct separator).run.after query).functions) :
    ∀ e ∈ (aggregate name args distinct separator).built query, e.WellFormed
      ((aggregate name args distinct separator).run.after query).functions := by
  rw [run, Build.after_map] at correct given ⊢
  have ends : Build.Ends (Build.aggregate name args distinct separator) query
      (fun e _ => e.WellFormed
        ((Build.aggregate name args distinct separator).after query).functions)
      fun _ _ => True := by
    apply ((Build.secures_aggregate name args distinct separator query).and
      (Build.ends_after _ query)).imp
    · rintro e _ ⟨holds, rfl⟩
      rcases holds correct with ⟨_, head, stored, rfl, terms, wellFormed⟩
      exact Expr.wellFormed_call wellFormed terms given
    · exact fun _ _ _ => trivial
  exact forall_built_of_ends rfl ends

theorem Operation.isBuilding_of_mem {operation : Operation} {query : Query} {e : Expr}
    (member : e ∈ operation.built query) : operation.isBuilding = true := by
  rw [built] at member
  split at member
  · assumption
  · simp at member

theorem Operation.wellFormed_built {operation : Operation} {query : Query}
    (correct : (operation.run.after query).log.correct = true)
    (given : ∀ e ∈ operation.operands,
      e.WellFormed (operation.run.after query).functions) :
    ∀ e ∈ operation.built query, e.WellFormed (operation.run.after query).functions := by
  cases concerns : operation.concernsFunctions with
  | false => exact fun e member => (plainOn_operands concerns e member).wellFormed given
  | true =>
      cases operation with
      | call name args => exact wellFormed_aggregate correct given
      | aggregate name args distinct separator => exact wellFormed_aggregate correct given
      | define _ _ _ | normalize => simp [built, isBuilding]
      | _ => cases concerns

/-- As long as the query is correct and not normalized, every call in the expressions that it built
is well formed. -/
theorem Query.Builds.wellFormed_of_correct {query : Query} {built : List Expr}
    (builds : query.Builds built) (correct : query.log.correct = true) :
    ∀ e ∈ built, ∀ term ∈ e.terms, term.1.WellFormed query.functions term.2 := by
  induction builds with
  | empty options namespaces library labelOrder => simp
  | @step query built operation before unsettled own induction =>
      have earlier (e : Expr) (member : e ∈ built) :
          e.WellFormed (operation.run.after query).functions :=
        Expr.WellFormed.mono (induction (Operation.correct_of_after correct) e member)
          (Operation.extends_functions unsettled query)
      intro e member
      rcases List.mem_append.mp member with old | new
      · exact earlier e old
      · apply Operation.wellFormed_built correct _ e new
        intro operand there
        rcases own (Operation.isBuilding_of_mem new) operand there with uncalled | old
        · intro term inside
          have none : operand.terms = [] := by
            rw [← List.map_eq_nil_iff, Expr.map_terms, uncalled]
          simp [none] at inside
        · exact earlier operand old

/-! ## Calls of what a query built -/

theorem Query.builds_call {operation : Operation} {e : Expr} (unsettled : operation ≠ .normalize)
    (uncalled : ∀ operand ∈ operation.operands, operand.calls = [])
    (first : operation.built {} = [e]) (name : String) :
    ((Operation.call name [e]).run.after (operation.run.after {})).Builds
      ([e] ++ (Operation.call name [e]).built (operation.run.after {})) := by
  have empty : ({} : Query).Builds [] := .empty {} _ _ _
  have before := empty.step operation unsettled fun _ operand there =>
    .inl (uncalled operand there)
  rw [first] at before
  exact before.step (.call name [e]) (by simp) fun _ _ member => .inr member

namespace Build

def digesting : Query := (Operation.call "SHA256" [.var (.ofName "?x")]).run.after {}

def digest : Expr :=
  .call { name := "SHA256", operator := .hash, modality := some "SHA-256" } [.var (.ofName "?x")]

def castingName : String := "<http://www.w3.org/2001/XMLSchema#string>"

def castingDigest : Query := (Operation.call castingName [digest]).run.after digesting

theorem castingDigest_wellFormed :
    castingDigest.log.correct = true ∧
      ∀ e ∈ [digest] ++ (Operation.call castingName [digest]).built digesting,
        ∀ term ∈ e.terms, term.1.WellFormed castingDigest.functions term.2 :=
  have correct : castingDigest.log.correct = true := by decide +kernel
  have builds := @Query.builds_call (.call "SHA256" [.var (.ofName "?x")]) digest (by simp)
    (by simp [Operation.operands, Expr.calls]) rfl castingName
  ⟨correct, builds.wellFormed_of_correct correct⟩

def starred : Expr :=
  .call { name := "*", operator := .star } [.const (.iri "http://example.org/p")]

def starring : Query :=
  (Operation.pathOperator "*" (.const (.iri "http://example.org/p"))).run.after {}

def spelling : Query := (Operation.call "str" [starred]).run.after starring

theorem spelling_misnamed :
    spelling.Builds ([starred] ++ (Operation.call "str" [starred]).built starring) ∧
      spelling.log.correct = true ∧
      ∃ e ∈ (Operation.call "str" [starred]).built starring, ∃ term ∈ e.terms,
        ¬(term.1.operator = Operator.ofName term.1.key ∨
          Operator.ofName term.1.key = .undefined ∧ term.1.operator = .userFunction) := by
  have built : (Operation.call "str" [starred]).built starring =
      [.call { name := "str", operator := .str } [starred]] := rfl
  have builds := @Query.builds_call (.pathOperator "*" (.const (.iri "http://example.org/p")))
    starred (by simp) (by simp [Operation.operands, Expr.calls]) rfl "str"
  refine ⟨builds, rfl, .call { name := "str", operator := .str } [starred], ?_,
    ({ name := "*", operator := .star }, [.const (.iri "http://example.org/p")]), ?_, ?_⟩
  · rw [built]
    exact List.mem_singleton_self _
  · simp [Expr.terms, Expr.termsOf, starred]
  · decide +kernel

end Build

end Sparql
