import Sparql.Proofs.Calls.History
import Sparql.Proofs.Changes
import Sparql.Proofs.Check.Levels

/-!
What operations add to the history of a query, and that it accounts for all calls then. The
subqueries of a query that is made are made too.
-/

namespace Sparql

/-! ## Expressions -/

def Expr.BuiltOn (operands : List Expr) (e : Expr) : Prop :=
  ∀ call ∈ e.calls,
    (call.operator ≠ .undefined ∧ (Operator.ofName call.key = .undefined → call.isPath = true)) ∨
      ∃ operand ∈ operands, call ∈ operand.calls

def Call.IsTest (call : Call) : Prop :=
  (call.operator = .patternExists ∨ call.operator = .patternAbsent) ∧
    call.operator = Operator.ofName call.key

/-- The call is a step of a path, which is written as a symbol or as a counted repetition. -/
structure Call.IsStep (call : Call) (args : List Expr) : Prop where
  path : call.isPath = true
  symbol : Operator.ofPathSymbol? call.name = some call.operator ∨ call.operator = .counted
  arity : ∀ arity, call.operator.arity? = some arity → arity.accepts args.length = true

/-- The expression is a path made of the operands, or a test of a pattern. -/
def Expr.PlainOn (operands : List Expr) (e : Expr) : Prop :=
  ∃ head args, e = .call head args ∧
    (head.IsStep args ∧ (∀ arg ∈ args, arg ∈ operands) ∨ head.IsTest ∧ args = [])

theorem Expr.PlainOn.builtOn {operands : List Expr} {e : Expr} (plain : e.PlainOn operands) :
    e.BuiltOn operands := by
  rcases plain with ⟨head, args, rfl, ⟨step, given⟩ | ⟨⟨test, named⟩, rfl⟩⟩
  · intro call member
    rcases List.mem_cons.mp member with equal | inside
    · subst equal
      refine .inl ⟨?_, fun _ => step.path⟩
      intro undefined
      have path := step.path
      rw [Call.isPath, undefined] at path
      cases path
    · rcases Expr.mem_callsOf.mp inside with ⟨e, there, inside⟩
      exact .inr ⟨e, given e there, inside⟩
  · intro call member
    rcases List.mem_singleton.mp member with rfl
    have meant : call.operator ≠ .undefined := by
      rcases test with equal | equal <;> simp [equal]
    exact .inl ⟨meant, fun undefined => absurd undefined (named ▸ meant)⟩

namespace Operation

variable {query : Query}

theorem forall_built_of_ends {operation : Operation} {x : Build Expr} {property : Expr → Prop}
    (same : operation.run = Answer.expr <$> x)
    (ends : Build.Ends x query (fun e _ => property e) fun _ _ => True) :
    ∀ e ∈ operation.built query, property e := by
  intro e member
  have ran := ends
  rw [built] at member
  split at member
  · rw [same, map_eq_pure_bind, EStateM.run_bind] at member
    unfold Build.Ends at ran
    cases run : x.run query with
    | ok value query' =>
        rw [run] at ran member
        have equal : e = value := by simpa using member
        rwa [equal]
    | error failure query' =>
        rw [run] at member
        simp at member
  · simp at member

theorem isPath_of_ofPathSymbol? {symbol : String} {operator : Operator}
    (found : Operator.ofPathSymbol? symbol = some operator) : operator.isPath = true := by
  have all : ∀ entry ∈ Operator.pathSymbols, entry.2.isPath = true := by decide
  rcases List.lookup_eq_some_iff.mp found with ⟨before, after, equal, _⟩
  exact all (_, operator) (equal ▸ List.mem_append_right _ (List.mem_cons_self ..))

theorem arity?_of_isPath {operator : Operator} (path : operator.isPath = true)
    (single : ¬(operator = .sequence ∨ operator = .alternative)) :
    operator.arity? = some (.atLeast 1) := by
  cases operator <;> simp [Operator.isPath, Operator.family] at path single <;> rfl

theorem ends_pathOperator (symbol : String) (operand : Expr) :
    Build.Ends (Build.pathOperator symbol operand) query (fun e _ => e.PlainOn [operand])
      fun _ _ => True := by
  unfold Build.pathOperator
  split
  · next operator found =>
      split
      · exact trivial
      · next single =>
          have path := isPath_of_ofPathSymbol? found
          refine ⟨_, _, rfl, .inl ⟨⟨path, .inl found, fun arity known => ?_⟩, fun _ => id⟩⟩
          rw [arity?_of_isPath path single] at known
          cases known
          rfl
  · exact trivial

theorem ends_repeated (least most : Option String) (operand : Expr) :
    Build.Ends (Build.repeated least most operand) query (fun e _ => e.PlainOn [operand])
      fun _ _ => True := by
  unfold Build.repeated
  split
  · refine ⟨_, _, rfl, .inl ⟨⟨rfl, .inr rfl, fun arity known => ?_⟩, fun _ => id⟩⟩
    cases known
    rfl
  · exact trivial

theorem ends_pathPair (symbol : String) (left right : Expr) :
    Build.Ends (Build.pathPair symbol left right) query (fun e _ => e.PlainOn [left, right])
      fun _ _ => True := by
  have sequence : Operator.ofPathSymbol? "/" = some .sequence := by decide +kernel
  have alternative : Operator.ofPathSymbol? "|" = some .alternative := by decide +kernel
  unfold Build.pathPair
  split
  · refine ⟨_, _, rfl, .inl ⟨⟨rfl, .inl sequence, fun arity known => ?_⟩, fun _ => id⟩⟩
    cases known
    rfl
  · refine ⟨_, _, rfl, .inl ⟨⟨rfl, .inl alternative, fun arity known => ?_⟩, fun _ => id⟩⟩
    cases known
    rfl
  · exact trivial

theorem ends_patternExists (id : PatternId) (negated : Bool) :
    Build.Ends (Build.patternExists id negated) query (fun e _ => e.PlainOn [])
      fun _ _ => True := by
  have known : Build.Ends (Build.known id) query (fun _ _ => True) fun _ _ => True := by
    unfold Build.Ends
    split <;> trivial
  have present : .patternExists = Operator.ofName "exists" := by decide +kernel
  have absent : .patternAbsent = Operator.ofName "not exists" := by decide +kernel
  apply known.bind
  intro _ query' _
  split
  · exact ⟨_, _, rfl, .inr ⟨⟨.inr rfl, absent⟩, rfl⟩⟩
  · exact ⟨_, _, rfl, .inr ⟨⟨.inl rfl, present⟩, rfl⟩⟩

theorem plainOn_operands {operation : Operation} (apart : operation.concernsFunctions = false) :
    ∀ e ∈ operation.built query, e.PlainOn operation.operands := by
  cases operation with
  | patternExists id negated => exact forall_built_of_ends rfl (ends_patternExists id negated)
  | pathOperator symbol operand =>
      exact forall_built_of_ends rfl (ends_pathOperator symbol operand)
  | repeated least most operand =>
      exact forall_built_of_ends rfl (ends_repeated least most operand)
  | pathPair symbol left right => exact forall_built_of_ends rfl (ends_pathPair symbol left right)
  | call _ _ | aggregate _ _ _ _ | define _ _ _ | normalize => cases apart
  | _ =>
      intro e member
      rw [built, if_neg (by simp [isBuilding])] at member
      simp at member

theorem next_of_uncalled {operation : Operation} (uncalled : operation.called query = [])
    (history : History) :
    history.next operation query =
      { history with built := history.built ++ operation.built query } := by
  rw [History.next, counted, if_pos uncalled, uncalled, List.append_nil, List.append_nil]

theorem called_of_apart {operation : Operation} (apart : operation.concernsFunctions = false)
    (query : Query) : operation.called query = [] := by
  cases operation with
  | call _ _ | aggregate _ _ _ _ => cases apart
  | _ => rfl

theorem mem_operands_of_attached {operation : Operation}
    (apart : operation.concernsFunctions = false) {e : Expr} (member : e ∈ operation.attached) :
    e ∈ operation.operands := by
  cases operation with
  | call _ _ | aggregate _ _ _ _ | define _ _ _ => cases apart
  | pathOperator _ _ | repeated _ _ _ | pathPair _ _ _ => simp [attached] at member
  | _ => exact member

theorem accounts_apart {operation : Operation} {history : History}
    (apart : operation.concernsFunctions = false) (accounts : query.Accounts history)
    (own : ∀ e ∈ operation.operands, e.Own history.built) :
    (operation.run.after query).Accounts (history.next operation query) := by
  have adds := (Build.takes_attaching apart).adds query
  have options := (Build.takes_run operation).options_eq query
  rw [next_of_uncalled (called_of_apart apart query)]
  apply accounts.adds adds options
  · intro e member call inside
    rcases (plainOn_operands apart e member).builtOn call inside with
      ⟨meant, named⟩ | ⟨operand, there, inside⟩
    · exact query.functions.knows_of_meant meant named
    · exact accounts.knows_own (own operand there) call inside
  · exact fun e member => own e (mem_operands_of_attached apart member)

/-! ## Definitions and calls -/

theorem exists_after_define (lenient : query.options.strict = false) (name : String)
    (params : List Variable) (body : Expr) : ∃ reports,
    (define name params body).run.after query = { query.reporting reports with
      functions := query.functions.define
        { name := query.namespaces.key name
          params := params.map fun param => { param with scope := .parameter }
          body } } := by
  rcases Build.exists_run_define lenient name params with ⟨reports, defines⟩
  rcases defines body query rfl rfl rfl with ⟨query', run, equal⟩
  refine ⟨reports, ?_⟩
  rw [Operation.run, silent, Build.after_map, Build.after_of_run_ok run]
  exact equal

theorem accounts_define {name : String} {params : List Variable} {body : Expr} {history : History}
    (accounts : query.Accounts history) (own : body.Own history.built)
    (once : query.functions.isDefined (query.namespaces.key name) = false) :
    ((define name params body).run.after query).Accounts
      (history.next (define name params body) query) := by
  rcases exists_after_define accounts.lenient name params body with ⟨reports, after⟩
  have unbuilt : (define name params body).built query = [] := if_neg (by simp [isBuilding])
  rw [after, next_of_uncalled rfl, unbuilt, List.append_nil]
  exact accounts.define own once reports

theorem built_of_run_ok {operation : Operation} (building : operation.isBuilding = true)
    {x : Build Expr} (same : operation.run = Answer.expr <$> x) {e : Expr} {query' : Query}
    (run : x.run query = .ok e query') : operation.built query = [e] := by
  rw [built, if_pos building, same, map_eq_pure_bind, EStateM.run_bind, run]
  rfl

theorem counted_eq {operation : Operation} (called : operation.called query ≠ [])
    {reports misfits : List Diagnostic} (about : Build.AboutPrefix reports)
    (misfit : ∀ report ∈ misfits, report.code = .functionArity)
    (grown : (operation.run.after query).log.entries =
      query.log.entries ++ (reports ++ misfits)) : operation.counted query = misfits := by
  rw [counted, if_neg called, grown, List.drop_left, List.filter_append]
  have others : reports.filter (·.code = .functionArity) = [] := by
    apply List.filter_eq_nil_iff.mpr
    intro report member
    rw [about report member]
    decide
  have all : misfits.filter (·.code = .functionArity) = misfits := by
    apply List.filter_eq_self.mpr
    intro report member
    exact decide_eq_true (misfit report member)
  rw [others, all, List.nil_append]

section

variable {name : String} {args : List Expr} {distinct : Bool} {separator : Option String}
  {history : History}

theorem after_aggregate {e : Expr} {query' : Query}
    (run : (Build.aggregate name args distinct separator).run query = .ok e query') :
    (aggregate name args distinct separator).run.after query = query' := by
  rw [Operation.run, Build.after_map]
  exact Build.after_of_run_ok run

theorem accounts_aggregate_of_undefined (accounts : query.Accounts history)
    (own : ∀ e ∈ args, e.Own history.built)
    (undefined : Operator.ofName (query.namespaces.key name) = .undefined) :
    ((aggregate name args distinct separator).run.after query).Accounts
      (history.next (aggregate name args distinct separator) query) := by
  rcases Build.exists_run_aggregate_of_undefined accounts.lenient name distinct separator
    undefined with ⟨head, reports, operator, key, about, runs⟩
  have run := runs args query rfl rfl rfl
  have called : (aggregate name args distinct separator).called query =
      [(head.key, args.length)] := by
    rw [Operation.called, if_pos undefined, key]
  have isCalled : (aggregate name args distinct separator).called query ≠ [] := by simp [called]
  cases found : query.functions.definition? head.key with
  | some definition =>
      have asked : Build.asked (query.reporting reports) head args =
          (.call { head with operator := .userFunction } args,
            (query.reporting reports).reporting
              (Functions.misfit? query.functions.arity? (head.key, args.length)).toList) := by
        simp only [Build.asked, Query.functions_reporting, found]
      rw [asked, ← Query.reporting_append] at run
      have counted := counted_eq isCalled about Functions.code_misfit?
        ((congrArg (·.log.entries) (after_aggregate run)).trans (query.entries_reporting _))
      rw [after_aggregate run, History.next, built_of_run_ok rfl rfl run, called, counted]
      apply accounts.count _ own
      rw [Functions.isDefined, found]
      rfl
  | none =>
      have asked : Build.asked (query.reporting reports) head args =
          (.call head args, { query.reporting reports with
            functions := query.functions.defer head.key args.length }) := by
        simp only [Build.asked, Query.functions_reporting, found]
      rw [asked] at run
      have grown : ((aggregate name args distinct separator).run.after query).log.entries =
          query.log.entries ++ (reports ++ []) := by
        rw [after_aggregate run, List.append_nil]
        exact query.entries_reporting reports
      rw [after_aggregate run, History.next, built_of_run_ok rfl rfl run, called,
        counted_eq isCalled about (by simp) grown, List.append_nil]
      exact accounts.defer operator own reports

theorem accounts_aggregate_of_meant (accounts : query.Accounts history)
    (own : ∀ e ∈ args, e.Own history.built)
    (meant : Operator.ofName (query.namespaces.key name) ≠ .undefined) :
    ((aggregate name args distinct separator).run.after query).Accounts
      (history.next (aggregate name args distinct separator) query) := by
  rcases Build.exists_yields_aggregate accounts.lenient name distinct separator meant
    (fun _ => false) (Expr.resolvedAll (fun _ => false) args) with
    ⟨head, reports, operator, key, yields⟩
  have run := yields args rfl query rfl rfl rfl
  have uncalled : (aggregate name args distinct separator).called query = [] := by
    rw [Operation.called, if_neg meant]
  rw [after_aggregate run, next_of_uncalled uncalled, built_of_run_ok rfl rfl run]
  have adds : query.Adds [] (fun _ => False) (query.reporting reports) :=
    Query.adds_nothing rfl rfl rfl rfl
  have meantHead : head.operator ≠ .undefined := by rwa [operator]
  apply accounts.adds adds rfl
  · intro e member call inside
    rw [List.mem_singleton.mp member] at inside
    rcases List.mem_cons.mp inside with equal | inside
    · subst equal
      apply query.functions.knows_of_meant meantHead
      intro named
      exact absurd (key ▸ named) meant
    · rw [Build.callsOf_builtArgs] at inside
      exact accounts.knows_all own call inside
  · simp

theorem accounts_aggregate (accounts : query.Accounts history)
    (own : ∀ e ∈ args, e.Own history.built) :
    ((aggregate name args distinct separator).run.after query).Accounts
      (history.next (aggregate name args distinct separator) query) := by
  by_cases undefined : Operator.ofName (query.namespaces.key name) = .undefined
  · exact accounts_aggregate_of_undefined accounts own undefined
  · exact accounts_aggregate_of_meant accounts own undefined

end

end Operation

theorem Query.Made.accounts {query : Query} {history : History} (made : query.Made history) :
    query.Accounts history := by
  induction made with
  | empty options namespaces library labelOrder lenient =>
      exact Query.accounts_empty options namespaces library labelOrder lenient
  | @step query history operation before unsettled own once inside parts accounts =>
      cases concerns : operation.concernsFunctions with
      | false => exact Operation.accounts_apart concerns accounts own
      | true =>
          cases operation with
          | call name args => exact Operation.accounts_aggregate accounts own
          | aggregate name args distinct separator =>
              exact Operation.accounts_aggregate accounts own
          | define name params body =>
              have ownBody := own body (List.mem_singleton_self body)
              exact Operation.accounts_define accounts ownBody (once name params body rfl)
          | normalize => exact absurd rfl unsettled
          | _ => cases concerns

theorem Query.Made.bare {query : Query} {history : History} (made : query.Made history)
    (operation : Operation) (apart : operation.concernsFunctions = false)
    (none : operation.operands = []) (alone : ∀ sub, operation ≠ .subquery sub) :
    (operation.run.after query).Made (history.next operation query) := by
  apply made.step operation ?_ (by simp [none]) ?_ (fun _ => {}) fun sub equal =>
    absurd equal (alone sub)
  · rintro rfl
    cases apart
  · rintro name params body rfl
    cases apart

/-! ## Subqueries -/

namespace Query

theorem Made.around {query sub : Query} {history inside : History} (made : query.Made history)
    (part : sub.Made inside) : ((Operation.subquery sub).run.after query).Made
      (history.next (.subquery sub) query) := by
  apply made.step (.subquery sub) (by simp) (by simp [Operation.operands, Operation.attached])
    (by simp) fun _ => inside
  rintro _ equal
  cases equal
  exact part

def MadeInside (query : Query) : Prop :=
  ∀ sub : Query, sub.IsPartOf query → ∃ history, sub.Made history

variable {query query' : Query} {history : History}

theorem MadeInside.congr (inside : query.MadeInside) (arena : query'.arena = query.arena) :
    query'.MadeInside := by
  intro sub part
  apply inside sub
  rwa [IsPartOf, ← arena]

theorem MadeInside.adds (inside : query.MadeInside) {added : List Expr} {may : Query → Prop}
    (adds : query.Adds added may query') (made : ∀ sub, may sub → ∃ history, sub.Made history) :
    query'.MadeInside := by
  rintro sub ⟨id, found⟩
  rcases adds.parts sub (List.mem_of_getElem? found) with there | new
  · rcases List.getElem?_of_mem there with ⟨id', found'⟩
    exact inside sub ⟨id', found'⟩
  · exact made sub new

end Query

namespace Build

theorem ends_after {α : Type} (x : Build α) (query : Query) :
    Ends x query (fun _ query' => query' = x.after query)
      fun _ query' => query' = x.after query := by
  unfold Ends after
  split <;> rfl

theorem closedUnderCheck_madeInside :
    ClosedUnderCheck check Query.MadeInside fun _ => Query.MadeInside where
  report diagnostic query inside _ := by
    rw [ends_report]
    split <;> exact inside.congr rfl
  own _ _ inside := inside.congr rfl
  project _ _ inside := inside.congr rfl
  done _ inside := inside.congr rfl
  part query id sub inside found := by
    have replaced : { query with
        arena := query.arena.set id (.subquery (check.after sub)) }.MadeInside := by
      intro sub' part
      rcases Query.isPartOf_set found part with equal | part
      · cases equal
        rcases inside sub ⟨id, found⟩ with ⟨history, made⟩
        have checked := made.bare .check rfl rfl (by simp)
        rw [Operation.run, after_map] at checked
        exact ⟨_, checked⟩
      · exact inside sub' part
    apply (ends_after check sub).imp
    · rintro _ _ rfl
      exact replaced
    · rintro _ _ rfl
      exact replaced
  other _ _ inside _ := inside

end Build

theorem arena_aggregate (name : String) (args : List Expr) (distinct : Bool)
    (separator : Option String) (query : Query) :
    ((Build.aggregate name args distinct separator).after query).arena = query.arena := by
  have takes : Build.Takes ⟨Build.Defers, fun _ => True, fun _ => True⟩
      (Build.aggregate name args distinct separator) :=
    Build.takes_aggregate (fun _ _ => trivial) (fun _ _ => id) name args distinct separator
  have keeps : Build.Preserves (fun query' => query'.arena = query.arena)
      (fun _ query' => query'.arena = query.arena)
      (Build.aggregate name args distinct separator) := by
    apply takes.preserves
    · rintro query _ ⟨key, count, rfl⟩ _ same
      exact same
    · exact fun _ _ => id
  exact keeps.after rfl

theorem Query.Made.inside {query : Query} {history : History} (made : query.Made history) :
    query.MadeInside := by
  induction made with
  | empty options namespaces library labelOrder lenient =>
      rintro sub ⟨id, found⟩
      simp [Arena.get?] at found
  | @step query history operation before unsettled own once inside parts madeInside =>
      cases concerns : operation.concernsFunctions with
      | false =>
          by_cases check : operation = .check
          · subst check
            have checked : Build.check.after query = (Build.checkWith Build.check).after query := by
              rw [Build.after, Build.check_eq, Build.after]
            rw [Operation.run, Build.after_map, checked]
            exact (Build.preserves_checkWith Build.closedUnderCheck_madeInside).after madeInside
          · apply madeInside.adds ((Build.takes_attaching concerns).adds query)
            intro sub may
            cases operation with
            | subquery sub' =>
                cases may
                exact ⟨inside sub, parts sub rfl⟩
            | check => exact absurd rfl check
            | _ => cases may
      | true =>
          cases operation with
          | call name args =>
              apply madeInside.congr
              rw [Operation.run, Build.after_map]
              exact arena_aggregate name args false none query
          | aggregate name args distinct separator =>
              apply madeInside.congr
              rw [Operation.run, Build.after_map]
              exact arena_aggregate name args distinct separator query
          | define name params body =>
              rcases Operation.exists_after_define before.accounts.lenient name params body with
                ⟨reports, after⟩
              rw [after]
              exact madeInside.congr rfl
          | normalize => exact absurd rfl unsettled
          | _ => cases concerns

end Sparql
