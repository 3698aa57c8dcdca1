import Mathlib.Data.List.Basic
import Sparql.Proofs.Calls.Kept

/-!
The history of a query that is made and not normalized yet: the expressions that it built, the calls
of functions among them, and what was reported about those calls. Each call waits on record or was
counted by a definition when it was made.
-/

namespace Sparql

/-! ## Histories -/

structure History where
  built : List Expr := []
  /-- The key and the count of arguments of each call without a meaning of its own. -/
  calls : List (String × Nat) := []
  /-- The reports on these counts. -/
  reports : List Diagnostic := []

def Expr.Own (built : List Expr) (e : Expr) : Prop := e.calls = [] ∨ e ∈ built

theorem Expr.Own.append {built : List Expr} {e : Expr} (own : e.Own built) (more : List Expr) :
    e.Own (built ++ more) :=
  own.imp_right (List.mem_append_left more)

namespace Operation

/-- The expressions that the operation builds on, or makes part of the query. -/
def operands : Operation → List Expr
  | call _ args | aggregate _ args _ _ => args
  | pathOperator _ e | repeated _ _ e | define _ _ e => [e]
  | pathPair _ left right => [left, right]
  | operation => operation.attached

def isBuilding : Operation → Bool
  | call _ _ | aggregate _ _ _ _ | patternExists _ _ | pathOperator _ _ | repeated _ _ _
  | pathPair _ _ _ => true
  | _ => false

def built (operation : Operation) (query : Query) : List Expr :=
  if operation.isBuilding then
    match operation.run.run query with
    | .ok (.expr e) _ => [e]
    | _ => []
  else []

/-- The call that the operation makes, if its name has no meaning of its own. -/
def called (operation : Operation) (query : Query) : List (String × Nat) :=
  match operation with
  | call name args | aggregate name args _ _ =>
    if Operator.ofName (query.namespaces.key name) = .undefined then
      [(query.namespaces.key name, args.length)]
    else []
  | _ => []

def counted (operation : Operation) (query : Query) : List Diagnostic :=
  if operation.called query = [] then []
  else
    ((operation.run.after query).log.entries.drop query.log.entries.length).filter
      (·.code = .functionArity)

end Operation

def History.next (history : History) (operation : Operation) (query : Query) : History where
  built := history.built ++ operation.built query
  calls := history.calls ++ operation.called query
  reports := history.reports ++ operation.counted query

/-- The query collects errors, is made by operations with such a history, and is not normalized. It
holds only expressions of its own, and defines each function once. The same is true of its
subqueries. -/
inductive Query.Made : Query → History → Prop
  | empty (options : Options) (namespaces : Namespaces) (library : Regex.Library)
      (labelOrder : LabelOrder) (lenient : options.strict = false) :
      Made { options, namespaces, library, labelOrder } {}
  | step {query : Query} {history : History} (operation : Operation) (before : Made query history)
      (unsettled : operation ≠ .normalize) (own : ∀ e ∈ operation.operands, e.Own history.built)
      (once : ∀ name params body, operation = .define name params body →
        query.functions.isDefined (query.namespaces.key name) = false)
      (inside : Query → History)
      (parts : ∀ sub, operation = .subquery sub → Made sub (inside sub)) :
      Made (operation.run.after query) (history.next operation query)

theorem Functions.code_misfit? {arity? : String → Option Nat} {call : String × Nat} :
    ∀ report ∈ (Functions.misfit? arity? call).toList, report.code = .functionArity := by
  intro report member
  rw [Option.mem_toList, Functions.misfit?] at member
  split at member
  · split at member
    · cases member
    · cases member
      rfl
  · cases member

/-! ## What is known of calls -/

/-- A call is on record or resolved, if its name has no meaning of its own. -/
structure Functions.Knows (functions : Functions) (call : Call) : Prop where
  recorded : call.operator = .undefined → call.key ∈ functions.undefinedNames
  resolved : Operator.ofName call.key = .undefined → call.isPath = false →
    call.operator = .undefined ∨
      call.operator = .userFunction ∧ functions.isDefined call.key = true

theorem Functions.Knows.mono {functions functions' : Functions} {call : Call}
    (knows : functions.Knows call)
    (names : ∀ key ∈ functions.undefinedNames, key ∈ functions'.undefinedNames)
    (definitions : ∀ key, functions.isDefined key = true → functions'.isDefined key = true) :
    functions'.Knows call where
  recorded undefined := names call.key (knows.recorded undefined)
  resolved undefined other :=
    (knows.resolved undefined other).imp_right fun both => ⟨both.1, definitions call.key both.2⟩

theorem Functions.knows_of_meant (functions : Functions) {call : Call}
    (meant : call.operator ≠ .undefined)
    (named : Operator.ofName call.key = .undefined → call.isPath = true) :
    functions.Knows call where
  recorded undefined := absurd undefined meant
  resolved undefined other := by
    rw [named undefined] at other
    cases other

namespace Query

/-- The calls of the history are known, and all of them are accounted for: they wait for a
definition, or were counted by one. -/
structure Accounts (query : Query) (history : History) : Prop where
  lenient : query.options.strict = false
  new : query.normalized = false
  kept : query.functions.Kept
  knows : ∀ e ∈ history.built, ∀ call ∈ e.calls, query.functions.Knows call
  expressions : ∀ e ∈ query.expressions, e.Own history.built
  bodies : ∀ key definition, query.functions.definition? key = some definition →
    definition.body.Own history.built
  ledger : ∃ counted, history.calls.Perm (query.functions.waiting ++ counted) ∧
    (∀ call ∈ counted, query.functions.isDefined call.1 = true) ∧
    history.reports.Perm (counted.filterMap (Functions.misfit? query.functions.arity?))

variable {query query' : Query} {history : History}

theorem Accounts.knows_own (accounts : query.Accounts history) {e : Expr}
    (own : e.Own history.built) : ∀ call ∈ e.calls, query.functions.Knows call := by
  intro call member
  rcases own with none | built
  · rw [none] at member
    simp at member
  · exact accounts.knows e built call member

theorem Accounts.knows_all (accounts : query.Accounts history) {args : List Expr}
    (own : ∀ e ∈ args, e.Own history.built) :
    ∀ call ∈ Expr.callsOf args, query.functions.Knows call := by
  intro call member
  rcases Expr.mem_callsOf.mp member with ⟨e, inside, member⟩
  exact accounts.knows_own (own e inside) call member

theorem accounts_empty (options : Options) (namespaces : Namespaces) (library : Regex.Library)
    (labelOrder : LabelOrder) (lenient : options.strict = false) :
    ({ options, namespaces, library, labelOrder } : Query).Accounts {} where
  lenient := lenient
  new := rfl
  kept := Functions.kept_empty
  knows e member := by simp at member
  expressions e member := by simp [expressions, Clauses.expressions] at member
  bodies key definition found := by simp [Functions.definition?] at found
  ledger := ⟨[], .refl _, by simp, .refl _⟩

/-! ## Operations apart from calls -/

theorem Accounts.adds (accounts : query.Accounts history) {added : List Expr} {may : Query → Prop}
    (adds : query.Adds added may query') (options : query'.options = query.options)
    {more : List Expr} (knows : ∀ e ∈ more, ∀ call ∈ e.calls, query.functions.Knows call)
    (own : ∀ e ∈ added, e.Own history.built) :
    query'.Accounts { history with built := history.built ++ more } where
  lenient := options ▸ accounts.lenient
  new := adds.normalized.trans accounts.new
  kept := adds.functions ▸ accounts.kept
  knows e member := by
    rw [adds.functions]
    rcases List.mem_append.mp member with old | new
    · exact accounts.knows e old
    · exact knows e new
  expressions e member :=
    (adds.expressions e member).elim (fun there => (accounts.expressions e there).append more)
      fun here => (own e here).append more
  bodies key definition found := by
    rw [adds.functions] at found
    exact (accounts.bodies key definition found).append more
  ledger := by
    rw [adds.functions]
    exact accounts.ledger

/-! ## Definitions -/

theorem Accounts.define (accounts : query.Accounts history) {definition : Definition}
    (own : definition.body.Own history.built)
    (once : query.functions.isDefined definition.name = false) (reports : List Diagnostic) :
    { query.reporting reports with
      functions := query.functions.define definition }.Accounts history := by
  have found := query.functions.definition?_define definition
  have defined (key : String) (isDefined : query.functions.isDefined key = true) :
      (query.functions.define definition).isDefined key = true := by
    rw [Functions.isDefined, found]
    split
    · rfl
    · exact isDefined
  refine { accounts with kept := accounts.kept.congr rfl, knows := ?_, bodies := ?_, ledger := ?_ }
  · intro e member call inside
    exact (accounts.knows e member call inside).mono (fun _ => id) defined
  · intro key definition' found'
    change (query.functions.define definition).definition? key = _ at found'
    rw [found] at found'
    split at found'
    · cases found'
      exact own
    · exact accounts.bodies key definition' found'
  · rcases accounts.ledger with ⟨counted, calls, isDefined, reported⟩
    refine ⟨counted, calls, fun call member => defined call.1 (isDefined call member), ?_⟩
    have same : ∀ call ∈ counted,
        Functions.misfit? (query.functions.define definition).arity? call =
          Functions.misfit? query.functions.arity? call := by
      intro call member
      apply Functions.misfit?_congr
      have different : call.1 ≠ definition.name := by
        intro equal
        have contrary := isDefined call member
        rw [equal, once] at contrary
        cases contrary
      rw [Functions.arity?, found, if_neg different]
      rfl
    exact (List.filterMap_congr same) ▸ reported

/-! ## Calls -/

theorem Accounts.count (accounts : query.Accounts history) {head : Call} {args : List Expr}
    (isDefined : query.functions.isDefined head.key = true)
    (own : ∀ e ∈ args, e.Own history.built) (reports : List Diagnostic) :
    (query.reporting reports).Accounts
      { built := history.built ++ [.call { head with operator := .userFunction } args]
        calls := history.calls ++ [(head.key, args.length)]
        reports := history.reports ++
          (Functions.misfit? query.functions.arity? (head.key, args.length)).toList } := by
  refine ⟨accounts.lenient, accounts.new, accounts.kept, ?_, ?_, ?_, ?_⟩
  · intro e member call inside
    rcases List.mem_append.mp member with old | new
    · exact accounts.knows e old call inside
    · rw [List.mem_singleton.mp new] at inside
      rcases List.mem_cons.mp inside with equal | inside
      · rw [equal]
        exact ⟨by simp, fun _ _ => .inr ⟨rfl, isDefined⟩⟩
      · exact accounts.knows_all own call inside
  · exact fun e member => (accounts.expressions e member).append _
  · exact fun key definition found => (accounts.bodies key definition found).append _
  · rcases accounts.ledger with ⟨counted, calls, known, reported⟩
    refine ⟨counted ++ [(head.key, args.length)], ?_, ?_, ?_⟩
    · rw [← List.append_assoc]
      exact calls.append_right _
    · exact List.forall_mem_append.mpr ⟨known, by simpa using isDefined⟩
    · rw [List.filterMap_append]
      apply reported.append
      rw [List.filterMap_cons]
      dsimp only [functions_reporting]
      cases Functions.misfit? query.functions.arity? (head.key, args.length) <;> exact .refl _

theorem Accounts.defer (accounts : query.Accounts history) {head : Call} {args : List Expr}
    (undefined : head.operator = .undefined) (own : ∀ e ∈ args, e.Own history.built)
    (reports : List Diagnostic) :
    { query.reporting reports with
      functions := query.functions.defer head.key args.length }.Accounts
      { built := history.built ++ [Expr.call head args]
        calls := history.calls ++ [(head.key, args.length)]
        reports := history.reports } := by
  have names (key : String) := query.functions.mem_undefinedNames_defer head.key key args.length
  have grown {call : Call} (knows : query.functions.Knows call) :
      (query.functions.defer head.key args.length).Knows call :=
    knows.mono (fun key member => (names key).mpr (.inr member)) fun _ => id
  refine ⟨accounts.lenient, accounts.new, accounts.kept.defer _ _, ?_, ?_, ?_, ?_⟩
  · intro e member call inside
    rcases List.mem_append.mp member with old | new
    · exact grown (accounts.knows e old call inside)
    · rw [List.mem_singleton.mp new] at inside
      rcases List.mem_cons.mp inside with equal | inside
      · rw [equal]
        exact ⟨fun _ => (names head.key).mpr (.inl rfl), fun _ _ => .inl undefined⟩
      · exact grown (accounts.knows_all own call inside)
  · exact fun e member => (accounts.expressions e member).append _
  · exact fun key definition found => (accounts.bodies key definition found).append _
  · rcases accounts.ledger with ⟨counted, calls, known, reported⟩
    refine ⟨counted, ?_, known, reported⟩
    apply (calls.append_right _).trans
    rw [List.append_assoc]
    apply (List.perm_append_comm.append_left _).trans
    rw [← List.append_assoc]
    exact (query.functions.waiting_defer head.key args.length).symm.append_right counted

end Query

end Sparql
