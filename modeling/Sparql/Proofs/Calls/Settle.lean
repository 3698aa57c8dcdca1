import Sparql.Proofs.Calls.Places
import Sparql.Proofs.Calls.Steady
import Sparql.Query.Normalize

/-!
Settling the calls that wait for a definition. Each is counted by the definition of its name, a name
without one is reported once and stays on record, and all expressions are as if every function had
been defined from the start.
-/

namespace Sparql

namespace Functions

/-! ## Reports about waiting calls -/

def settlementOf (arity? : String → Option Nat) (entry : String × List Nat) : List Diagnostic :=
  match arity? entry.1 with
  | some _ => entry.2.filterMap fun count => misfit? arity? (entry.1, count)
  | none => [(Problem.undefinedFunction entry.1).toDiagnostic]

def settlement (functions : Functions) : List Diagnostic :=
  functions.deferred.flatMap (settlementOf functions.arity?)

def unsettled (functions : Functions) : List (String × List Nat) :=
  functions.deferred.filter fun entry => !functions.isDefined entry.1

def missing (functions : Functions) : List String :=
  functions.undefinedNames.filter fun key => !functions.isDefined key

theorem Kept.nodup_missing {functions : Functions} (kept : functions.Kept) :
    functions.missing.Nodup :=
  kept.nodup.filter _

theorem settlementOf_eq (arity? : String → Option Nat) (entry : String × List Nat) :
    settlementOf arity? entry =
      (entry.2.map fun count => (entry.1, count)).filterMap (misfit? arity?) ++
        if (arity? entry.1).isSome then []
        else [(Problem.undefinedFunction entry.1).toDiagnostic] := by
  rw [settlementOf, List.filterMap_map]
  cases found : arity? entry.1 with
  | some params => exact (List.append_nil _).symm
  | none => simp [Function.comp_def, misfit?, found]

/-- Every call on record is counted if its function is defined, and every other name is reported. -/
theorem settlement_perm (functions : Functions) :
    functions.settlement.Perm
      (functions.waiting.filterMap (misfit? functions.arity?) ++
        functions.missing.map fun key => (Problem.undefinedFunction key).toDiagnostic) := by
  rw [settlement, waiting, missing, undefinedNames]
  induction functions.deferred with
  | nil => simp
  | cons entry rest induction =>
      rw [List.flatMap_cons, List.flatMap_cons, settlementOf_eq, isSome_arity?,
        List.filterMap_append, List.map_cons, List.append_assoc, List.append_assoc]
      apply List.Perm.append_left
      apply (induction.append_left _).trans
      cases isDefined : functions.isDefined entry.1 with
      | true => simp [isDefined]
      | false =>
          simp only [Bool.false_eq_true, if_false, List.filter_cons, isDefined, Bool.not_false,
            if_true, List.map_cons]
          exact List.perm_append_comm_assoc _ _ _

/-! ## Calls on record -/

def Records (functions : Functions) (e : Expr) : Prop :=
  ∀ call ∈ e.calls, call.operator = .undefined → call.key ∈ functions.undefinedNames

theorem Records.resolved_eq_self {functions : Functions} {e : Expr} (records : functions.Records e)
    (empty : functions.deferred = []) (defined : String → Bool) : e.resolved defined = e := by
  apply Expr.resolved_eq_self
  intro call member undefined
  have onRecord := records call member undefined
  rw [undefinedNames, empty] at onRecord
  simp at onRecord

end Functions

/-! ## The settled query -/

namespace Query

def noting (query : Query) (reports : List Diagnostic) (entries : List (String × List Nat)) :
    Query :=
  { query.reporting reports with
    functions.deferred := query.functions.deferred ++ entries }

theorem reporting_eq_noting (query : Query) (reports : List Diagnostic) :
    query.reporting reports = query.noting reports [] := by
  rw [noting, List.append_nil]
  rfl

theorem noting_append (query : Query) (reports reports' : List Diagnostic)
    (entries entries' : List (String × List Nat)) :
    query.noting (reports ++ reports') (entries ++ entries') =
      (query.noting reports entries).noting reports' entries' := by
  rw [noting, reporting_append, ← List.append_assoc]
  rfl

def resolved (query : Query) : Query :=
  { query.mapValues (Expr.resolved query.functions.isDefined) with functions.deferred := [] }

def settled (query : Query) : Query :=
  if query.functions.deferred.isEmpty then query
  else query.resolved.noting query.functions.settlement query.functions.unsettled

theorem log_settled (query : Query) :
    query.settled.log.entries = query.log.entries ++ query.functions.settlement := by
  rw [settled]
  split
  · next empty =>
      rw [Functions.settlement, List.isEmpty_iff.mp empty]
      simp
  · exact entries_reporting _ _

theorem deferred_settled (query : Query) :
    query.settled.functions.deferred = query.functions.unsettled := by
  rw [settled]
  split
  · next empty =>
      rw [Functions.unsettled, List.isEmpty_iff.mp empty]
      rfl
  · rfl

theorem undefinedNames_settled (query : Query) :
    query.settled.functions.undefinedNames = query.functions.missing := by
  rw [Functions.undefinedNames, deferred_settled, Functions.unsettled, Functions.missing,
    Functions.undefinedNames, List.filter_map]
  rfl

theorem expressions_settled {query : Query}
    (records : ∀ e ∈ query.expressions, query.functions.Records e) :
    query.settled.expressions =
      query.expressions.map (Expr.resolved query.functions.isDefined) := by
  rw [settled]
  split
  · next empty =>
      have same : ∀ e ∈ query.expressions, e.resolved query.functions.isDefined = id e :=
        fun e member => (records e member).resolved_eq_self (List.isEmpty_iff.mp empty) _
      rw [List.map_congr_left same, List.map_id]
  · exact expressions_mapValues _ query

theorem definition?_settled {query : Query} {key : String}
    (records : ∀ definition, query.functions.definition? key = some definition →
      query.functions.Records definition.body) :
    query.settled.functions.definition? key =
      (query.functions.definition? key).map fun definition =>
        { definition with body := definition.body.resolved query.functions.isDefined } := by
  rw [settled]
  split
  · next empty =>
      cases found : query.functions.definition? key with
      | none => rfl
      | some definition =>
          have same := (records definition found).resolved_eq_self (List.isEmpty_iff.mp empty)
          rw [Option.map_some, same]
  · exact Functions.definition?_mapBodies _ query.functions key

theorem get?_settled_filter {query : Query} {id : PatternId} {condition : Expr}
    (found : query.arena.get? id = some (.filter condition))
    (records : query.functions.Records condition) :
    query.settled.arena.get? id =
      some (.filter (condition.resolved query.functions.isDefined)) := by
  rw [settled]
  split
  · next empty => rw [found, records.resolved_eq_self (List.isEmpty_iff.mp empty)]
  · exact (List.getElem?_map ..).trans (congrArg (Option.map (Pattern.mapValues _)) found)

theorem get?_settled_subquery (query sub : Query) (id : PatternId) :
    query.settled.arena.get? id = some (.subquery sub) ↔
      query.arena.get? id = some (.subquery sub) := by
  rw [settled]
  split
  · rfl
  · have here : (query.mapValues (Expr.resolved query.functions.isDefined)).arena.get? id =
        (query.arena.get? id).map (Pattern.mapValues (Expr.resolved query.functions.isDefined)) :=
      List.getElem?_map ..
    change (query.mapValues _).arena.get? id = _ ↔ _
    rw [here]
    cases query.arena.get? id with
    | none => simp
    | some p => cases p <;> simp [Pattern.mapValues]

end Query

namespace Build

/-! ## Settling -/

variable {options : Options} {namespaces : Namespaces} {library : Regex.Library}

theorem yields_checkCounts (lenient : options.strict = false) (key : String) (params : Nat)
    (counts : List Nat) :
    Yields options namespaces library (counts.forM (checkParameters key params)) ()
      (counts.filterMap fun count => Functions.misfit? (fun _ => some params) (key, count)) := by
  induction counts with
  | nil => exact yields_pure ()
  | cons count rest induction =>
      have first : Yields options namespaces library (checkParameters key params count) () _ :=
        yields_checkParameters lenient key params count
      change Yields options namespaces library
        (checkParameters key params count >>= fun _ => rest.forM _) _ _
      rw [List.filterMap_cons]
      cases misfit : Functions.misfit? (fun _ => some params) (key, count) with
      | none =>
          rw [misfit] at first
          exact first.bind induction
      | some report =>
          rw [misfit] at first
          exact first.bind induction

theorem run_settle {query : Query} (lenient : query.options.strict = false)
    (functions : Functions) (entry : String × List Nat) :
    (settle functions entry.1 entry.2).run query =
      .ok () (query.noting (Functions.settlementOf functions.arity? entry)
        ([entry].filter fun entry => !functions.isDefined entry.1)) := by
  rw [settle, Functions.settlementOf]
  cases found : functions.definition? entry.1 with
  | some definition =>
      have arity : functions.arity? entry.1 = some definition.params.length := by
        rw [Functions.arity?, found]
        rfl
      have counted :=
        yields_checkCounts lenient entry.1 definition.params.length entry.2 query rfl rfl rfl
      have same (count : Nat) : Functions.misfit? functions.arity? (entry.1, count) =
          Functions.misfit? (fun _ => some definition.params.length) (entry.1, count) :=
        Functions.misfit?_congr arity
      have isDefined : functions.isDefined entry.1 = true := by rw [Functions.isDefined, found]; rfl
      rw [query.reporting_eq_noting] at counted
      simpa [arity, same, isDefined] using counted
  | none =>
      have arity : functions.arity? entry.1 = none := by
        rw [Functions.arity?, found]
        rfl
      have isDefined : functions.isDefined entry.1 = false := by
        rw [Functions.isDefined, found]
        rfl
      dsimp only
      rw [EStateM.run_bind, yields_problem lenient _ query rfl rfl rfl, arity]
      simp [isDefined]
      rfl

theorem run_settleAll {query : Query} (lenient : query.options.strict = false)
    (functions : Functions) (entries : List (String × List Nat)) :
    (entries.forM fun (key, counts) => settle functions key counts).run query =
      .ok () (query.noting (entries.flatMap (Functions.settlementOf functions.arity?))
        (entries.filter fun entry => !functions.isDefined entry.1)) := by
  induction entries generalizing query with
  | nil =>
      rw [List.flatMap_nil, List.filter_nil, ← query.reporting_eq_noting, query.reporting_nil]
      rfl
  | cons entry rest induction =>
      change (settle functions entry.1 entry.2 >>= fun _ => rest.forM _).run query = _
      have apart : (entry :: rest).filter (fun entry => !functions.isDefined entry.1) = _ :=
        List.filter_append [entry] rest
      rw [EStateM.run_bind, run_settle lenient, List.flatMap_cons, apart, Query.noting_append]
      exact induction lenient

theorem run_settleCalls {query : Query} (lenient : query.options.strict = false) :
    settleCalls.run query = .ok () query.settled := by
  rw [settleCalls, EStateM.run_bind, EStateM.run_get, Query.settled]
  dsimp only
  split
  · rfl
  · have lenient' : query.resolved.options.strict = false := lenient
    exact run_settleAll lenient' query.functions query.functions.deferred

end Build

end Sparql
