import Sparql.Proofs.Calls.Waiting

/-!
Resolving calls. It changes the operators of calls and nothing else, so that whatever a call is
prepared from is the same whether or not the calls in its arguments are resolved yet.
-/

namespace Sparql

/-! ## Calls of an expression -/

mutual
def Expr.calls : Expr → List Call
  | .var _ => []
  | .const _ => []
  | .call head args => head :: Expr.callsOf args

def Expr.callsOf : List Expr → List Call
  | [] => []
  | e :: rest => e.calls ++ Expr.callsOf rest
end

mutual
theorem Expr.hasAggregate_eq (e : Expr) : e.hasAggregate = e.calls.any (·.isAggregate) := by
  cases e with
  | var v => rfl
  | const c => rfl
  | call head args => rw [hasAggregate, calls, List.any_cons, anyHasAggregate_eq args]

theorem Expr.anyHasAggregate_eq (args : List Expr) :
    anyHasAggregate args = (callsOf args).any (·.isAggregate) := by
  cases args with
  | nil => rfl
  | cons e rest =>
      rw [anyHasAggregate, callsOf, List.any_append, hasAggregate_eq e, anyHasAggregate_eq rest]
end

namespace Call

theorem key_congr {call call' : Call} (name : call.name = call'.name)
    (longName : call.longName = call'.longName) : call.key = call'.key := by
  rw [key, key, name, longName]

@[simp] theorem key_resolved (defined : String → Bool) (call : Call) :
    (call.resolved defined).key = call.key := by
  rw [resolved]
  split <;> rfl

@[simp] theorem isAggregate_resolved (defined : String → Bool) (call : Call) :
    (call.resolved defined).isAggregate = call.isAggregate := by
  rw [resolved]
  split
  · next both =>
      rw [isAggregate, isAggregate, both.1]
      rfl
  · rfl

@[simp] theorem isPath_resolved (defined : String → Bool) (call : Call) :
    (call.resolved defined).isPath = call.isPath := by
  rw [resolved]
  split
  · next both =>
      rw [isPath, isPath, both.1]
      rfl
  · rfl

theorem resolved_of_ne {call : Call} (other : call.operator ≠ .undefined)
    (defined : String → Bool) : call.resolved defined = call :=
  if_neg fun both => other both.1

theorem operator_resolved {call : Call} (undefined : call.operator = .undefined)
    (defined : String → Bool) :
    (call.resolved defined).operator = if defined call.key then .userFunction else .undefined := by
  rw [resolved]
  by_cases here : defined call.key = true
  · rw [if_pos ⟨undefined, here⟩, if_pos here]
  · rw [if_neg fun both => here both.2, if_neg here]
    exact undefined

end Call

namespace Expr

variable (defined : String → Bool)

mutual
theorem calls_resolved (e : Expr) :
    (e.resolved defined).calls = e.calls.map (Call.resolved defined) := by
  cases e with
  | var v => rfl
  | const c => rfl
  | call head args => rw [resolved, calls, calls, List.map_cons, callsOf_resolvedAll args]

theorem callsOf_resolvedAll (args : List Expr) :
    callsOf (resolvedAll defined args) = (callsOf args).map (Call.resolved defined) := by
  cases args with
  | nil => rfl
  | cons e rest =>
      rw [resolvedAll, callsOf, callsOf, List.map_append, calls_resolved e,
        callsOf_resolvedAll rest]
end

mutual
theorem resolved_eq_self {e : Expr}
    (none : ∀ call ∈ e.calls, call.operator = .undefined → defined call.key = false) :
    e.resolved defined = e := by
  cases e with
  | var v => rfl
  | const c => rfl
  | call head args =>
      rcases List.forall_mem_cons.mp none with ⟨here, inside⟩
      have same : head.resolved defined = head := by
        apply if_neg
        rintro ⟨undefined, isDefined⟩
        rw [here undefined] at isDefined
        cases isDefined
      rw [resolved, same, resolvedAll_eq_self inside]

theorem resolvedAll_eq_self {args : List Expr}
    (none : ∀ call ∈ callsOf args, call.operator = .undefined → defined call.key = false) :
    resolvedAll defined args = args := by
  cases args with
  | nil => rfl
  | cons e rest =>
      rcases List.forall_mem_append.mp none with ⟨here, there⟩
      rw [resolvedAll, resolved_eq_self here, resolvedAll_eq_self there]
end

theorem resolvedAll_eq_map (args : List Expr) :
    resolvedAll defined args = args.map (·.resolved defined) := by
  induction args with
  | nil => rfl
  | cons e rest induction => rw [resolvedAll, List.map_cons, induction]

theorem length_resolvedAll (args : List Expr) :
    (resolvedAll defined args).length = args.length := by
  rw [resolvedAll_eq_map, List.length_map]

theorem mem_callsOf {args : List Expr} {call : Call} :
    call ∈ callsOf args ↔ ∃ e ∈ args, call ∈ e.calls := by
  induction args with
  | nil => simp [callsOf]
  | cons e rest induction => simp [callsOf, induction]

mutual
theorem hasAggregate_resolved (e : Expr) :
    (e.resolved defined).hasAggregate = e.hasAggregate := by
  cases e with
  | var v => rfl
  | const c => rfl
  | call head args =>
      rw [resolved, hasAggregate, hasAggregate, Call.isAggregate_resolved,
        anyHasAggregate_resolvedAll args]

theorem anyHasAggregate_resolvedAll (args : List Expr) :
    anyHasAggregate (resolvedAll defined args) = anyHasAggregate args := by
  cases args with
  | nil => rfl
  | cons e rest =>
      rw [resolvedAll, anyHasAggregate, anyHasAggregate, hasAggregate_resolved e,
        anyHasAggregate_resolvedAll rest]
end

theorem literal?_resolved (e : Expr) : (e.resolved defined).literal? = e.literal? := by
  cases e <;> rfl

end Expr

/-! ## Preparing calls with resolved arguments -/

namespace Build

variable (defined : String → Bool)

theorem checkArguments_resolvedAll (call : Call) (args : List Expr) :
    checkArguments call (Expr.resolvedAll defined args) = checkArguments call args := by
  simp only [checkArguments, checkAggregate, Expr.length_resolvedAll,
    Expr.anyHasAggregate_resolvedAll]

theorem castArgs_resolvedAll (call : Call) (args : List Expr) :
    castArgs call (Expr.resolvedAll defined args) =
      Expr.resolvedAll defined (castArgs call args) := by
  rcases args with _ | ⟨value, _ | ⟨second, rest⟩⟩ <;> rfl

theorem callsOf_castArgs (call : Call) (args : List Expr) :
    Expr.callsOf (castArgs call args) = Expr.callsOf args := by
  rcases args with _ | ⟨value, _ | ⟨second, rest⟩⟩ <;> rfl

theorem prepareRegex_resolvedAll (call : Call) (args : List Expr) (flagsAt : Nat) (widen : Bool) :
    prepareRegex call (Expr.resolvedAll defined args) flagsAt widen =
      prepareRegex call args flagsAt widen := by
  have literal : Expr.literal? ∘ Expr.resolved defined = Expr.literal? :=
    funext (Expr.literal?_resolved defined)
  unfold prepareRegex
  simp only [Expr.resolvedAll_eq_map, List.getElem?_map, Option.bind_map, literal]
  cases args[flagsAt]? with
  | none => rfl
  | some flags => simp only [Option.map_some, Expr.literal?_resolved]

end Build

end Sparql
