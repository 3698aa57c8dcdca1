import Sparql.Pattern.Triples
import Sparql.Query.Bindable

/-!
Which failures a question to the arena can have. None of them is the one of a strict query, and
those of a question about a single pattern are refusals.
-/

namespace Sparql

def Failure.isStrict : Failure → Bool
  | strict _ => true
  | _ => false

/-- The failure is that of a call which makes no sense by itself, or names patterns that are not
there. -/
def Failure.isRefusal : Failure → Bool
  | cyclicPatterns | strict _ => false
  | _ => true

theorem Failure.isStrict_of_isRefusal {failure : Failure} (refused : failure.isRefusal = true) :
    failure.isStrict = false := by
  cases failure with
  | strict _ => cases refused
  | _ => rfl

/-! ## Questions that are refused -/

namespace Build

variable {α : Type}

def Fair (look : Arena Query → Except Failure α) : Prop :=
  ∀ arena failure, look arena = .error failure → failure.isRefusal = true

theorem fair_get (id : PatternId) : Fair (·.get id) := by
  intro arena failure failed
  dsimp only [Arena.get] at failed
  split at failed
  · cases failed
  · cases failed
    rfl

theorem fair_group (id : PatternId) : Fair (·.group id) := by
  intro arena failure failed
  dsimp only [Arena.group] at failed
  cases looked : arena.get id with
  | error failure' =>
      rw [looked] at failed
      cases failed
      exact fair_get id arena failure looked
  | ok p =>
      rw [looked] at failed
      cases p <;> cases failed
      all_goals rfl

end Build

/-! ## Questions that do not fail as a strict query does -/

def Plain {α : Type} (look : Arena Query → Except Failure α) : Prop :=
  ∀ arena failure, look arena = .error failure → failure.isStrict = false

theorem Build.Fair.plain {α : Type} {look : Arena Query → Except Failure α} (fair : Fair look) :
    Plain look :=
  fun arena failure failed => Failure.isStrict_of_isRefusal (fair arena failure failed)

theorem plain_ok {α : Type} (value : α) : Plain fun _ => .ok value := by
  intro _ _ failed
  cases failed

theorem plain_error {α : Type} {failure : Failure} (plain : failure.isStrict = false) :
    Plain fun _ => (.error failure : Except Failure α) := by
  intro arena failure' failed
  cases failed
  exact plain

theorem Plain.bind {α β : Type} {look : Arena Query → Except Failure α}
    {next : α → Arena Query → Except Failure β} (plain : Plain look)
    (plainNext : ∀ value, Plain (next value)) :
    Plain fun arena => look arena >>= (next · arena) := by
  intro arena failure failed
  dsimp only at failed
  cases looked : look arena with
  | ok value =>
      rw [looked] at failed
      exact plainNext value arena failure failed
  | error failure' =>
      rw [looked] at failed
      cases failed
      exact plain arena failure looked

theorem plain_foldlM {α β : Type} {look : Arena Query → α → β → Except Failure α}
    (plain : ∀ found value, Plain (look · found value)) (found : α) (values : List β) :
    Plain fun arena => values.foldlM (look arena) found := by
  induction values generalizing found with
  | nil => exact plain_ok found
  | cons value rest induction => exact (plain found value).bind induction

theorem plain_get (id : PatternId) : Plain (·.get id) := (Build.fair_get id).plain

theorem plain_triple (id : PatternId) : Plain (·.triple id) := by
  refine (plain_get id).bind fun p => ?_
  cases p with
  | triple t => exact plain_ok t
  | _ => exact plain_error rfl

theorem plain_group (id : PatternId) : Plain (·.group id) := (Build.fair_group id).plain

theorem plain_collectTriples (found : List PatternId) (pending : List (Nat × PatternId)) :
    Plain (·.collectTriples found pending) := by
  intro arena failure failed
  dsimp only at failed
  induction found, pending using Arena.collectTriples.induct arena with
  | case1 found =>
      rw [Arena.collectTriples] at failed
      cases failed
  | case2 found id pending =>
      rw [Arena.collectTriples] at failed
      cases failed
      rfl
  | case3 found levels id pending missing =>
      rw [Arena.collectTriples_cons_none missing] at failed
      cases failed
      rfl
  | case4 found levels id pending p known isTriple induction =>
      rw [Arena.collectTriples_cons known, if_pos isTriple] at failed
      exact induction failed
  | case5 found levels id pending p known other induction =>
      rw [Arena.collectTriples_cons known, if_neg other] at failed
      exact induction failed

theorem plain_triplesBelow (root : PatternId) : Plain (·.triplesBelow root) :=
  fun arena => plain_collectTriples [] [(arena.levels, root)] arena

theorem plain_addBindable (levels : Nat) (found : List Variable) (id : PatternId) :
    Plain (·.addBindable levels found id) := by
  induction levels generalizing found id with
  | zero => exact plain_error rfl
  | succ levels induction =>
      refine (plain_get id).bind fun p => ?_
      cases p with
      | triple _ | bind _ _ | values _ | subquery _ | minus _ | filter _ => exact plain_ok _
      | graph name body => exact induction _ body
      | group _ | union _ _ | optional _ | collection _ _ | service _ _ _ =>
          exact plain_foldlM (fun found id => induction found id) found _

theorem plain_bindable (root : PatternId) : Plain (·.bindable root) :=
  fun arena => plain_addBindable arena.levels [] root arena

end Sparql
