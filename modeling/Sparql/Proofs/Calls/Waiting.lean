import Sparql.Query.Deferred

/-!
The calls that wait for a definition, and the definitions that they wait for. A call has the name of
its function and the count of its arguments.
-/

namespace Sparql

theorem lookup_filter {α β : Type} [BEq α] [LawfulBEq α] (table : List (α × β)) (keep : α → Bool)
    (key : α) :
    (table.filter fun entry => keep entry.1).lookup key =
      if keep key then table.lookup key else none := by
  induction table with
  | nil => simp
  | cons entry rest induction =>
      rcases entry with ⟨other, value⟩
      by_cases equal : key = other
      · subst equal
        cases kept : keep key <;> simp [kept, induction]
      · have different : (key == other) = false := beq_eq_false_iff_ne.mpr equal
        cases kept : keep other <;>
          simp [kept, List.lookup_cons, different, induction]

namespace Functions

/-! ## Definitions -/

def arity? (functions : Functions) (key : String) : Option Nat :=
  (functions.definition? key).map (·.params.length)

def isDefined (functions : Functions) (key : String) : Bool := (functions.definition? key).isSome

theorem isSome_arity? (functions : Functions) (key : String) :
    (functions.arity? key).isSome = functions.isDefined key := by
  simp [arity?, isDefined]

theorem definition?_define (functions : Functions) (definition : Definition) (key : String) :
    (functions.define definition).definition? key =
      if key = definition.name then some definition else functions.definition? key := by
  rw [definition?, define, List.lookup_cons]
  by_cases equal : key = definition.name
  · simp [equal]
  · rw [beq_eq_false_iff_ne.mpr equal, if_neg equal]
    have kept := lookup_filter functions.definitions (fun other => other ≠ definition.name) key
    simpa [equal, definition?] using kept

theorem definition?_inherit (functions : Functions) (outer : List (String × Definition))
    (key : String) :
    (functions.inherit outer).definition? key =
      (functions.definition? key).or (outer.lookup key) := by
  rw [definition?, inherit, List.lookup_append]
  change (functions.definition? key).or _ = _
  have added := lookup_filter outer (fun key => (functions.definition? key).isNone) key
  rw [added]
  cases functions.definition? key <;> rfl

theorem definition?_mapBodies (change : Expr → Expr) (functions : Functions) (key : String) :
    (functions.mapBodies change).definition? key =
      (functions.definition? key).map fun definition =>
        { definition with body := change definition.body } := by
  rw [definition?, definition?, mapBodies]
  induction functions.definitions with
  | nil => rfl
  | cons entry rest induction =>
      rcases entry with ⟨other, definition⟩
      rw [List.map_cons, List.lookup_cons, List.lookup_cons]
      cases key == other
      · exact induction
      · rfl

/-! ## Waiting calls -/

/-- The report of a call, if the function of its name has another count of parameters. -/
def misfit? (arity? : String → Option Nat) (call : String × Nat) : Option Diagnostic :=
  match arity? call.1 with
  | some params =>
    if params = call.2 then none
    else some (Problem.functionArity call.1 (.exactly params) call.2).toDiagnostic
  | none => none

theorem misfit?_congr {arity? arity?' : String → Option Nat} {call : String × Nat}
    (same : arity? call.1 = arity?' call.1) : misfit? arity? call = misfit? arity?' call := by
  rw [misfit?, misfit?, same]

def waiting (functions : Functions) : List (String × Nat) :=
  functions.deferred.flatMap fun entry => entry.2.map fun count => (entry.1, count)

theorem waiting_addCall (key : String) (count : Nat) (table : List (String × List Nat)) :
    ((addCall key count table).flatMap fun entry => entry.2.map fun count => (entry.1, count)).Perm
      ((table.flatMap fun entry => entry.2.map fun count => (entry.1, count)) ++
        [(key, count)]) := by
  induction table with
  | nil => simp [addCall]
  | cons entry rest induction =>
      rcases entry with ⟨other, counts⟩
      rw [addCall]
      split
      · next equal =>
          subst equal
          simp only [List.flatMap_cons, List.map_append, List.map_cons, List.map_nil,
            List.append_assoc]
          exact List.perm_append_comm.append_left _
      · split
        · simp only [List.flatMap_cons, List.map_cons, List.map_nil]
          exact List.perm_append_comm
        · simp only [List.flatMap_cons, List.append_assoc]
          exact induction.append_left _

theorem waiting_defer (functions : Functions) (key : String) (count : Nat) :
    (functions.defer key count).waiting.Perm (functions.waiting ++ [(key, count)]) :=
  waiting_addCall key count functions.deferred

theorem mem_names_addCall (key other : String) (count : Nat) (table : List (String × List Nat)) :
    other ∈ (addCall key count table).map (·.1) ↔ other = key ∨ other ∈ table.map (·.1) := by
  induction table with
  | nil => simp [addCall]
  | cons entry rest induction =>
      rcases entry with ⟨first, counts⟩
      rw [addCall]
      split
      · next equal => simp [equal]
      · split
        · simp
        · rw [List.map_cons, List.map_cons, List.mem_cons, List.mem_cons, induction]
          exact or_left_comm

theorem mem_undefinedNames_defer (functions : Functions) (key other : String) (count : Nat) :
    other ∈ (functions.defer key count).undefinedNames ↔
      other = key ∨ other ∈ functions.undefinedNames :=
  mem_names_addCall key other count functions.deferred

/-- The record has each name once, with at least one call. -/
structure Kept (functions : Functions) : Prop where
  ordered : functions.undefinedNames.Pairwise (· < ·)
  called : ∀ entry ∈ functions.deferred, entry.2 ≠ []

theorem ordered_addCall (key : String) (count : Nat) {table : List (String × List Nat)}
    (ordered : (table.map (·.1)).Pairwise (· < ·)) :
    ((addCall key count table).map (·.1)).Pairwise (· < ·) := by
  induction table with
  | nil => simp [addCall]
  | cons entry rest induction =>
      rcases entry with ⟨other, counts⟩
      rcases List.pairwise_cons.mp ordered with ⟨below, ordered⟩
      rw [addCall]
      split
      · exact List.pairwise_cons.mpr ⟨below, ordered⟩
      · next different =>
          split
          · next less =>
              apply List.pairwise_cons.mpr
              refine ⟨?_, List.pairwise_cons.mpr ⟨below, ordered⟩⟩
              intro name member
              rcases List.mem_cons.mp member with equal | member
              · exact equal ▸ less
              · exact String.lt_trans less (below name member)
          · next notLess =>
              apply List.pairwise_cons.mpr
              refine ⟨?_, induction ordered⟩
              intro name member
              rcases (mem_names_addCall key name count rest).mp member with equal | member
              · subst equal
                apply Decidable.byContradiction
                intro notGreater
                exact different (String.le_antisymm (String.not_lt.mp notGreater)
                  (String.not_lt.mp notLess))
              · exact below name member

theorem called_addCall (key : String) (count : Nat) {table : List (String × List Nat)}
    (called : ∀ entry ∈ table, entry.2 ≠ []) :
    ∀ entry ∈ addCall key count table, entry.2 ≠ [] := by
  induction table with
  | nil => simp [addCall]
  | cons first rest induction =>
      rcases first with ⟨other, counts⟩
      rcases List.forall_mem_cons.mp called with ⟨here, there⟩
      rw [addCall]
      split
      · exact List.forall_mem_cons.mpr ⟨by simp, there⟩
      · split
        · exact List.forall_mem_cons.mpr ⟨by simp, called⟩
        · exact List.forall_mem_cons.mpr ⟨here, induction there⟩

theorem kept_empty : Kept {} := ⟨.nil, nofun⟩

theorem Kept.defer {functions : Functions} (kept : functions.Kept) (key : String) (count : Nat) :
    (functions.defer key count).Kept :=
  ⟨ordered_addCall key count kept.ordered, called_addCall key count kept.called⟩

theorem Kept.nodup {functions : Functions} (kept : functions.Kept) :
    functions.undefinedNames.Nodup := by
  apply kept.ordered.imp
  intro key other less equal
  exact String.lt_irrefl other (equal ▸ less)

theorem Kept.mem_undefinedNames_iff {functions : Functions} (kept : functions.Kept) (key : String) :
    key ∈ functions.undefinedNames ↔ ∃ count, (key, count) ∈ functions.waiting := by
  simp only [undefinedNames, waiting, List.mem_map, List.mem_flatMap]
  constructor
  · rintro ⟨⟨other, counts⟩, member, rfl⟩
    rcases List.exists_mem_of_ne_nil counts (kept.called _ member) with ⟨count, inside⟩
    exact ⟨count, _, member, count, inside, rfl⟩
  · rintro ⟨count, entry, member, count', inside, equal⟩
    exact ⟨entry, member, congrArg Prod.fst equal⟩

end Functions

end Sparql
