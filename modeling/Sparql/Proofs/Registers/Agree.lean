import Sparql.Proofs.Registers.Proceeds

/-!
Registers that agree with an arena: they hold some of its triples in their order, and tell which of
these have a path and which constants are predicates of the others. A pattern that is added leaves
them in agreement, and so does a triple that is submitted: `Registers.Agree.submit`.
-/

namespace Sparql

/-! ## Triples of the arena -/

namespace Arena

def tripleAt (arena : Arena Query) (id : PatternId) : Option Triple := arena.slots[id]?.join

def triples (arena : Arena Query) : List Triple := arena.patterns.filterMap Pattern.triple?

def tripleIds (arena : Arena Query) : List PatternId :=
  (List.range arena.size).filter fun id => (arena.tripleAt id).isSome

def plainPredicate? (arena : Arena Query) (id : PatternId) : Option Constant :=
  ((arena.tripleAt id).filter (!·.isPath)).bind (·.predicate.asConstant?)

variable {arena arena' : Arena Query}

theorem tripleAt_eq_some {id : PatternId} {t : Triple} :
    arena.tripleAt id = some t ↔ arena.get? id = some (.triple t) := by
  have iff (p : Pattern Query) : p.triple? = some t ↔ p = .triple t := by
    cases p <;> simp [Pattern.triple?]
  simp [tripleAt, slots, get?, Option.join_eq_some_iff, iff]

theorem triples_eq (arena : Arena Query) : arena.triples = arena.slots.filterMap id := by
  rw [triples, slots, List.filterMap_map]
  rfl

theorem mem_tripleIds {id : PatternId} :
    id ∈ arena.tripleIds ↔ id < arena.size ∧ (arena.tripleAt id).isSome = true := by
  simp [tripleIds]

theorem pairwise_tripleIds (arena : Arena Query) : arena.tripleIds.Pairwise (· < ·) :=
  List.pairwise_lt_range.filter _

theorem tripleAt_congr (slots : arena'.slots = arena.slots) : arena'.tripleAt = arena.tripleAt := by
  funext id
  rw [tripleAt, tripleAt, slots]

theorem tripleIds_congr (slots : arena'.slots = arena.slots) :
    arena'.tripleIds = arena.tripleIds := by
  rw [tripleIds, tripleIds, tripleAt_congr slots, ← length_slots, ← length_slots, slots]

theorem tripleAt_push_of_lt (p : Pattern Query) {id : PatternId} (inside : id < arena.size) :
    (arena.push p).tripleAt id = arena.tripleAt id := by
  rw [tripleAt, tripleAt, slots_push, List.getElem?_append_left]
  rwa [length_slots]

@[simp] theorem tripleAt_push_size (arena : Arena Query) (p : Pattern Query) :
    (arena.push p).tripleAt arena.size = p.triple? := by
  rw [tripleAt, slots_push, ← length_slots, List.getElem?_concat_length, Option.join_some]

theorem tripleIds_push (arena : Arena Query) (p : Pattern Query) :
    (arena.push p).tripleIds =
      arena.tripleIds ++ if p.triple?.isSome then [arena.size] else [] := by
  have before : (List.range arena.size).filter (fun id => ((arena.push p).tripleAt id).isSome) =
      arena.tripleIds :=
    List.filter_congr fun id member => by rw [tripleAt_push_of_lt p (List.mem_range.mp member)]
  rw [tripleIds, size_push, List.range_succ, List.filter_append, before]
  simp [List.filter_cons]

end Arena

/-! ## Registers -/

theorem eraseDups_concat {α : Type} [DecidableEq α] (values : List α) (value : α) :
    (values ++ [value]).eraseDups =
      if value ∈ values then values.eraseDups else values.eraseDups ++ [value] := by
  rw [List.eraseDups_append]
  split
  · next old => simp [List.removeAll, old]
  · next new =>
      have alone : [value].removeAll values = [value] := by simp [List.removeAll, new]
      rw [alone]
      rfl

theorem nodup_eraseDups {α : Type} [DecidableEq α] (values : List α) : values.eraseDups.Nodup := by
  induction values using List.reverseRecOn with
  | nil => exact .nil
  | append_singleton values value induction =>
      rw [eraseDups_concat]
      split
      · exact induction
      · next new =>
          refine List.nodup_append'.mpr ⟨induction, List.nodup_singleton value, ?_⟩
          exact List.disjoint_singleton.mpr fun old => new (List.mem_eraseDups.mp old)

def Triple.plainPredicate? (t : Triple) : Option Constant :=
  if t.isPath then none else t.predicate.asConstant?

namespace Registers

variable (registers : Registers) (id : PatternId) (t : Triple)

@[simp] theorem triples_submit : (registers.submit id t).triples = registers.triples ++ [id] := by
  grind [submit]

@[simp] theorem submitting_submit : (registers.submit id t).submitting = registers.submitting := by
  grind [submit]

theorem paths_submit : (registers.submit id t).paths =
    registers.paths ++ if t.isPath then [id] else [] := by
  grind [submit]

theorem predicates_submit {registers : Registers} {met : List Constant}
    (known : registers.predicates = met.eraseDups) (id : PatternId) (t : Triple) :
    (registers.submit id t).predicates = (met ++ t.plainPredicate?.toList).eraseDups := by
  have mem_iff (c : Constant) : c ∈ registers.predicates ↔ c ∈ met := by
    rw [known, List.mem_eraseDups]
  rw [submit, Triple.plainPredicate?]
  split
  · simpa using known
  · cases t.predicate.asConstant? with
    | none => simpa using known
    | some c =>
        rw [Option.toList_some, eraseDups_concat]
        simp only [mem_iff]
        split
        · exact known
        · rw [known]

end Registers

/-- The registers hold some of the triples in their order, and of these the ones with a path, and
each constant that is a predicate of the others, at its first occurrence. -/
structure Registers.Agree (registers : Registers) (arena : Arena Query) : Prop where
  triples : registers.triples.Sublist arena.tripleIds
  paths : registers.paths =
    registers.triples.filter fun id => (arena.tripleAt id).any Triple.isPath
  predicates : registers.predicates = (registers.triples.filterMap arena.plainPredicate?).eraseDups

namespace Registers.Agree

variable {registers : Registers} {arena arena' : Arena Query}

theorem lt_size (agree : registers.Agree arena) {id : PatternId} (member : id ∈ registers.triples) :
    id < arena.size :=
  (Arena.mem_tripleIds.mp (agree.triples.subset member)).1

theorem congr (agree : registers.Agree arena) (slots : arena'.slots = arena.slots) :
    registers.Agree arena' where
  triples := Arena.tripleIds_congr slots ▸ agree.triples
  paths := by rw [Arena.tripleAt_congr slots, agree.paths]
  predicates := by
    have same : arena'.plainPredicate? = arena.plainPredicate? := by
      funext id
      rw [Arena.plainPredicate?, Arena.plainPredicate?, Arena.tripleAt_congr slots]
    rw [same, agree.predicates]

theorem push (agree : registers.Agree arena) (p : Pattern Query) :
    registers.Agree (arena.push p) where
  triples := by
    rw [Arena.tripleIds_push]
    exact agree.triples.trans (List.sublist_append_left ..)
  paths := by
    rw [agree.paths]
    apply List.filter_congr
    intro id member
    rw [Arena.tripleAt_push_of_lt p (agree.lt_size member)]
  predicates := by
    rw [agree.predicates]
    congr 1
    apply List.filterMap_congr
    intro id member
    rw [Arena.plainPredicate?, Arena.plainPredicate?,
      Arena.tripleAt_push_of_lt p (agree.lt_size member)]

theorem submit (agree : registers.Agree arena) (t : Triple) :
    (registers.submit arena.size t).Agree (arena.push (.triple t)) := by
  have before := agree.push (.triple t)
  refine ⟨?_, ?_, ?_⟩
  · rw [triples_submit, Arena.tripleIds_push]
    exact agree.triples.append (.refl _)
  · rw [paths_submit, triples_submit, List.filter_append, ← before.paths]
    cases isPath : t.isPath <;> simp [Pattern.triple?, isPath]
  · have here : (arena.push (.triple t)).plainPredicate? arena.size = t.plainPredicate? := by
      cases isPath : t.isPath <;>
        simp [Arena.plainPredicate?, Triple.plainPredicate?, Pattern.triple?, Option.filter, isPath]
    rw [predicates_submit before.predicates, triples_submit, List.filterMap_append, ← here]
    cases constant : (arena.push (.triple t)).plainPredicate? arena.size <;> simp [constant]

end Registers.Agree

end Sparql
