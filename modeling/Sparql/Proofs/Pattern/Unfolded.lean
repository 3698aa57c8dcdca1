import Sparql.Proofs.Pattern.Gathered

/-!
The tree that an arena unfolds into at a pattern, with a copy of each pattern for every way that
leads to it. There is one at each pattern from which no cycle of children is reached,
`Acyclic.exists_tree`, and it has no more levels than the arena allows, `Acyclic.endsWithin`.
-/

namespace Sparql

/-! ## Unfoldings -/

/-- A pattern with all that is below it. A pattern that several others refer to is below each of
them. -/
inductive Unfolding where
  | node (id : PatternId) (parts : List Unfolding)

namespace Unfolding

mutual
/-- The patterns of a tree, each before its parts, and these from left to right. -/
def ids : Unfolding → List PatternId
  | node id parts => id :: idsOf parts

def idsOf : List Unfolding → List PatternId
  | [] => []
  | tree :: rest => tree.ids ++ idsOf rest
end

theorem idsOf_append (trees trees' : List Unfolding) :
    idsOf (trees ++ trees') = idsOf trees ++ idsOf trees' := by
  induction trees with
  | nil => rfl
  | cons tree rest induction => rw [List.cons_append, idsOf, idsOf, induction, List.append_assoc]

end Unfolding

theorem Pattern.children_of_isTriple {Sub : Type} {p : Pattern Sub} (isTriple : p.isTriple = true) :
    p.children = [] := by
  cases p with
  | triple t => rfl
  | _ => cases isTriple

open Unfolding

namespace Arena

variable {Sub : Type} {arena : Arena Sub} {id root : PatternId} {pending : List PatternId}
  {trees : List Unfolding}

def childrenAt (arena : Arena Sub) (id : PatternId) : List PatternId :=
  (arena.get? id).elim [] Pattern.children

theorem childrenAt_of_some {p : Pattern Sub} (known : arena.get? id = some p) :
    arena.childrenAt id = p.children := by
  rw [childrenAt, known, Option.elim_some]

theorem childrenAt_of_none (missing : arena.get? id = none) : arena.childrenAt id = [] := by
  rw [childrenAt, missing, Option.elim_none]

/-- Patterns next to each other unfold into trees next to each other. A pattern that is missing
has no parts. -/
inductive Unfolds (arena : Arena Sub) : List PatternId → List Unfolding → Prop
  | nil : Unfolds arena [] []
  | node {id : PatternId} {rest : List PatternId} {parts others : List Unfolding}
      (inside : Unfolds arena (arena.childrenAt id) parts) (onward : Unfolds arena rest others) :
      Unfolds arena (id :: rest) (.node id parts :: others)

namespace Unfolds

variable {pending' : List PatternId} {trees' : List Unfolding}

theorem unique (unfolds : arena.Unfolds pending trees) (unfolds' : arena.Unfolds pending trees') :
    trees = trees' := by
  induction unfolds generalizing trees' with
  | nil =>
      cases unfolds'
      rfl
  | node _ _ inside onward =>
      cases unfolds' with
      | node inside' onward' => rw [inside inside', onward onward']

theorem append (unfolds : arena.Unfolds pending trees)
    (unfolds' : arena.Unfolds pending' trees') :
    arena.Unfolds (pending ++ pending') (trees ++ trees') := by
  induction unfolds with
  | nil => exact unfolds'
  | node inside _ _ onward => exact .node inside onward

end Unfolds

/-! ## Descents -/

def HasChild (arena : Arena Sub) (id child : PatternId) : Prop :=
  ∃ p, arena.get? id = some p ∧ child ∈ p.children

theorem hasChild_iff {child : PatternId} :
    arena.HasChild id child ↔ child ∈ arena.childrenAt id := by
  constructor
  · rintro ⟨p, known, member⟩
    rwa [childrenAt_of_some known]
  · intro member
    cases known : arena.get? id with
    | none =>
        rw [childrenAt_of_none known] at member
        cases member
    | some p =>
        rw [childrenAt_of_some known] at member
        exact ⟨p, known, member⟩

theorem HasChild.lt_size {child : PatternId} (has : arena.HasChild id child) : id < arena.size := by
  rcases has with ⟨p, known, _⟩
  exact (List.getElem?_eq_some_iff.mp known).1

/-- No pattern that the root leads to by children leads back to itself. Patterns may be missing. -/
def Acyclic (arena : Arena Sub) (root : PatternId) : Prop :=
  ∀ id, arena.Contains root id → ¬ Relation.TransGen arena.HasChild id id

theorem Acyclic.of_contains (acyclic : arena.Acyclic root) (contains : arena.Contains root id) :
    arena.Acyclic id :=
  fun next onward => acyclic next (contains.trans onward)

/-- A pattern does not lead back to itself if the children of each that are there come before it. -/
theorem acyclic_of_descends
    (descends : ∀ id < arena.size, ∀ child ∈ arena.childrenAt id,
      child < arena.size → child < id) (root : PatternId) : arena.Acyclic root := by
  intro id _ cycle
  have down {id next : PatternId} (onward : Relation.TransGen arena.HasChild id next) :
      next < arena.size → next < id := by
    induction onward with
    | single has => exact descends _ has.lt_size _ (hasChild_iff.mp has)
    | tail _ has induction =>
        intro inside
        have before := descends _ has.lt_size _ (hasChild_iff.mp has) inside
        exact Nat.lt_trans before (induction has.lt_size)
  rcases Relation.TransGen.head'_iff.mp cycle with ⟨child, has, _⟩
  exact Nat.lt_irrefl id (down cycle has.lt_size)

def EndsWithin (arena : Arena Sub) : (levels : Nat) → PatternId → Prop
  | 0, _ => False
  | levels + 1, id => ∀ child ∈ arena.childrenAt id, arena.EndsWithin levels child

/-- The patterns above are all different, so that there are no more of them than patterns in the
arena. The induction is on the levels that are left. -/
theorem Acyclic.endsWithin_of_above {levels : Nat} (above : List PatternId)
    (acyclic : arena.Acyclic id) (distinct : above.Nodup)
    (inside : ∀ other ∈ above, other < arena.size)
    (leads : ∀ other ∈ above, Relation.TransGen arena.HasChild other id)
    (enough : arena.size < above.length + levels) : arena.EndsWithin levels id := by
  induction levels generalizing id above with
  | zero =>
      have subset : above ⊆ List.range arena.size :=
        fun other member => List.mem_range.mpr (inside other member)
      have few := (List.subperm_of_subset distinct subset).length_le
      rw [List.length_range] at few
      exact absurd enough (Nat.not_lt.mpr few)
  | succ levels induction =>
      intro child member
      have has : arena.HasChild id child := hasChild_iff.mpr member
      -- The pattern has a child, so that it is there, and it is none of those above it.
      have fresh : id ∉ above := fun again => acyclic id .refl (leads id again)
      apply induction (id :: above) (acyclic.of_contains (.single has))
      · exact List.nodup_cons.mpr ⟨fresh, distinct⟩
      · exact List.forall_mem_cons.mpr ⟨has.lt_size, inside⟩
      · exact List.forall_mem_cons.mpr ⟨.single has, fun other up => (leads other up).tail has⟩
      · rw [List.length_cons]
        omega

theorem Acyclic.endsWithin (acyclic : arena.Acyclic root) :
    arena.EndsWithin arena.levels root := by
  apply acyclic.endsWithin_of_above [] .nil nofun nofun
  rw [List.length_nil, Nat.zero_add]
  exact Nat.lt_succ_self arena.size

theorem exists_unfolds {levels : Nat} (ends : ∀ id ∈ pending, arena.EndsWithin levels id) :
    ∃ trees, arena.Unfolds pending trees := by
  induction levels generalizing pending with
  | zero =>
      cases pending with
      | nil => exact ⟨[], .nil⟩
      | cons id rest => exact (ends id (List.mem_cons_self ..)).elim
  | succ levels below =>
      induction pending with
      | nil => exact ⟨[], .nil⟩
      | cons id rest onward =>
          rcases List.forall_mem_cons.mp ends with ⟨here, later⟩
          rcases below here with ⟨parts, inside⟩
          rcases onward later with ⟨others, unfolds⟩
          exact ⟨.node id parts :: others, .node inside unfolds⟩

theorem Acyclic.exists_tree (acyclic : arena.Acyclic root) :
    ∃ tree, arena.Unfolds [root] [tree] := by
  rcases exists_unfolds (List.forall_mem_singleton.mpr acyclic.endsWithin) with ⟨trees, unfolds⟩
  cases unfolds with
  | node inside onward =>
      cases onward
      exact ⟨_, .node inside .nil⟩

/-! ## Listings -/

/-- The triples among the patterns of a list, unless one of these is missing. -/
def listed (arena : Arena Sub) : List PatternId → Except Failure (List PatternId)
  | [] => .ok []
  | id :: later =>
    match arena.get? id with
    | none => .error (.unknownPattern id)
    | some p => (arena.listed later).map fun found => if p.isTriple then id :: found else found

theorem listed_cons_none (missing : arena.get? id = none) (later : List PatternId) :
    arena.listed (id :: later) = .error (.unknownPattern id) := by
  rw [listed, missing]

theorem listed_cons {p : Pattern Sub} (known : arena.get? id = some p) (later : List PatternId) :
    arena.listed (id :: later) =
      (arena.listed later).map fun found => if p.isTriple then id :: found else found := by
  rw [listed, known]

theorem listed_append (first second : List PatternId) :
    arena.listed (first ++ second) =
      (arena.listed first).bind fun found => (arena.listed second).map (found ++ ·) := by
  induction first with
  | nil => cases same : arena.listed second <;> simp [listed, same, Except.bind, Except.map]
  | cons id later induction =>
      rw [List.cons_append]
      cases known : arena.get? id with
      | none =>
          rw [listed_cons_none known, listed_cons_none known]
          rfl
      | some p =>
          rw [listed_cons known, listed_cons known, induction]
          cases arena.listed later with
          | error failure => rfl
          | ok found =>
              cases arena.listed second with
              | error failure => rfl
              | ok found' => cases same : p.isTriple <;> simp [Except.bind, Except.map]

def isTripleAt (arena : Arena Sub) (id : PatternId) : Bool := (arena.get? id).any Pattern.isTriple

theorem listed_of_allocated {ids : List PatternId} (allocated : ∀ id ∈ ids, id < arena.size) :
    arena.listed ids = .ok (ids.filter arena.isTripleAt) := by
  induction ids with
  | nil => rfl
  | cons id later induction =>
      rcases List.forall_mem_cons.mp allocated with ⟨inside, rest⟩
      have known : arena.get? id = some arena.patterns[id] := List.getElem?_eq_getElem inside
      have here : arena.isTripleAt id = arena.patterns[id].isTriple := by
        rw [isTripleAt, known, Option.any_some]
      rw [listed_cons known, induction rest, List.filter_cons, here, Except.map]

theorem get?_of_missing (missing : arena.size ≤ id) : arena.get? id = none :=
  List.getElem?_eq_none missing

theorem listed_of_missing {before : List PatternId} (allocated : ∀ id ∈ before, id < arena.size)
    (missing : arena.size ≤ id) (after : List PatternId) :
    arena.listed (before ++ id :: after) = .error (.unknownPattern id) := by
  rw [listed_append, listed_of_allocated allocated, listed_cons_none (get?_of_missing missing)]
  rfl

theorem Unfolds.mem_iff (unfolds : arena.Unfolds pending trees) :
    id ∈ idsOf trees ↔ ∃ root ∈ pending, arena.Contains root id := by
  induction unfolds with
  | nil => simp [idsOf]
  | @node root rest parts others _ _ inside onward =>
      rw [idsOf, ids, List.mem_append, List.mem_cons, List.exists_mem_cons_iff, inside, onward]
      refine or_congr ⟨?_, ?_⟩ .rfl
      · rintro (rfl | ⟨child, member, contains⟩)
        · exact .refl
        · exact .head (hasChild_iff.mpr member) contains
      · intro contains
        rcases contains.cases_head with rfl | ⟨child, has, below⟩
        · exact .inl rfl
        · exact .inr ⟨child, hasChild_iff.mp has, below⟩

theorem Unfolds.mem_ids_iff {tree : Unfolding} (unfolds : arena.Unfolds [root] [tree]) :
    id ∈ tree.ids ↔ arena.Contains root id := by
  have listing : idsOf [tree] = tree.ids := by rw [idsOf, idsOf, List.append_nil]
  rw [← listing, unfolds.mem_iff]
  simp

end Arena

end Sparql
