import Sparql.Proofs.Pattern.Unfolded

/-!
The triples below a pattern, and the tree that the arena unfolds into there. A search with a stack
goes through the tree from left to right, `Unfolds.halts`; the account of levels makes no difference
to it, `halts_of_collectTriples`. So the collection finds what the recursion over children finds:
the triples of the tree, or the first pattern that is missing, `exists_collected`.
-/

namespace Sparql.Arena

open Unfolding

variable {Sub : Type} {arena : Arena Sub} {id root : PatternId} {pending : List PatternId}
  {trees : List Unfolding}

/-! ## The loop

The collection without an account of levels. -/

/-- The triples that are found so far, and the stack of patterns that are still to be visited. -/
structure Search where
  found : List PatternId
  pending : List PatternId

/-- Visit the pattern on top of the stack. Children are pushed from the last to the first, so that
the first is on top. -/
def visitTop (arena : Arena Sub) : Search → Search ⊕ Except Failure (List PatternId)
  | ⟨found, []⟩ => .inr (.ok found)
  | ⟨found, id :: pending⟩ =>
    match arena.get? id with
    | none => .inr (.error (.unknownPattern id))
    | some p =>
      if p.isTriple then .inl ⟨found ++ [id], pending⟩
      else .inl ⟨found, p.children.foldr List.cons pending⟩

/-- After some visits the search comes to an end with this result. -/
inductive Halts (arena : Arena Sub) : Search → Except Failure (List PatternId) → Prop
  | now {search : Search} {result : Except Failure (List PatternId)}
      (ends : arena.visitTop search = .inr result) : Halts arena search result
  | later {search search' : Search} {result : Except Failure (List PatternId)}
      (goes : arena.visitTop search = .inl search') (halts : Halts arena search' result) :
      Halts arena search result

theorem Halts.unique {search : Search} {result result' : Except Failure (List PatternId)}
    (halts : arena.Halts search result) (halts' : arena.Halts search result') :
    result = result' := by
  induction halts with
  | now ends =>
      cases halts' with
      | now ends' => exact Sum.inr.inj (ends.symm.trans ends')
      | later goes' _ => cases ends.symm.trans goes'
  | later goes _ induction =>
      cases halts' with
      | now ends' => cases goes.symm.trans ends'
      | later goes' halts' =>
          cases Sum.inl.inj (goes.symm.trans goes')
          exact induction halts'

theorem visitTop_known {p : Pattern Sub} (known : arena.get? id = some p)
    (found pending : List PatternId) :
    arena.visitTop ⟨found, id :: pending⟩ =
      .inl ⟨if p.isTriple then found ++ [id] else found, p.children ++ pending⟩ := by
  simp only [visitTop, known]
  cases kind : p.isTriple with
  | true => simp [Pattern.children_of_isTriple kind]
  | false => simp

theorem visitTop_missing (missing : arena.get? id = none) (found pending : List PatternId) :
    arena.visitTop ⟨found, id :: pending⟩ = .inr (.error (.unknownPattern id)) := by
  simp only [visitTop, missing]

theorem Unfolds.visited (unfolds : arena.Unfolds (id :: pending) trees) :
    ∃ trees', arena.Unfolds (arena.childrenAt id ++ pending) trees' ∧
      idsOf trees = id :: idsOf trees' := by
  cases unfolds with
  | @node _ _ parts others inside onward =>
      refine ⟨parts ++ others, inside.append onward, ?_⟩
      rw [idsOf, ids, idsOf_append, List.cons_append]

theorem map_listed_cons {p : Pattern Sub} (known : arena.get? id = some p)
    (found later : List PatternId) :
    (arena.listed (id :: later)).map (found ++ ·) =
      (arena.listed later).map ((if p.isTriple then found ++ [id] else found) ++ ·) := by
  rw [listed_cons known]
  cases arena.listed later with
  | error failure => rfl
  | ok found' => cases p.isTriple <;> simp [Except.map]

/-- The search goes through the listing of the trees that the stack unfolds into. The induction is
on this listing. -/
theorem Unfolds.halts (unfolds : arena.Unfolds pending trees) (found : List PatternId) :
    arena.Halts ⟨found, pending⟩ ((arena.listed (idsOf trees)).map (found ++ ·)) := by
  generalize listing : idsOf trees = left
  induction left generalizing pending trees found with
  | nil =>
      cases unfolds with
      | nil =>
          rw [listed, Except.map, List.append_nil]
          exact .now rfl
      | node _ _ => cases listing
  | cons id left induction =>
      cases pending with
      | nil =>
          cases unfolds
          cases listing
      | cons top pending =>
          rcases unfolds.visited with ⟨trees', unfolds', equal⟩
          rw [equal] at listing
          cases listing
          cases known : arena.get? id with
          | none =>
              rw [listed_cons_none known]
              exact .now (visitTop_missing known found pending)
          | some p =>
              rw [childrenAt_of_some known] at unfolds'
              rw [map_listed_cons known]
              exact .later (visitTop_known known found pending) (induction unfolds' _ rfl)

theorem halts_of_collectTriples (found : List PatternId) (pending : List (Nat × PatternId))
    (enough : arena.collectTriples found pending ≠ .error .cyclicPatterns) :
    arena.Halts ⟨found.reverse, pending.map (·.2)⟩ (arena.collectTriples found pending) := by
  induction found, pending using collectTriples.induct arena with
  | case1 found =>
      rw [collectTriples]
      exact .now rfl
  | case2 found id pending =>
      rw [collectTriples] at enough
      exact absurd rfl enough
  | case3 found levels id pending missing =>
      rw [collectTriples_cons_none missing]
      exact .now (visitTop_missing missing _ _)
  | case4 found levels id pending p known isTriple induction =>
      rw [collectTriples_cons known, if_pos isTriple] at enough ⊢
      have halts := induction enough
      have goes := visitTop_known known found.reverse (pending.map (·.2))
      rw [if_pos isTriple, Pattern.children_of_isTriple isTriple, List.nil_append] at goes
      rw [List.reverse_cons] at halts
      exact .later goes halts
  | case5 found levels id pending p known other induction =>
      rw [collectTriples_cons known, if_neg other] at enough ⊢
      have halts := induction enough
      have goes := visitTop_known known found.reverse (pending.map (·.2))
      have children : p.children.map ((·.2) ∘ fun child => (levels, child)) = p.children :=
        List.map_id _
      rw [if_neg other] at goes
      rw [List.map_append, List.map_map, children] at halts
      exact .later goes halts

theorem collectTriples_ne_cyclic (found : List PatternId) (pending : List (Nat × PatternId))
    (ends : ∀ next ∈ pending, arena.EndsWithin next.1 next.2) :
    arena.collectTriples found pending ≠ .error .cyclicPatterns := by
  induction found, pending using collectTriples.induct arena with
  | case1 found =>
      rw [collectTriples]
      intro failed
      cases failed
  | case2 found id pending => exact (ends _ (List.mem_cons_self ..)).elim
  | case3 found levels id pending missing =>
      rw [collectTriples_cons_none missing]
      intro failed
      cases failed
  | case4 found levels id pending p known isTriple induction =>
      rw [collectTriples_cons known, if_pos isTriple]
      exact induction (List.forall_mem_cons.mp ends).2
  | case5 found levels id pending p known other induction =>
      rw [collectTriples_cons known, if_neg other]
      rcases List.forall_mem_cons.mp ends with ⟨here, rest⟩
      apply induction
      rw [List.forall_mem_append]
      refine ⟨fun next member => ?_, rest⟩
      rcases List.mem_map.mp member with ⟨child, isChild, rfl⟩
      rw [← childrenAt_of_some known] at isChild
      exact here child isChild

theorem Acyclic.halts (acyclic : arena.Acyclic root) :
    arena.Halts ⟨[], [root]⟩ (arena.triplesBelow root) := by
  have ends : ∀ next ∈ [(arena.levels, root)], arena.EndsWithin next.1 next.2 :=
    List.forall_mem_singleton.mpr acyclic.endsWithin
  exact halts_of_collectTriples [] _ (collectTriples_ne_cyclic [] _ ends)

theorem Acyclic.triplesBelow_eq {tree : Unfolding} (acyclic : arena.Acyclic root)
    (unfolds : arena.Unfolds [root] [tree]) : arena.triplesBelow root = arena.listed tree.ids := by
  rw [acyclic.halts.unique (unfolds.halts []), idsOf, idsOf, List.append_nil]
  cases arena.listed tree.ids <;> rfl

/-! ## The recursion over children -/

/-- What is found below a pattern, by what is found below each of its children. -/
def recursed (arena : Arena Sub) (below : PatternId → Except Failure (List PatternId))
    (id : PatternId) : Except Failure (List PatternId) :=
  match arena.get? id with
  | none => .error (.unknownPattern id)
  | some p => if p.isTriple then .ok [id] else (p.children.mapM below).map List.flatten

theorem flatten_mapM_cons (below : PatternId → Except Failure (List PatternId)) (id : PatternId)
    (rest : List PatternId) :
    ((id :: rest).mapM below).map List.flatten =
      (below id).bind fun here => ((rest.mapM below).map List.flatten).map (here ++ ·) := by
  rw [List.mapM_cons]
  cases below id with
  | error failure => rfl
  | ok here => cases rest.mapM below <;> rfl

variable {below : PatternId → Except Failure (List PatternId)}

theorem Unfolds.flatten_mapM (unfolds : arena.Unfolds pending trees)
    (told : ∀ id ∈ pending, ∀ tree, arena.Unfolds [id] [tree] → below id = arena.listed tree.ids) :
    (pending.mapM below).map List.flatten = arena.listed (idsOf trees) := by
  induction unfolds with
  | nil => rfl
  | @node id rest parts others inside _ _ onward =>
      rcases List.forall_mem_cons.mp told with ⟨here, later⟩
      rw [flatten_mapM_cons, here _ (.node inside .nil), onward later, idsOf, listed_append]

theorem recursed_eq {parts : List Unfolding} (inside : arena.Unfolds (arena.childrenAt id) parts)
    (told : ∀ child ∈ arena.childrenAt id, ∀ tree, arena.Unfolds [child] [tree] →
      below child = arena.listed tree.ids) :
    arena.recursed below id = arena.listed (Unfolding.node id parts).ids := by
  rw [ids]
  cases known : arena.get? id with
  | none => simp only [recursed, known, listed_cons_none known]
  | some p =>
      rw [childrenAt_of_some known] at inside told
      rw [listed_cons known]
      cases kind : p.isTriple with
      | true =>
          -- A triple has no parts.
          rw [Pattern.children_of_isTriple kind] at inside
          cases inside
          simp [recursed, known, kind, idsOf, listed, Except.map]
      | false =>
          simp only [recursed, known, kind, inside.flatten_mapM told]
          cases arena.listed (idsOf parts) <;> rfl

/-- The function is the recursion over children, at all patterns that the root leads to. -/
def Recurses (arena : Arena Sub) (root : PatternId)
    (below : PatternId → Except Failure (List PatternId)) : Prop :=
  ∀ id, arena.Contains root id → below id = arena.recursed below id

/-- Where descents come to an end there is one recursion only. The induction is on the levels. -/
theorem Recurses.eq_listed {levels : Nat} {tree : Unfolding} (recurses : arena.Recurses root below)
    (ends : arena.EndsWithin levels root) (unfolds : arena.Unfolds [root] [tree]) :
    below root = arena.listed tree.ids := by
  induction levels generalizing root tree with
  | zero => exact ends.elim
  | succ levels induction =>
      cases unfolds with
      | node inside onward =>
          rw [recurses root .refl]
          refine recursed_eq inside fun child member tree unfolds => ?_
          have has : arena.HasChild root child := hasChild_iff.mpr member
          exact induction (fun id contains => recurses id (.head has contains))
            (ends child member) unfolds

theorem Acyclic.recurses (acyclic : arena.Acyclic root)
    (same : ∀ id, arena.Contains root id → below id = arena.triplesBelow id) :
    arena.Recurses root below := by
  intro id contains
  have here := acyclic.of_contains contains
  rcases here.exists_tree with ⟨⟨_, parts⟩, unfolds⟩
  rw [same id contains, here.triplesBelow_eq unfolds]
  cases unfolds with
  | node inside onward =>
      refine (recursed_eq inside fun child member tree unfolds => ?_).symm
      have has : arena.HasChild id child := hasChild_iff.mpr member
      rw [same child (contains.tail has)]
      exact (here.of_contains (.single has)).triplesBelow_eq unfolds

theorem Acyclic.eq_triplesBelow (acyclic : arena.Acyclic root)
    (recurses : arena.Recurses root below) : below root = arena.triplesBelow root := by
  rcases acyclic.exists_tree with ⟨tree, unfolds⟩
  rw [acyclic.triplesBelow_eq unfolds]
  exact recurses.eq_listed acyclic.endsWithin unfolds

/-! ## The law -/

/-- The triples below the root are collected as its tree has them. -/
structure Collected (arena : Arena Sub) (root : PatternId) (tree : Unfolding) : Prop where
  /-- The loop comes to an end, with this result. -/
  halts : arena.Halts ⟨[], [root]⟩ (arena.triplesBelow root)
  /-- This is the recursion over children, and there is no other. -/
  recursive : ∀ below, arena.Recurses root below ↔
    ∀ id, arena.Contains root id → below id = arena.triplesBelow id
  triples : (∀ id, arena.Contains root id → id < arena.size) →
    arena.triplesBelow root = .ok (tree.ids.filter arena.isTripleAt)
  missing : ¬ (∀ id, arena.Contains root id → id < arena.size) →
    ∃ before first after, tree.ids = before ++ first :: after ∧
      (∀ id ∈ before, id < arena.size) ∧ arena.size ≤ first ∧
      arena.triplesBelow root = .error (.unknownPattern first)

theorem exists_first_missing {ids : List PatternId} (missing : ¬ ∀ id ∈ ids, id < arena.size) :
    ∃ before first after, ids = before ++ first :: after ∧
      (∀ id ∈ before, id < arena.size) ∧ arena.size ≤ first := by
  have found : (ids.find? fun id => decide (arena.size ≤ id)).isSome = true := by
    simpa using missing
  rcases Option.isSome_iff_exists.mp found with ⟨first, equal⟩
  rcases List.find?_eq_some_iff_append.mp equal with ⟨outside, before, after, equal, inside⟩
  exact ⟨before, first, after, equal, by simpa using inside, by simpa using outside⟩

/-- Below a root that leads to no cycle of children, the arena unfolds into one tree, and the
triples are collected as this tree has them. -/
theorem exists_collected (acyclic : arena.Acyclic root) :
    ∃ tree, (∀ tree', arena.Unfolds [root] [tree'] ↔ tree' = tree) ∧
      arena.Collected root tree := by
  rcases acyclic.exists_tree with ⟨tree, unfolds⟩
  have listing := acyclic.triplesBelow_eq unfolds
  have reached : (∀ id, arena.Contains root id → id < arena.size) ↔
      ∀ id ∈ tree.ids, id < arena.size :=
    forall_congr' fun id => imp_congr_left unfolds.mem_ids_iff.symm
  refine ⟨tree, fun tree' => ⟨fun unfolds' => ?_, fun equal => equal ▸ unfolds⟩, ?_⟩
  · exact (List.cons.inj (unfolds'.unique unfolds)).1
  refine ⟨acyclic.halts, fun below => ⟨fun recurses id contains => ?_, acyclic.recurses⟩,
    fun allocated => ?_, fun absent => ?_⟩
  · have onward : arena.Recurses id below :=
      fun next contains' => recurses next (contains.trans contains')
    exact (acyclic.of_contains contains).eq_triplesBelow onward
  · rw [listing, listed_of_allocated (reached.mp allocated)]
  · rcases exists_first_missing (mt reached.mpr absent) with
      ⟨before, first, after, equal, allocated, outside⟩
    refine ⟨before, first, after, equal, allocated, outside, ?_⟩
    rw [listing, equal, listed_of_missing allocated outside]

/-- Groups that share their triples, and one that refers to patterns that are missing too. -/
def overlapping : Arena Empty :=
  let relates (number : Nat) : Pattern Empty :=
    .triple ⟨number, .var (.ofName "x"), .const (.iri "p"), .var (.ofName "y"), none⟩
  ⟨[relates 0, relates 1, .group [1, 0, 1], .union 2 0, .group [3, 7, 8]]⟩

/-- A triple is found as often as the union leads to it, and a pattern that is missing is told. -/
theorem overlapping_collected :
    overlapping.Acyclic 3 ∧ (∀ id, overlapping.Contains 3 id → id < overlapping.size) ∧
      overlapping.triplesBelow 3 = .ok [1, 0, 1, 0] ∧
      overlapping.Acyclic 4 ∧ ∃ first, overlapping.size ≤ first ∧
        overlapping.triplesBelow 4 = .error (.unknownPattern first) := by
  have acyclic (root : PatternId) : overlapping.Acyclic root :=
    acyclic_of_descends (by decide) root
  let shown : Unfolding := .node 3 [.node 2 [.node 1 [], .node 0 [], .node 1 []], .node 0 []]
  have unfolds : overlapping.Unfolds [3] [shown] :=
    .node (.node (.node .nil (.node .nil (.node .nil .nil))) (.node .nil .nil)) .nil
  have allocated : ∀ id, overlapping.Contains 3 id → id < overlapping.size := by
    intro id contains
    have member : id ∈ [3, 2, 1, 0, 1, 0] := unfolds.mem_ids_iff.mpr contains
    clear contains
    revert id
    decide
  have dangling : ¬ ∀ id, overlapping.Contains 4 id → id < overlapping.size := by
    intro allocated
    have inside : 7 < overlapping.size := allocated 7 (.single ⟨_, rfl, by decide⟩)
    revert inside
    decide
  -- The law holds of the tree that is shown, as there is no other.
  rcases exists_collected (acyclic 3) with ⟨tree, unique, collected⟩
  rcases (unique shown).mp unfolds with rfl
  rcases exists_collected (acyclic 4) with ⟨_, _, collected'⟩
  rcases collected'.missing dangling with ⟨_, first, _, _, _, outside, failed⟩
  exact ⟨acyclic 3, allocated, collected.triples allocated, acyclic 4, first, outside, failed⟩

/-- The first of the missing patterns is reported. -/
example : overlapping.triplesBelow 4 = .error (.unknownPattern 7) := by decide +kernel

end Sparql.Arena
