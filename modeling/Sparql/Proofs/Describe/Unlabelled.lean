import Sparql.Proofs.Parallel.Forms

/-!
Descriptions of terms that are no blank nodes. Their triples have no labels, so that a check passes
them by: `Description.Unlabelled.idle`.
-/

namespace Sparql

open Build

/-! ## What describing leaves alone -/

def Query.rest (query : Query) : Query :=
  { query with arena := {}, clauses := {}, supply := {}, registers := {} }

namespace Build

variable {α : Type} {kept : Query}

def KeepsRest (kept : Query) (x : Build α) : Prop :=
  Preserves (fun query => query.rest = kept) (fun _ query => query.rest = kept) x

theorem keepsRest_modify {change : Query → Query}
    (same : ∀ query, (change query).rest = query.rest) : KeepsRest kept (modify change) :=
  preserves_modify fun query holds => (same query).trans holds

theorem keepsRest_inspect (look : Arena Query → Except Failure α) :
    KeepsRest kept (inspect look) :=
  preserves_inspect fun _ _ holds _ => holds

theorem keepsRest_modifyClauses (change : Clauses → Clauses) :
    KeepsRest kept (modifyClauses change) :=
  keepsRest_modify fun _ => rfl

theorem keepsRest_push (p : Pattern Query) : KeepsRest kept (push p) := by
  refine preserves_get_bind fun query holds => ?_
  refine (Preserves.bind ?_ fun _ => preserves_pure _) query holds
  exact keepsRest_modify fun _ => rfl

theorem keepsRest_known (id : PatternId) : KeepsRest kept (known id) :=
  (keepsRest_inspect _).discard

theorem keepsRest_freshVariable : KeepsRest kept freshVariable := by
  refine preserves_get_bind fun query holds => ?_
  refine (Preserves.bind ?_ fun _ => preserves_pure _) query holds
  exact keepsRest_modify fun _ => rfl

theorem keepsRest_triple (subject node object : Expr) :
    KeepsRest kept (triple subject { node } object) := by
  refine (preserves_pure none).bind fun path => preserves_get_bind fun query holds => ?_
  refine (Preserves.bind ?_ fun _ => ?_) query holds
  · exact keepsRest_modify fun _ => rfl
  · refine (keepsRest_push _).bind fun id => preserves_get_bind fun query holds => ?_
    split
    · refine (Preserves.bind ?_ fun _ => preserves_pure _) query holds
      exact keepsRest_modify fun _ => rfl
    · exact holds

theorem keepsRest_description (term : Expr) : KeepsRest kept (description term) := by
  apply keepsRest_freshVariable.bind
  intro p
  apply keepsRest_freshVariable.bind
  intro v
  apply keepsRest_freshVariable.bind
  intro p'
  apply keepsRest_freshVariable.bind
  intro v'
  apply (keepsRest_triple _ _ _).bind
  intro outgoing
  apply (keepsRest_triple _ _ _).bind
  intro incoming
  apply (keepsRest_push _).bind
  intro left
  apply (keepsRest_push _).bind
  intro right
  apply ((keepsRest_known left).bind fun _ => (keepsRest_known right).bind fun _ =>
    keepsRest_push _).bind
  intro either
  exact ((keepsRest_known either).bind fun _ => keepsRest_push _).bind fun _ => preserves_pure _

theorem keepsRest_bodyParts : KeepsRest kept bodyParts := by
  refine preserves_get_bind fun query holds => ?_
  split
  · exact holds
  · refine ((keepsRest_inspect _).bind fun p => ?_) query holds
    split <;> exact preserves_pure _

theorem keepsRest_placeDescriptions (ids : List (PatternId × PatternId)) :
    KeepsRest kept (placeDescriptions ids) := by
  apply keepsRest_bodyParts.bind
  intro parts
  apply (keepsRest_push _).bind
  intro body
  apply (keepsRest_modifyClauses _).bind
  intro _
  exact (keepsRest_push _).bind fun template => keepsRest_modifyClauses _

theorem keepsRest_describeAll (vars : List Variable) : KeepsRest kept (describeAll vars) := by
  have projects : KeepsRest kept (vars.forM fun v => select v none) :=
    preserves_forM fun v _ => keepsRest_modifyClauses _
  refine preserves_get_bind fun query holds => ?_
  split
  · exact ((keepsRest_modifyClauses _).bind fun _ => projects) query holds
  · exact projects query holds

theorem keepsRest_normalizeDescribe : KeepsRest kept normalizeDescribe := by
  have named : KeepsRest kept describeNamed := by
    refine preserves_get_bind fun query => ?_
    refine Preserves.bind (preserves_mapM fun term _ => keepsRest_description term)
      (fun ids => ?_) query
    exact (keepsRest_modifyClauses _).bind fun _ => keepsRest_placeDescriptions ids
  have bound : KeepsRest kept bodyVariables := by
    refine preserves_get_bind fun query holds => ?_
    split
    · exact keepsRest_inspect _ query holds
    · exact holds
  rw [normalizeDescribe_eq]
  refine bound.bind fun vars => preserves_get_bind fun query => ?_
  split
  · exact ((keepsRest_describeAll vars).bind fun _ => named) query
  · exact named query

end Build

/-! ## Triples without labels -/

def Arena.HoldsUnlabelled (arena : Arena Query) (id : PatternId) : Prop :=
  ∃ cell t, arena.get? id = some (.group [cell]) ∧ arena.get? cell = some (.triple t) ∧
    t.blankLabels = []

structure Description.Unlabelled (arena : Arena Query) (made : Description) : Prop where
  optional : arena.get? made.optional = some (.optional made.either)
  either : ∃ outgoing incoming, arena.get? made.either = some (.union outgoing incoming) ∧
    arena.HoldsUnlabelled outgoing ∧ arena.HoldsUnlabelled incoming

theorem Description.Of.unlabelled {arena : Arena Query} {term : Expr} {made : Description}
    (holds : made.Of arena term) (term' : term.blankLabel? = none)
    (vars : ∀ v ∈ made.vars, v.blank = false) : made.Unlabelled arena := by
  have unlabelled {id : PatternId} {subject node object : Expr}
      (alone : arena.HoldsAlone id [subject, node, object]) (first : subject.blankLabel? = none)
      (last : object.blankLabel? = none) : arena.HoldsUnlabelled id := by
    rcases alone with ⟨cell, t, group, triple, nodes, _⟩
    cases nodes
    exact ⟨cell, t, group, triple, by simp [Triple.blankLabels, first, last]⟩
  have plain {v : Variable} (member : v ∈ made.vars) : (Expr.var v).blankLabel? = none := by
    rw [Expr.blankLabel?, vars v member]
    rfl
  rcases holds.either with ⟨outgoing, incoming, union, alone, alone'⟩
  refine ⟨holds.optional, outgoing, incoming, union, ?_, ?_⟩
  · exact unlabelled alone term' (plain (by simp [Description.vars]))
  · exact unlabelled alone' (plain (by simp [Description.vars])) term'

theorem Description.Unlabelled.gathers {arena : Arena Query} {made : Description}
    (holds : made.Unlabelled arena) : ∃ ids, arena.Gathers [made.optional] ids ∧
      ∀ id ∈ ids, ∃ t, arena.get? id = some (.triple t) ∧ t.blankLabels = [] := by
  rcases holds.either with ⟨outgoing, incoming, union, alone, alone'⟩
  rcases alone with ⟨cell, t, group, triple, none⟩
  rcases alone' with ⟨cell', t', group', triple', none'⟩
  have below : arena.Gathers [outgoing, incoming] ([cell] ++ ([cell'] ++ [])) :=
    .parts group rfl (.triple triple .nil) (.parts group' rfl (.triple triple' .nil) .nil)
  refine ⟨_, .parts holds.optional rfl (.parts union rfl below .nil) .nil, fun id member => ?_⟩
  have either : id = cell ∨ id = cell' := by simpa using member
  rcases either with rfl | rfl
  · exact ⟨t, triple, none⟩
  · exact ⟨t', triple', none'⟩

/-! ## Checks -/

namespace Comparison

variable {c : Comparison} {α : Type}

theorem Idle.discard {x : Build α} {value : α} (idle : c.Idle x value) :
    c.Idle (discard x) () := by
  have ends : c.Idle (x >>= fun _ => pure ()) () := idle.bind (idle_pure ())
  rwa [← map_eq_pure_bind] at ends

variable {checkSub : Build Bool} {levels : Nat}

theorem idle_checkGroup {id : PatternId} (unlabelled : c.whole.HoldsUnlabelled id)
    (fits : c.whole.Fits levels id) (scope : Scope) :
    c.Idle (discard (checkPattern checkSub levels scope id)) () := by
  cases levels with
  | zero => exact fits.elim
  | succ levels =>
      rcases unlabelled with ⟨cell, t, group, triple, none⟩
      have child : c.Idle (checkChild checkSub levels id scope cell)
          (t.vars.foldl Scope.bind scope) := by
        refine (idle_pattern triple rfl).bind ?_
        dsimp only
        rw [checkTriple, none]
        exact idle_pure _
      rw [checkPattern]
      exact ((idle_pattern group rfl).bind (child.bind (idle_pure _))).discard

theorem idle_checkDescription {made : Description} (unlabelled : made.Unlabelled c.whole)
    (fits : c.whole.Fits levels made.optional) (owner : PatternId) (scope : Scope) :
    c.Idle (checkChild checkSub levels owner scope made.optional) scope := by
  rcases unlabelled.either with ⟨outgoing, incoming, union, alone, alone'⟩
  cases levels with
  | zero => exact fits.elim
  | succ levels =>
      rcases fits with ⟨p, found, fits⟩
      cases found.symm.trans unlabelled.optional
      have fits := fits made.either (List.mem_cons_self ..)
      cases levels with
      | zero => exact fits.elim
      | succ levels =>
          rcases fits with ⟨p, found', fits⟩
          cases found'.symm.trans union
          have left : c.Idle (discard (checkPattern checkSub levels scope outgoing)) () :=
            idle_checkGroup alone (fits outgoing (by simp [Pattern.parts, Pattern.children])) scope
          have right : c.Idle (discard (checkPattern checkSub levels scope incoming)) () :=
            idle_checkGroup alone' (fits incoming (by simp [Pattern.parts, Pattern.children])) scope
          have either : c.Idle (checkPattern checkSub (levels + 1) scope made.either) scope := by
            rw [checkPattern]
            exact (idle_pattern union rfl).bind (left.bind (right.bind (idle_pure scope)))
          have optional :
              c.Idle (checkPattern checkSub (levels + 2) scope made.optional) scope := by
            rw [checkPattern]
            exact (idle_pattern unlabelled.optional rfl).bind
              (either.discard.bind (idle_pure scope))
          exact (idle_pattern unlabelled.optional rfl).bind optional

end Comparison

end Sparql
