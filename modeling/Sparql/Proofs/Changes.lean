import Sparql.Proofs.Operation
import Sparql.Proofs.Pattern.Reach

/-!
What building a query may change. Patterns are added at the end, a group gets another child, the
expressions among patterns change, subqueries change in the same ways, reports are added, and the
supply of names only grows. A strict failure is raised by the report that was added last.
-/

namespace Sparql

/-- What may be done to a query apart from building it: to check it, and to make up blank labels and
variables. -/
structure Rights where
  checking : Bool
  labelling : Bool
  naming : Bool

def Rights.all : Rights := ⟨true, true, true⟩

/-- A strict failure was raised by the report of an error that was added last. Only a check reports
shared blank nodes. -/
def Failure.RaisedIn (rights : Rights) (failure : Failure) (query : Query) : Prop :=
  ∀ diagnostic, failure = .strict diagnostic →
    diagnostic.isError = true ∧ (diagnostic.code = .blankNodeScope → rights.checking = true) ∧
      ∃ log : Log, query.log = log.add diagnostic

namespace Query

/-- Neither patterns nor reports differ, and no names are made up. -/
structure Similar (query query' : Query) : Prop where
  arena : query'.arena = query.arena
  log : query'.log = query.log
  checked : query'.checked = query.checked
  blanks : query'.supply.blanks = query.supply.blanks
  vars : query'.supply.vars = query.supply.vars

/-- Building may take one query to the other, with subqueries of some kind put in. Only a check
reports shared blank nodes and notes that a query is checked. -/
inductive ChangesTo (rights : Rights) (may : Query → Prop) : Query → Query → Prop
  | refl (query : Query) : ChangesTo rights may query query
  | trans {first second third : Query} (before : ChangesTo rights may first second)
      (after : ChangesTo rights may second third) : ChangesTo rights may first third
  | report (query : Query) (diagnostic : Diagnostic)
      (fits : diagnostic.code = .blankNodeScope → rights.checking = true) :
      ChangesTo rights may query { query with log := query.log.add diagnostic }
  | push (query : Query) (p : Pattern Query)
      (cells : ∀ head cells, p = .collection head cells →
        ∀ cell ∈ cells, query.arena.HoldsTriple cell)
      (part : ∀ sub, p = .subquery sub → may sub) :
      ChangesTo rights may query { query with arena := query.arena.push p }
  | join (query : Query) {id : PatternId} {children : List PatternId}
      (found : query.arena.get? id = some (.group children)) (child : PatternId) :
      ChangesTo rights may query
        { query with arena := query.arena.set id (.group (children ++ [child])) }
  | values (query : Query) (change : Expr → Expr) :
      ChangesTo rights may query (query.mapValues change)
  | part (query : Query) {id : PatternId} {sub sub' : Query}
      (found : query.arena.get? id = some (.subquery sub))
      (inner : ChangesTo rights may sub sub') :
      ChangesTo rights may query { query with arena := query.arena.set id (.subquery sub') }
  | similar {query query' : Query} (similar : Similar query query') :
      ChangesTo rights may query query'
  | label (query : Query) (labels : rights.labelling = true) :
      ChangesTo rights may query { query with supply.blanks := query.supply.blanks + 1 }
  | name (query : Query) (names : rights.naming = true) :
      ChangesTo rights may query { query with supply.vars := query.supply.vars + 1 }
  | done (query : Query) (checks : rights.checking = true) :
      ChangesTo rights may query { query with checked := true }

section

variable {rights : Rights} {may : Query → Prop} {query query' : Query}

theorem ChangesTo.holdsTriple (changes : query.ChangesTo rights may query') {id : PatternId}
    (holds : query.arena.HoldsTriple id) : query'.arena.HoldsTriple id := by
  induction changes with
  | refl query | report query _ _ | label query _ | name query _ | done query _ => exact holds
  | trans _ _ first second => exact second (first holds)
  | push query p _ _ =>
      rcases holds with ⟨t, found⟩
      have inside : id < query.arena.size := (List.getElem?_eq_some_iff.mp found).1
      exact ⟨t, (Arena.get?_push _ _ _).trans ((if_neg (Nat.ne_of_lt inside)).trans found)⟩
  | join query found' child =>
      rcases holds with ⟨t, found⟩
      refine ⟨t, (Arena.get?_set found' id).trans ((if_neg ?_).trans found)⟩
      intro equal
      rcases equal with rfl
      cases found.symm.trans found'
  | values query change =>
      rcases holds with ⟨t, found⟩
      refine ⟨t, ?_⟩
      exact (List.getElem?_map ..).trans (congrArg (Option.map (Pattern.mapValues change)) found)
  | part query found' _ _ =>
      rcases holds with ⟨t, found⟩
      refine ⟨t, (Arena.get?_set found' id).trans ((if_neg ?_).trans found)⟩
      intro equal
      rcases equal with rfl
      cases found.symm.trans found'
  | similar similar => rwa [similar.arena]

theorem ChangesTo.cellsAreTriples (changes : query.ChangesTo rights may query')
    (cells : query.arena.CellsAreTriples) : query'.arena.CellsAreTriples := by
  induction changes with
  | refl query | report query _ _ | label query _ | name query _ | done query _ => exact cells
  | trans _ _ first second => exact second (first cells)
  | push query p cells' part =>
      intro id head ids found cell member
      have pushed : query.ChangesTo rights _ _ := .push query p cells' part
      apply pushed.holdsTriple
      rw [Arena.get?_push] at found
      split at found
      · cases found
        exact cells' head ids rfl cell member
      · exact cells id head ids found cell member
  | join query found' child =>
      intro id head ids found cell member
      have joined : query.ChangesTo rights may _ := .join query found' child
      apply joined.holdsTriple
      rw [Arena.get?_set found'] at found
      split at found
      · cases found
      · exact cells id head ids found cell member
  | values query change =>
      intro id head ids found cell member
      have changed : query.ChangesTo rights may _ := .values query change
      apply changed.holdsTriple
      rcases Option.map_eq_some_iff.mp ((List.getElem?_map ..).symm.trans found) with
        ⟨p, found', equal⟩
      cases p <;> cases equal
      exact cells id head ids found' cell member
  | part query found' inner _ =>
      intro id head ids found cell member
      apply (ChangesTo.part query found' inner).holdsTriple
      rw [Arena.get?_set found'] at found
      split at found
      · cases found
      · exact cells id head ids found cell member
  | similar similar => rwa [similar.arena]

/-- A query that was not checked, and has no report of a shared blank node. -/
structure Fresh (query : Query) : Prop where
  unchecked : query.checked = false
  unshared : ∀ diagnostic ∈ query.log.entries, diagnostic.code ≠ .blankNodeScope

theorem ChangesTo.fresh (changes : query.ChangesTo rights may query')
    (building : rights.checking = false) (fresh : query.Fresh) : query'.Fresh := by
  induction changes with
  | refl query => exact fresh
  | trans _ _ first second => exact second (first fresh)
  | report query diagnostic fits =>
      refine ⟨fresh.unchecked, fun diagnostic' member shared => ?_⟩
      rcases List.mem_append.mp member with member | member
      · exact fresh.unshared diagnostic' member shared
      · rw [List.mem_singleton.mp member] at shared
        exact Bool.noConfusion (building.symm.trans (fits shared))
  | push query _ _ _ | join query _ _ | part query _ _ _ | values query _ | label query _
  | name query _ =>
      exact ⟨fresh.unchecked, fresh.unshared⟩
  | similar similar =>
      exact ⟨similar.checked.trans fresh.unchecked, by rw [similar.log]; exact fresh.unshared⟩
  | done query checks => exact Bool.noConfusion (building.symm.trans checks)

theorem ChangesTo.vars_le (changes : query.ChangesTo rights may query') :
    query.supply.vars ≤ query'.supply.vars := by
  induction changes with
  | trans _ _ first second => exact first.trans second
  | similar similar => exact similar.vars.ge
  | name query _ => exact Nat.le_succ _
  | _ => exact Nat.le_refl _

theorem ChangesTo.blanks_eq (changes : query.ChangesTo rights may query')
    (unlabelled : rights.labelling = false) : query'.supply.blanks = query.supply.blanks := by
  induction changes with
  | trans _ _ first second => exact second.trans first
  | similar similar => exact similar.blanks
  | label query labels => exact Bool.noConfusion (unlabelled.symm.trans labels)
  | _ => rfl

theorem ChangesTo.vars_eq (changes : query.ChangesTo rights may query')
    (unnamed : rights.naming = false) : query'.supply.vars = query.supply.vars := by
  induction changes with
  | trans _ _ first second => exact second.trans first
  | similar similar => exact similar.vars
  | name query names => exact Bool.noConfusion (unnamed.symm.trans names)
  | _ => rfl

/-! ## Trees of queries -/

theorem isPartOf_push {p : Pattern Query} {sub : Query}
    (part : sub.IsPartOf { query with arena := query.arena.push p }) :
    p = .subquery sub ∨ sub.IsPartOf query := by
  rcases part with ⟨id, found⟩
  rw [Arena.get?_push] at found
  split at found
  · exact .inl (Option.some.inj found)
  · exact .inr ⟨id, found⟩

theorem isPartOf_set {id : PatternId} {p p' : Pattern Query} {sub : Query}
    (found : query.arena.get? id = some p)
    (part : sub.IsPartOf { query with arena := query.arena.set id p' }) :
    p' = .subquery sub ∨ sub.IsPartOf query := by
  rcases part with ⟨id', found'⟩
  rw [Arena.get?_set found] at found'
  split at found'
  · exact .inl (Option.some.inj found')
  · exact .inr ⟨id', found'⟩

theorem isPartOf_mapValues {change : Expr → Expr} {sub : Query}
    (part : sub.IsPartOf (query.mapValues change)) : sub.IsPartOf query := by
  rcases part with ⟨id, found⟩
  rcases Option.map_eq_some_iff.mp ((List.getElem?_map ..).symm.trans found) with ⟨p, found', equal⟩
  cases p <;> cases equal
  exact ⟨id, found'⟩

theorem ChangesTo.everywhere {property : Query → Prop}
    (keeps : ∀ query query' : Query, query.ChangesTo rights may query' → property query →
      property query')
    (new : ∀ sub, may sub → sub.Everywhere property)
    (changes : query.ChangesTo rights may query') (holds : query.Everywhere property) :
    query'.Everywhere property := by
  induction changes with
  | refl query => exact holds
  | trans _ _ first second => exact second (first holds)
  | report query diagnostic fits =>
      exact .intro (keeps _ _ (.report query diagnostic fits) holds.here) fun _ => holds.part
  | push query p cells part =>
      refine .intro (keeps _ _ (.push query p cells part) holds.here) fun sub isPart => ?_
      rcases isPartOf_push isPart with equal | isPart
      · exact new sub (part sub equal)
      · exact holds.part isPart
  | join query found child =>
      refine .intro (keeps _ _ (.join query found child) holds.here) fun sub isPart => ?_
      rcases isPartOf_set found isPart with equal | isPart
      · cases equal
      · exact holds.part isPart
  | values query change =>
      refine .intro (keeps _ _ (.values query change) holds.here) fun sub isPart => ?_
      exact holds.part (isPartOf_mapValues isPart)
  | part query found inner induction =>
      refine .intro (keeps _ _ (.part query found inner) holds.here) fun sub isPart => ?_
      rcases isPartOf_set found isPart with equal | isPart
      · cases equal
        exact induction (holds.part ⟨_, found⟩)
      · exact holds.part isPart
  | similar similar =>
      refine .intro (keeps _ _ (.similar similar) holds.here) fun sub isPart => ?_
      refine holds.part ?_
      rwa [IsPartOf, similar.arena] at isPart
  | label query labels =>
      exact .intro (keeps _ _ (.label query labels) holds.here) fun _ => holds.part
  | name query names =>
      exact .intro (keeps _ _ (.name query names) holds.here) fun _ => holds.part
  | done query checks =>
      exact .intro (keeps _ _ (.done query checks) holds.here) fun _ => holds.part

end

end Query

end Sparql
