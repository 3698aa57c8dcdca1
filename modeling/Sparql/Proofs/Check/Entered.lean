import Mathlib.Data.Set.Basic
import Sparql.Proofs.Pattern.Reach
import Sparql.Proofs.Strict

/-!
The subqueries that a check enters from a pattern, by whatever way the pattern leads to them. A
check of the pattern checks them all, and leaves all other patterns as they were; and what is
learned of a subquery when it is entered holds of them all in the end: `covers_checkPattern`.
-/

namespace Sparql

/-! ## Subqueries that patterns lead to -/

def Pattern.isSubquery {Sub : Type} : Pattern Sub → Bool
  | subquery _ => true
  | _ => false

def Arena.entered (arena : Arena Query) (ids : List PatternId) : Set PatternId :=
  { next | (∃ id ∈ ids, arena.Reaches id next) ∧ ∃ sub, arena.get? next = some (.subquery sub) }

namespace Arena

variable {arena : Arena Query}

theorem entered_append (ids ids' : List PatternId) :
    arena.entered (ids ++ ids') = arena.entered ids ∪ arena.entered ids' := by
  ext next
  simp [entered, or_and_right, exists_or]

theorem entered_nil : arena.entered [] = ∅ := by
  simp [entered]

theorem entered_of_plain {id : PatternId} {p : Pattern Query} (found : arena.get? id = some p)
    (plain : p.isSubquery = false) : arena.entered [id] ⊆ arena.entered p.parts := by
  intro next holds
  rcases holds with ⟨⟨_, member, reaches⟩, sub, here⟩
  rcases List.mem_singleton.mp member with rfl
  rcases reaches.cases_head with rfl | ⟨part, ⟨p', found', part_mem⟩, onward⟩
  · rw [found] at here
    cases here
    cases plain
  · rw [found] at found'
    cases found'
    exact ⟨⟨part, part_mem, onward⟩, sub, here⟩

theorem entered_subquery {id : PatternId} {sub : Query}
    (found : arena.get? id = some (.subquery sub)) : arena.entered [id] ⊆ {id} := by
  intro next holds
  rcases holds with ⟨⟨_, member, reaches⟩, _⟩
  rcases List.mem_singleton.mp member with rfl
  rcases reaches.cases_head with rfl | ⟨part, ⟨p', found', part_mem⟩, _⟩
  · rfl
  · rw [found] at found'
    cases found'
    cases part_mem

end Arena

/-! ## The middle of a check -/

/-- The query in the middle of a check that began with another. Its patterns are as they were, but
for subqueries whose check returned, and those with certain ids are checked. -/
structure Query.Midway (start : Query) (done : Set PatternId) (query : Query) : Prop where
  clauses : query.clauses = start.clauses
  size : query.arena.size = start.arena.size
  kept : ∀ id p, start.arena.get? id = some p →
    query.arena.get? id = some p ∨
      ∃ sub correct sub', p = .subquery sub ∧ Build.check.run sub = .ok correct sub' ∧
        query.arena.get? id = some (.subquery sub')
  checked : ∀ id ∈ done, ∀ sub, query.arena.get? id = some (.subquery sub) → sub.checked = true

namespace Query.Midway

variable {start query : Query} {done : Set PatternId}

theorem begun (start : Query) : start.Midway ∅ { start with blankOwners := [] } where
  clauses := rfl
  size := rfl
  kept _ _ found := .inl found
  checked _ member := (Set.notMem_empty _ member).elim

theorem mono {done' : Set PatternId} (midway : start.Midway done query) (subset : done' ⊆ done) :
    start.Midway done' query where
  clauses := midway.clauses
  size := midway.size
  kept := midway.kept
  checked id member := midway.checked id (subset member)

theorem get?_none (midway : start.Midway done query) {id : PatternId}
    (missing : start.arena.get? id = none) : query.arena.get? id = none := by
  have outside : start.arena.size ≤ id := List.getElem?_eq_none_iff.mp missing
  exact List.getElem?_eq_none_iff.mpr (midway.size.le.trans outside)

theorem cases_found (midway : start.Midway done query) {id : PatternId} {p : Pattern Query}
    (found : query.arena.get? id = some p) :
    start.arena.get? id = some p ∨
      ∃ sub correct sub', start.arena.get? id = some (.subquery sub) ∧
        Build.check.run sub = .ok correct sub' ∧ p = .subquery sub' := by
  cases before : start.arena.get? id with
  | none =>
      rw [midway.get?_none before] at found
      cases found
  | some p' =>
      rcases midway.kept id p' before with same | ⟨sub, correct, sub', rfl, run, replaced⟩
      · rw [found] at same
        cases same
        exact .inl rfl
      · rw [found] at replaced
        cases replaced
        exact .inr ⟨sub, correct, sub', rfl, run, rfl⟩

theorem found_plain (midway : start.Midway done query) {id : PatternId} {p : Pattern Query}
    (found : query.arena.get? id = some p) (plain : p.isSubquery = false) :
    start.arena.get? id = some p := by
  rcases midway.cases_found found with same | ⟨_, _, _, _, _, rfl⟩
  · exact same
  · cases plain

theorem replace (midway : start.Midway done query) {id : PatternId} {sub sub' : Query}
    {correct : Bool} (found : query.arena.get? id = some (.subquery sub))
    (run : Build.check.run sub = .ok correct sub') :
    start.Midway (done ∪ {id})
      { query with arena := query.arena.set id (.subquery sub') } where
  clauses := midway.clauses
  size := (Arena.size_set ..).trans midway.size
  kept id' p before := by
    rw [Arena.get?_set found]
    split
    · next same =>
        subst same
        rcases midway.kept id' p before with same | ⟨first, correct₀, sub₀, rfl, run₀, replaced⟩
        · rw [found] at same
          cases same
          exact .inr ⟨sub, correct, sub', rfl, run, rfl⟩
        · rw [found] at replaced
          cases replaced
          rw [Build.run_check_of_checked (Build.checked_of_run_check run₀)] at run
          cases run
          exact .inr ⟨first, correct₀, sub, rfl, run₀, rfl⟩
    · exact midway.kept id' p before
  checked id' member sub₀ found' := by
    rw [Arena.get?_set found] at found'
    split at found'
    · cases found'
      exact Build.checked_of_run_check run
    · next other => exact midway.checked id' (member.resolve_right other) sub₀ found'

end Query.Midway

namespace Build

variable {α β : Type} {start : Query}

theorem closedUnderVisits_midway (start : Query) (done : Set PatternId) :
    ClosedUnderVisits check (start.Midway done) fun _ _ => True where
  report diagnostic query midway _ := by
    rw [ends_report]
    split
    · trivial
    · exact ⟨midway.clauses, midway.size, midway.kept, midway.checked⟩
  own _ _ midway := ⟨midway.clauses, midway.size, midway.kept, midway.checked⟩
  part query id sub midway found := by
    unfold Ends
    split
    · next run => exact (midway.replace found run).mono Set.subset_union_left
    · trivial
  other _ _ _ _ := trivial

theorem closedUnderVisits_clauses (checkSub : Build Bool) (holds : Clauses → Prop) :
    ClosedUnderVisits checkSub (fun query => holds query.clauses) fun _ _ => True where
  report diagnostic query here _ := by
    rw [ends_report]
    split
    · trivial
    · exact here
  own _ _ here := here
  part query id sub here _ := by
    unfold Ends
    split
    · exact here
    · trivial
  other _ _ _ _ := trivial

/-! ## Entering what patterns lead to -/

/-- A property of queries in the middle of a check that began with another, and of the subqueries
that were entered so far. Steps of the check keep it, and a subquery that is visited is one more
that was entered. -/
structure Visiting (start : Query) (holds : Set PatternId → Query → Prop) : Prop where
  midway : ∀ {done query}, holds done query → start.Midway done query
  mono : ∀ {done done' query}, holds done query → done' ⊆ done → holds done' query
  closed : ∀ done, ClosedUnderVisits check (holds done) fun _ _ => True
  visit : ∀ {done query id sub} scope, holds done query →
    query.arena.get? id = some (.subquery sub) →
    Ends (checkSubquery check scope id sub) query (fun _ => holds (done ∪ {id})) fun _ _ => True

theorem visiting_midway (start : Query) : Visiting start start.Midway where
  midway := id
  mono := Query.Midway.mono
  closed := closedUnderVisits_midway start
  visit {done query id sub} scope midway found := by
    unfold checkSubquery
    split
    · rw [ends_bind, ends_modify]
      trivial
    · next correct sub' run =>
        have closed := closedUnderVisits_midway start (done ∪ {id})
        rw [ends_bind, ends_modify]
        have replaced : (query.arena.set id (.subquery sub')).get? id = some (.subquery sub') :=
          (Arena.get?_set found id).trans (if_pos rfl)
        apply (ends_relay closed (midway.replace found run) replaced fun _ told => told).bind
        rintro _ query' midway'
        exact ((preserves_forM fun label _ => preserves_checkBlank closed label id).bind
          fun _ => preserves_pure _) query' midway'

section

variable {holds : Set PatternId → Query → Prop}

/-- In the middle of a check, the operation enters all subqueries that the patterns lead to. -/
def Covers (start : Query) (holds : Set PatternId → Query → Prop) (ids : List PatternId)
    (x : Build α) : Prop :=
  ∀ done query, holds done query →
    Ends x query (fun _ => holds (done ∪ start.arena.entered ids)) fun _ _ => True

theorem Covers.bind {ids ids' : List PatternId} {x : Build α} {next : α → Build β}
    (first : Covers start holds ids x) (second : ∀ value, Covers start holds ids' (next value)) :
    Covers start holds (ids ++ ids') (x >>= next) := by
  intro done query here
  refine (first done query here).bind fun value query' here' => ?_
  rw [Arena.entered_append, ← Set.union_assoc]
  exact second value _ query' here'

theorem Covers.discard {ids : List PatternId} {x : Build α} (covers : Covers start holds ids x) :
    Covers start holds ids (discard x) := by
  intro done query here
  rw [ends_discard]
  exact covers done query here

theorem covers_of_preserves {x : Build α}
    (preserves : ∀ done, Preserves (holds done) (fun _ _ => True) x) :
    Covers start holds [] x := by
  intro done query here
  rw [Arena.entered_nil, Set.union_empty]
  exact preserves done query here

theorem Covers.then {ids : List PatternId} {x : Build α} {next : α → Build β}
    (covers : Covers start holds ids x)
    (preserves : ∀ value done, Preserves (holds done) (fun _ _ => True) (next value)) :
    Covers start holds ids (x >>= next) := by
  rw [← List.append_nil ids]
  exact covers.bind fun value => covers_of_preserves (preserves value)

theorem covers_forM {ids : List PatternId} {body : PatternId → Build PUnit}
    (covers : ∀ id ∈ ids, Covers start holds [id] (body id)) :
    Covers start holds ids (forM ids body) := by
  induction ids with
  | nil => exact covers_of_preserves fun _ => preserves_pure _
  | cons id rest induction =>
      rw [List.forM_cons]
      refine (covers id (List.mem_cons_self ..)).bind fun _ => ?_
      exact induction fun id member => covers id (List.mem_cons_of_mem _ member)

theorem covers_foldlM (ids : β → List PatternId) {values : List β} {body : Scope → β → Build Scope}
    (covers : ∀ scope, ∀ value ∈ values, Covers start holds (ids value) (body scope value))
    (scope : Scope) : Covers start holds (values.flatMap ids) (values.foldlM body scope) := by
  induction values generalizing scope with
  | nil => exact covers_of_preserves fun _ => preserves_pure scope
  | cons value rest induction =>
      rw [List.foldlM_cons, List.flatMap_cons]
      refine (covers scope value (List.mem_cons_self ..)).bind fun scope => ?_
      exact induction (fun scope value member =>
        covers scope value (List.mem_cons_of_mem _ member)) scope

theorem covers_each {ids : List PatternId} {body : Scope → PatternId → Build Scope}
    (covers : ∀ scope, ∀ id ∈ ids, Covers start holds [id] (body scope id)) (scope : Scope) :
    Covers start holds ids (ids.foldlM body scope) := by
  have each := covers_foldlM (fun id => [id]) covers scope
  rwa [List.flatMap_singleton'] at each

end

section

variable {holds : Set PatternId → Query → Prop} (visiting : Visiting start holds)

include visiting

/-! ## Patterns -/

theorem Visiting.mono_covers {ids ids' : List PatternId} {x : Build α}
    (covers : Covers start holds ids x)
    (subset : start.arena.entered ids' ⊆ start.arena.entered ids) :
    Covers start holds ids' x := by
  intro done query here
  refine (covers done query here).imp (fun _ _ after => ?_) fun _ _ => id
  exact visiting.mono after (Set.union_subset_union_right done subset)

theorem Visiting.covers_leaf {x : Build α} {id : PatternId} {p : Pattern Query}
    (found : start.arena.get? id = some p) (plain : p.isSubquery = false) (none : p.parts = [])
    (preserves : ∀ done, Preserves (holds done) (fun _ _ => True) x) :
    Covers start holds [id] x := by
  have leads := Arena.entered_of_plain found plain
  rw [none] at leads
  exact visiting.mono_covers (covers_of_preserves preserves) leads

theorem Visiting.covers_cell (scope : Scope) (owner cell : PatternId) :
    Covers start holds [cell] (do checkTriple scope (← inspect (·.triple cell)) owner) := by
  intro done query here
  rw [ends_bind, ends_inspect]
  split
  · next t looked =>
      have found := (visiting.midway here).found_plain (Arena.triple_eq_ok.mp looked) rfl
      exact visiting.covers_leaf found rfl rfl
        (fun done => preserves_checkTriple (visiting.closed done) scope t owner) done query here
  · trivial

theorem Visiting.covers_checkCells (scope : Scope) (cells : List PatternId) (owner : PatternId) :
    Covers start holds cells (checkCells scope cells owner) :=
  covers_each (fun scope cell _ => visiting.covers_cell scope owner cell) scope

/-- A triple, and a collection with its cells, are checked for whatever pattern they belong to. -/
theorem Visiting.covers_triple {id : PatternId} {t : Triple}
    (found : start.arena.get? id = some (.triple t)) (scope : Scope) (owner : PatternId) :
    Covers start holds [id] (checkTriple scope t owner) :=
  visiting.covers_leaf found rfl rfl fun done =>
    preserves_checkTriple (visiting.closed done) scope t owner

theorem Visiting.covers_collection {id : PatternId} {head : Expr} {cells : List PatternId}
    (found : start.arena.get? id = some (.collection head cells)) (scope : Scope)
    (owner : PatternId) : Covers start holds [id] (checkCells scope cells owner) := by
  have parts : (Pattern.collection head cells : Pattern Query).parts = cells :=
    List.append_nil cells
  exact visiting.mono_covers (visiting.covers_checkCells scope cells owner)
    (parts ▸ Arena.entered_of_plain found rfl)

theorem covers_checkChild {levels : Nat} {scope : Scope} {child : PatternId}
    (inner : Covers start holds [child] (checkPattern check levels scope child))
    (owner : PatternId) :
    Covers start holds [child] (checkChild check levels owner scope child) := by
  intro done query here
  rw [checkChild, ends_bind, ends_pattern]
  split
  · next p found =>
      have before (plain : p.isSubquery = false) :=
        (visiting.midway here).found_plain found plain
      cases p with
      | triple t => exact visiting.covers_triple (before rfl) scope owner done query here
      | collection head cells =>
          exact visiting.covers_collection (before rfl) scope owner done query here
      | _ => exact inner done query here
  · trivial

theorem covers_checkPattern (levels : Nat) (scope : Scope) (id : PatternId) :
    Covers start holds [id] (checkPattern check levels scope id) := by
  induction levels generalizing scope id with
  | zero => exact fun _ _ _ => trivial
  | succ levels induction =>
      intro done query here
      rw [checkPattern, ends_bind, ends_pattern]
      split
      · next p found =>
          have closed := visiting.closed
          have before (plain : p.isSubquery = false) :=
            (visiting.midway here).found_plain found plain
          have leads (plain : p.isSubquery = false) := Arena.entered_of_plain (before plain) plain
          cases p with
          | triple t => exact visiting.covers_triple (before rfl) scope id done query here
          | group children =>
              have parts : (Pattern.group children : Pattern Query).parts = children :=
                Pattern.parts_group children
              have each : Covers start holds children
                  (children.foldlM (checkChild check levels id) scope) :=
                covers_each (fun scope child _ =>
                  covers_checkChild visiting (induction scope child) id) scope
              exact visiting.mono_covers each (parts ▸ leads rfl) done query here
          | collection head cells =>
              exact visiting.covers_collection (before rfl) scope id done query here
          | union left right =>
              exact visiting.mono_covers ((induction scope left).discard.bind fun _ =>
                (induction scope right).discard.then fun _ _ => preserves_pure scope) (leads rfl)
                done query here
          | optional body | minus body =>
              exact visiting.mono_covers ((induction scope body).discard.then fun _ _ =>
                preserves_pure scope) (leads rfl) done query here
          | filter condition =>
              have tested := covers_forM fun tested (_ : tested ∈ condition.patterns) =>
                (induction scope tested).discard
              exact visiting.mono_covers (tested.then fun _ _ => preserves_pure scope) (leads rfl)
                done query here
          | bind value target =>
              have tested := covers_forM fun tested (_ : tested ∈ value.patterns) =>
                (induction scope tested).discard
              refine visiting.mono_covers (tested.then fun _ done => ?_) (leads rfl)
                done query here
              split
              · exact (preserves_problem (closed done) _).bind fun _ => preserves_pure _
              · exact (preserves_pure _).bind fun _ => preserves_pure _
          | values table =>
              exact visiting.covers_leaf (before rfl) rfl rfl
                (fun done => preserves_checkTable (closed done) scope table) done query here
          | service endpoint silent body =>
              exact visiting.mono_covers (induction _ body) (leads rfl) done query here
          | graph name body =>
              exact visiting.mono_covers (induction _ body) (leads rfl) done query here
          | subquery sub =>
              have only : start.arena.entered [id] ⊆ {id} := by
                rcases (visiting.midway here).cases_found found
                  with before | ⟨_, _, _, before, _, _⟩
                · exact Arena.entered_subquery before
                · exact Arena.entered_subquery before
              refine (visiting.visit scope here found).imp (fun _ _ after => ?_)
                fun _ _ failed => failed
              exact visiting.mono after (Set.union_subset_union_right done only)
      · trivial

theorem covers_checkFrom (scope : Scope) (root : PatternId) :
    Covers start holds [root] (checkFrom check scope root) :=
  fun done query here => covers_checkPattern visiting _ scope root done query here

theorem covers_checkBody : Covers start holds start.clauses.body.toList (checkBody check) := by
  intro done query here
  rw [checkBody, ends_bind, ends_get, (visiting.midway here).clauses]
  cases start.clauses.body with
  | none => exact covers_of_preserves (fun _ => preserves_pure []) done query here
  | some body => exact covers_checkFrom visiting [] body done query here

/-! ## Projected expressions -/

theorem covers_checkItem (bodyVars : List Variable) (scope : Scope) (item : Projection) :
    Covers start holds (item.value.toList.flatMap Expr.patterns)
      (checkItem check bodyVars scope item) := by
  have closed := visiting.closed
  rw [checkItem]
  cases item.value with
  | some value =>
      simp only [Option.toList, List.flatMap_cons, List.flatMap_nil, List.append_nil]
      have tested := covers_forM fun tested (_ : tested ∈ value.patterns) =>
        (covers_checkFrom visiting scope tested).discard
      refine tested.then fun _ done => ?_
      split
      · exact (preserves_problem (closed done) _).bind fun _ => preserves_pure _
      · exact (preserves_pure _).bind fun _ => preserves_pure _
  | none =>
      refine covers_of_preserves fun done => preserves_get_bind fun query here => ?_
      split
      · exact here
      · exact ((preserves_problem (closed done) _).bind fun _ => preserves_pure _) query here

theorem covers_checkItems (bodyVars : List Variable) (items : List Projection) (scope : Scope) :
    Covers start holds (items.flatMap fun item => item.value.toList.flatMap Expr.patterns)
      (discard (items.foldlM (checkItem check bodyVars) scope)) :=
  (covers_foldlM _ (fun scope item _ => covers_checkItem visiting bodyVars scope item)
    scope).discard

end

/-! ## After the body -/

theorem ends_checkBody_midway (start : Query) :
    Ends (checkBody check) { start with blankOwners := [] }
      (fun _ query' => start.Midway (start.arena.entered start.clauses.body.toList) query')
      fun _ _ => True := by
  have covers := covers_checkBody (visiting_midway start) ∅ _ (.begun start)
  rwa [Set.empty_union] at covers

end Build

end Sparql
