import Sparql.Proofs.Changes
import Sparql.Proofs.Check.Returns

/-!
Closed queries: every pattern that is named in such a query is there, and no pattern leads back to
itself. Therefore it can be checked, and so can its subqueries: `ClosedAs.checkable`.
-/

namespace Sparql

/-! ## Names of patterns -/

def InlineData.cells (table : InlineData) : List Expr := table.rows.flatMap (·.filterMap id)

namespace Pattern

variable {Sub : Type}

def written : Pattern Sub → List Expr
  | triple t => t.nodes ++ t.path.toList.map (·.core)
  | filter condition => [condition]
  | bind value _ => [value]
  | values table => table.cells
  | collection head _ => [head]
  | service endpoint _ _ => [endpoint]
  | graph name _ => [name]
  | group _ | union _ _ | optional _ | minus _ | subquery _ => []

/-- The patterns that are named in the pattern: its children, and those whose existence is tested
wherever an expression stands. -/
def names (p : Pattern Sub) : List PatternId := p.children ++ p.written.flatMap Expr.patterns

theorem mem_names_of_mem_parts {p : Pattern Sub} {part : PatternId} (member : part ∈ p.parts) :
    part ∈ p.names := by
  refine (List.mem_append.mp member).elim (List.mem_append_left _) fun tested => ?_
  apply List.mem_append_right
  cases p with
  | filter _ | bind _ _ => rwa [written, List.flatMap_singleton]
  | _ => cases tested

end Pattern

namespace Clauses

def written (clauses : Clauses) : List Expr :=
  clauses.select.filterMap (·.value) ++ clauses.groupBy ++ clauses.having ++
    clauses.orderBy.map (·.key) ++ clauses.describe ++
    clauses.values.toList.flatMap InlineData.cells

theorem mem_written {clauses : Clauses} {e : Expr} : e ∈ clauses.written ↔
    (∃ item ∈ clauses.select, item.value = some e) ∨ e ∈ clauses.groupBy ∨ e ∈ clauses.having ∨
      (∃ condition ∈ clauses.orderBy, condition.key = e) ∨ e ∈ clauses.describe ∨
        ∃ table, clauses.values = some table ∧ e ∈ table.cells := by
  simp [written]

def roots (clauses : Clauses) : List PatternId :=
  clauses.body.toList ++ clauses.construct.toList ++ clauses.insert.toList ++
    clauses.delete.toList

theorem mem_roots {clauses : Clauses} {id : PatternId} : id ∈ clauses.roots ↔
    clauses.body = some id ∨ clauses.construct = some id ∨ clauses.insert = some id ∨
      clauses.delete = some id := by
  simp [roots]

def names (clauses : Clauses) : List PatternId :=
  clauses.roots ++ clauses.written.flatMap Expr.patterns

end Clauses

def Registers.names (registers : Registers) : List PatternId := registers.triples ++ registers.paths

/-- All patterns that are named in the expressions are among the first ones. -/
def NamesBelow (least : Nat) (expressions : List Expr) : Prop :=
  ∀ e ∈ expressions, ∀ id ∈ e.patterns, id < least

section

variable {least : Nat}

theorem namesBelow_nil : NamesBelow least [] := List.forall_mem_nil _

@[simp] theorem namesBelow_cons {e : Expr} {rest : List Expr} :
    NamesBelow least (e :: rest) ↔ (∀ id ∈ e.patterns, id < least) ∧ NamesBelow least rest :=
  List.forall_mem_cons

theorem NamesBelow.mono {expressions : List Expr} (below : NamesBelow least expressions)
    {more : Nat} (enough : least ≤ more) : NamesBelow more expressions :=
  fun e member id tested => Nat.lt_of_lt_of_le (below e member id tested) enough

theorem NamesBelow.flatMap {expressions : List Expr} (below : NamesBelow least expressions) :
    ∀ id ∈ expressions.flatMap Expr.patterns, id < least := by
  intro id member
  rcases List.mem_flatMap.mp member with ⟨e, isThere, tested⟩
  exact below e isThere id tested

end

/-! ## Closed arenas -/

namespace Arena

variable {Sub : Type}

/-- Every pattern that is named in a pattern is there, and none leads back to itself. -/
structure Closed (arena : Arena Sub) : Prop where
  names : ∀ p ∈ arena.patterns, ∀ id ∈ p.names, id < arena.size
  acyclic : ∀ id, ¬ Relation.TransGen arena.Refers id id

theorem lt_of_get? {arena : Arena Sub} {id : PatternId} {p : Pattern Sub}
    (found : arena.get? id = some p) : id < arena.size :=
  (List.getElem?_eq_some_iff.mp found).1

namespace Closed

variable {arena arena' : Arena Sub}

theorem lt_of_refers (closed : arena.Closed) {id next : PatternId}
    (refers : arena.Refers id next) : next < arena.size := by
  rcases refers with ⟨p, found, member⟩
  exact closed.names p (List.mem_of_getElem? found) next (Pattern.mem_names_of_mem_parts member)

theorem sound (closed : arena.Closed) {id : PatternId} (inside : id < arena.size) :
    arena.Sound id where
  allocated next reaches := by
    rcases reaches.cases_tail with rfl | ⟨last, _, refers⟩
    · exact inside
    · exact closed.lt_of_refers refers
  acyclic next _ := closed.acyclic next

theorem congr (closed : arena.Closed)
    (same : arena'.patterns.map (fun p => (p.names, p.parts)) =
      arena.patterns.map fun p => (p.names, p.parts)) : arena'.Closed := by
  have there {id : PatternId} {p' : Pattern Sub} (found : arena'.get? id = some p') :
      ∃ p, arena.get? id = some p ∧ p.names = p'.names ∧ p.parts = p'.parts := by
    rcases exists_get?_of_map same.symm found with ⟨p, found, equal⟩
    exact ⟨p, found, (Prod.mk.inj equal).1, (Prod.mk.inj equal).2⟩
  have older (id next : PatternId) (refers : arena'.Refers id next) : arena.Refers id next := by
    rcases refers with ⟨p', found, member⟩
    rcases there found with ⟨p, found', _, parts⟩
    exact ⟨p, found', parts ▸ member⟩
  refine ⟨fun p' member id named => ?_, fun id cycle => ?_⟩
  · rcases List.getElem?_of_mem member with ⟨place, found⟩
    rcases there found with ⟨p, found', names, _⟩
    rw [size_of_map same]
    exact closed.names p (List.mem_of_getElem? found') id (names ▸ named)
  · exact closed.acyclic id (Relation.TransGen.mono older id id cycle)

theorem push (closed : arena.Closed) {p : Pattern Sub} (names : ∀ id ∈ p.names, id < arena.size) :
    (arena.push p).Closed := by
  have older {id next : PatternId} (refers : (arena.push p).Refers id next) :
      next < arena.size ∧ (id < arena.size → arena.Refers id next) := by
    rcases refers with ⟨p', found, member⟩
    rw [get?_push] at found
    split at found
    · next equal =>
        cases found
        refine ⟨names next (Pattern.mem_names_of_mem_parts member), fun inside => ?_⟩
        exact absurd equal (Nat.ne_of_lt inside)
    · have refers : arena.Refers id next := ⟨p', found, member⟩
      exact ⟨closed.lt_of_refers refers, fun _ => refers⟩
  refine ⟨fun p' member id named => ?_, fun id cycle => ?_⟩
  · rw [size_push]
    rcases List.mem_append.mp member with old | new
    · exact Nat.lt_succ_of_lt (closed.names p' old id named)
    · rcases List.mem_singleton.mp new with rfl
      exact Nat.lt_succ_of_lt (names id named)
  · rcases Relation.TransGen.tail'_iff.mp cycle with ⟨last, _, refers⟩
    have inside := (older refers).1
    suffices onward : ∀ next, Relation.TransGen (arena.push p).Refers id next →
        Relation.TransGen arena.Refers id next from closed.acyclic id (onward id cycle)
    intro next onward
    induction onward with
    | single refers => exact .single ((older refers).2 inside)
    | tail before refers induction =>
        rcases Relation.TransGen.tail'_iff.mp before with ⟨_, _, refers'⟩
        exact induction.tail ((older refers).2 (older refers').1)

end Closed

/-! ## Another child -/

section

variable {arena : Arena Sub} {id child : PatternId} {children : List PatternId}
  (found : arena.get? id = some (.group children))

include found

theorem refers_addChild {first next : PatternId}
    (refers : (arena.set id (.group (children ++ [child]))).Refers first next) :
    arena.Refers first next ∨ first = id ∧ next = child := by
  rcases refers with ⟨p', found', member⟩
  rw [get?_set found] at found'
  split at found'
  · next equal =>
      cases found'
      rw [Pattern.parts_group] at member
      refine (List.mem_append.mp member).imp (fun old => ?_) fun new => ?_
      · exact ⟨_, equal ▸ found, by rwa [Pattern.parts_group]⟩
      · exact ⟨equal, List.mem_singleton.mp new⟩
  · exact .inl ⟨p', found', member⟩

theorem transGen_addChild (apart : ¬ arena.Reaches child id) {first next : PatternId}
    (onward : Relation.TransGen (arena.set id (.group (children ++ [child]))).Refers first next) :
    Relation.TransGen arena.Refers first next ∨
      arena.Reaches first id ∧ arena.Reaches child next := by
  induction onward with
  | single refers =>
      rcases refers_addChild found refers with old | ⟨rfl, rfl⟩
      · exact .inl (.single old)
      · exact .inr ⟨.refl, .refl⟩
  | tail _ refers induction =>
      rcases refers_addChild found refers with old | ⟨rfl, rfl⟩
      · exact induction.imp (.tail · old) fun onward => ⟨onward.1, onward.2.tail old⟩
      · rcases induction with before | ⟨_, back⟩
        · exact .inr ⟨before.to_reflTransGen, .refl⟩
        · exact absurd back apart

theorem Closed.addChild (closed : arena.Closed) (inside : child < arena.size)
    (apart : ¬ arena.Reaches child id) :
    (arena.set id (.group (children ++ [child]))).Closed := by
  refine ⟨fun p' member id' named => ?_, fun first cycle => ?_⟩
  · rw [size_set]
    rcases List.getElem?_of_mem member with ⟨place, found'⟩
    have found' : (arena.set id _).get? place = some p' := found'
    rw [get?_set found] at found'
    split at found'
    · cases found'
      have group := closed.names _ (List.mem_of_getElem? found)
      rw [Pattern.names, Pattern.children, Pattern.written, List.flatMap_nil,
        List.append_nil] at named group
      rcases List.mem_append.mp named with old | new
      · exact group id' old
      · exact List.mem_singleton.mp new ▸ inside
    · exact closed.names p' (List.mem_of_getElem? found') id' named
  · rcases transGen_addChild found apart cycle with old | ⟨before, after⟩
    · exact closed.acyclic first old
    · exact apart (after.trans before)

end

end Arena

/-! ## Closed queries -/

namespace Query

/-! Normalizing hands the functions of a query down to its subqueries, and with them the patterns
that they test: these are in the arena of the query, or of one around it. `outer` lists the sizes of
the arenas around a query whose functions it may have taken over. -/

/-- The query collects errors, and every pattern that is named in it is there, but for those in a
function that was taken over. -/
structure NamesPatterns (outer : List Nat) (query : Query) : Prop where
  lenient : query.Lenient
  arena : query.arena.Closed
  clauses : ∀ id ∈ query.clauses.names, id < query.arena.size
  registers : ∀ id ∈ query.registers.names, id < query.arena.size
  functions : ∀ definition ∈ query.functions.definitions, ∃ size ∈ query.arena.size :: outer,
    ∀ id ∈ definition.2.body.patterns, id < size

/-- The arenas around the subqueries of a query, which may have handed its functions down. -/
def sizesBelow (handed : Bool) (outer : List Nat) (size : Nat) : List Nat :=
  if handed then size :: outer else outer

/-- The query names only patterns that are there, and so do its subqueries at any depth. Only
normalized queries have handed their functions down, the query itself apart. -/
inductive ClosedAs : (handed : Bool) → (outer : List Nat) → Query → Prop
  | intro {handed : Bool} {outer : List Nat} {query : Query} (here : query.NamesPatterns outer)
      (parts : ∀ sub : Query, sub.IsPartOf query →
        ClosedAs sub.normalized (sizesBelow handed outer query.arena.size) sub) :
      ClosedAs handed outer query

def Closed (outer : List Nat) (query : Query) : Prop := query.ClosedAs query.normalized outer

/-- The queries do not differ in anything in which patterns are named. -/
structure NamesAlike (query query' : Query) : Prop where
  options : query'.options = query.options
  arena : query'.arena = query.arena
  clauses : query'.clauses = query.clauses
  registers : query'.registers.names = query.registers.names
  functions : query'.functions.definitions = query.functions.definitions

theorem NamesAlike.refl (query : Query) : query.NamesAlike query := ⟨rfl, rfl, rfl, rfl, rfl⟩

theorem NamesAlike.trans {query query' query'' : Query} (first : query.NamesAlike query')
    (second : query'.NamesAlike query'') : query.NamesAlike query'' where
  options := second.options.trans first.options
  arena := second.arena.trans first.arena
  clauses := second.clauses.trans first.clauses
  registers := second.registers.trans first.registers
  functions := second.functions.trans first.functions

/-- For each arena there is one of no fewer patterns. -/
def Covered (outer outer' : List Nat) : Prop := ∀ size ∈ outer, ∃ size' ∈ outer', size ≤ size'

theorem covered_refl (outer : List Nat) : Covered outer outer :=
  fun size member => ⟨size, member, Nat.le_refl size⟩

theorem Covered.cons {outer outer' : List Nat} (covered : Covered outer outer') {size size' : Nat}
    (le : size ≤ size') : Covered (size :: outer) (size' :: outer') := by
  intro some member
  rcases List.mem_cons.mp member with rfl | member
  · exact ⟨size', List.mem_cons_self .., le⟩
  · rcases covered some member with ⟨some', member', le'⟩
    exact ⟨some', List.mem_cons_of_mem _ member', le'⟩

theorem covered_sizesBelow {handed handed' : Bool} (more : handed = true → handed' = true)
    {outer outer' : List Nat} (covered : Covered outer outer') {size size' : Nat}
    (le : size ≤ size') :
    Covered (sizesBelow handed outer size) (sizesBelow handed' outer' size') := by
  cases handed with
  | true =>
      rw [more rfl]
      exact covered.cons le
  | false =>
      intro some member
      rcases covered some member with ⟨some', member', le'⟩
      cases handed' with
      | true => exact ⟨some', List.mem_cons_of_mem _ member', le'⟩
      | false => exact ⟨some', member', le'⟩

theorem NamesPatterns.functions_covered {outer outer' : List Nat} {query : Query}
    (names : query.NamesPatterns outer) {size : Nat} (le : query.arena.size ≤ size)
    (covered : Covered outer outer') : ∀ definition ∈ query.functions.definitions,
      ∃ bound ∈ size :: outer', ∀ id ∈ definition.2.body.patterns, id < bound := by
  intro definition member
  rcases names.functions definition member with ⟨some, inside, below⟩
  rcases covered.cons le some inside with ⟨some', inside', le'⟩
  exact ⟨some', inside', fun id tested => Nat.lt_of_lt_of_le (below id tested) le'⟩

namespace ClosedAs

variable {handed handed' : Bool} {outer outer' : List Nat} {query query' sub : Query}

theorem here (closed : query.ClosedAs handed outer) : query.NamesPatterns outer := by
  cases closed with
  | intro here _ => exact here

theorem part (closed : query.ClosedAs handed outer) (part : sub.IsPartOf query) :
    sub.Closed (sizesBelow handed outer query.arena.size) := by
  cases closed with
  | intro _ parts => exact parts sub part

theorem mono (closed : query.ClosedAs handed outer) (more : handed = true → handed' = true)
    (covered : Covered outer outer') : query.ClosedAs handed' outer' := by
  induction closed generalizing handed' outer' with
  | @intro handed outer query here _ induction =>
      refine .intro { here with functions := ?_ } fun sub part => ?_
      · exact here.functions_covered (Nat.le_refl _) covered
      · exact induction sub part id (covered_sizesBelow more covered (Nat.le_refl _))

theorem part_below (closed : query.ClosedAs handed outer) (part : sub.IsPartOf query) :
    sub.Closed (query.arena.size :: outer) := by
  have handingDown : query.ClosedAs true outer := closed.mono (fun _ => rfl) (covered_refl outer)
  exact handingDown.part part

theorem closed (closed : query.ClosedAs handed outer)
    (normalized : handed = true → query.normalized = true) : query.Closed outer :=
  closed.mono normalized (covered_refl outer)

theorem namesPatterns_of_new (closed : query.ClosedAs handed outer) (kept : handed = false)
    (new : query.Everywhere (·.normalized = false)) : query.Everywhere (·.NamesPatterns outer) := by
  induction closed with
  | @intro handed outer query here _ induction =>
      subst kept
      exact .intro here fun sub part => induction sub part (new.part part).here (new.part part)

theorem checkable (closed : query.ClosedAs handed outer) : query.Everywhere Checkable := by
  induction closed with
  | @intro handed outer query here _ induction =>
      refine .intro ⟨here.lenient, fun root member => here.arena.sound ?_⟩ induction
      apply here.clauses
      rcases List.mem_append.mp member with matched | template
      · rcases List.mem_append.mp matched with body | tested
        · simp [Clauses.names, Clauses.roots, body]
        · refine List.mem_append_right _ ?_
          rcases List.mem_flatMap.mp tested with ⟨item, isItem, inside⟩
          rcases List.mem_flatMap.mp inside with ⟨value, isValue, inside⟩
          refine List.mem_flatMap.mpr ⟨value, ?_, inside⟩
          have selected : value ∈ query.clauses.select.filterMap (·.value) :=
            List.mem_filterMap.mpr ⟨item, isItem, Option.mem_toList.mp isValue⟩
          simp [Clauses.written, selected]
      · rw [templates] at template
        rcases List.mem_append.mp template with insert | delete
        · simp [Clauses.names, Clauses.roots, insert]
        · simp [Clauses.names, Clauses.roots, delete]

/-! ## Changes -/

theorem update (closed : query.ClosedAs handed outer) (options : query'.options = query.options)
    (arena : query'.arena = query.arena)
    (clauses : ∀ id ∈ query'.clauses.names, id ∈ query.clauses.names ∨ id < query.arena.size)
    (registers : ∀ id ∈ query'.registers.names,
      id ∈ query.registers.names ∨ id < query.arena.size)
    (functions : ∀ definition ∈ query'.functions.definitions,
      definition ∈ query.functions.definitions ∨ ∃ size ∈ query.arena.size :: outer,
        ∀ id ∈ definition.2.body.patterns, id < size) :
    query'.ClosedAs handed outer := by
  have here := closed.here
  refine .intro ⟨?_, ?_, fun id named => ?_, fun id named => ?_, fun definition member => ?_⟩
    fun sub part => ?_
  · rw [Lenient, options]
    exact here.lenient
  · rw [arena]
    exact here.arena
  · rw [arena]
    exact (clauses id named).elim (here.clauses id) fun inside => inside
  · rw [arena]
    exact (registers id named).elim (here.registers id) fun inside => inside
  · rw [arena]
    exact (functions definition member).elim (here.functions definition) fun inside => inside
  · rw [arena]
    rw [IsPartOf, arena] at part
    exact closed.part part

theorem similar (closed : query.ClosedAs handed outer) (alike : query.NamesAlike query') :
    query'.ClosedAs handed outer := by
  refine closed.update alike.options alike.arena (fun id named => .inl ?_)
    (fun id named => .inl ?_) fun definition member => .inl ?_
  · rwa [← alike.clauses]
  · rwa [← alike.registers]
  · rwa [← alike.functions]

theorem push (closed : query.ClosedAs handed outer) {p : Pattern Query}
    (names : ∀ id ∈ p.names, id < query.arena.size)
    (part : ∀ sub, p = .subquery sub → sub.Closed []) :
    { query with arena := query.arena.push p }.ClosedAs handed outer := by
  have here := closed.here
  have more : query.arena.size ≤ (query.arena.push p).size := by
    rw [Arena.size_push]
    exact Nat.le_succ _
  refine .intro ⟨here.lenient, here.arena.push names, fun id named => ?_, fun id named => ?_,
    here.functions_covered more (covered_refl outer)⟩ fun sub isPart => ?_
  · exact Nat.lt_of_lt_of_le (here.clauses id named) more
  · exact Nat.lt_of_lt_of_le (here.registers id named) more
  · rcases isPartOf_push isPart with equal | old
    · exact (part sub equal).mono id (List.forall_mem_nil _)
    · exact (closed.part old).mono id (covered_sizesBelow id (covered_refl outer) more)

theorem addChild (closed : query.ClosedAs handed outer) {id child : PatternId}
    {children : List PatternId} (found : query.arena.get? id = some (.group children))
    (inside : child < query.arena.size) (apart : ¬ query.arena.Reaches child id) :
    { query with arena := query.arena.set id (.group (children ++ [child])) }.ClosedAs
      handed outer := by
  have here := closed.here
  have size := query.arena.size_set id (.group (children ++ [child]))
  refine .intro ⟨here.lenient, here.arena.addChild found inside apart, ?_, ?_, ?_⟩
    fun sub isPart => ?_
  · rw [size]
    exact here.clauses
  · rw [size]
    exact here.registers
  · rw [size]
    exact here.functions
  · rw [size]
    rcases isPartOf_set found isPart with other | old
    · cases other
    · exact closed.part old

theorem rephrase (closed : query.ClosedAs handed outer) (options : query'.options = query.options)
    (arena : query'.arena.patterns.map (fun p => (p.names, p.parts)) =
      query.arena.patterns.map fun p => (p.names, p.parts))
    (clauses : query'.clauses.names = query.clauses.names)
    (registers : query'.registers.names = query.registers.names)
    (functions : query'.functions.definitions.map (·.2.body.patterns) =
      query.functions.definitions.map (·.2.body.patterns))
    (parts : ∀ sub : Query, sub.IsPartOf query' →
      sub.Closed (sizesBelow handed' outer query.arena.size)) :
    query'.ClosedAs handed' outer := by
  have here := closed.here
  have size := Arena.size_of_map arena
  refine .intro ⟨?_, here.arena.congr arena, ?_, ?_, fun definition member => ?_⟩ ?_
  · rw [Lenient, options]
    exact here.lenient
  · rw [size, clauses]
    exact here.clauses
  · rw [size, registers]
    exact here.registers
  · have same : definition.2.body.patterns ∈
        query.functions.definitions.map (·.2.body.patterns) := by
      rw [← functions]
      exact List.mem_map_of_mem member
    rcases List.mem_map.mp same with ⟨definition', member', equal⟩
    rw [size, ← equal]
    exact here.functions definition' member'
  · rw [size]
    exact parts

end ClosedAs

end Query

end Sparql
