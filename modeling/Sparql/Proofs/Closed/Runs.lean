import Sparql.Proofs.Bindable.Basic
import Sparql.Proofs.Closed.Normalizing
import Sparql.Proofs.Describe.Returns

/-!
A query that is not strict stays closed whatever is wrong with it, as long as it is assembled from
its own patterns: no operation makes it name a pattern that is not there. Therefore neither
normalizing nor checking can fail, `Assembled.closed_and_returns`. But the functions that a subquery
takes over may test patterns of the query that defines them, which the subquery does not have.
-/

namespace Sparql

/-! ## Checking -/

namespace Query

theorem ClosedAs.replace {handed : Bool} {outer : List Nat} {query sub sub' : Query}
    {id : PatternId} (closed : query.ClosedAs handed outer)
    (found : query.arena.get? id = some (.subquery sub))
    (inner : sub'.Closed (sizesBelow handed outer query.arena.size)) :
    { query with arena := query.arena.set id (.subquery sub') }.ClosedAs handed outer := by
  refine closed.rephrase rfl ?_ rfl rfl rfl fun part isPart => ?_
  · exact Arena.map_set found rfl
  · rcases isPartOf_set found isPart with equal | old
    · cases equal
      exact inner
    · exact closed.part old

end Query

namespace Build

variable {outer : List Nat}

theorem closedUnderCheck_closed {checkSub : Build Bool}
    (keepsSub : ∀ outer, Preserves (·.Closed outer) (fun _ sub => sub.Closed outer) checkSub) :
    ClosedUnderCheck checkSub (·.Closed outer) fun _ query => query.Closed outer where
  report diagnostic query closed _ := by
    have reported : ({ query with log := query.log.add diagnostic } : Query).Closed outer :=
      Query.ClosedAs.similar closed ⟨rfl, rfl, rfl, rfl, rfl⟩
    rw [ends_report]
    split <;> exact reported
  own query owners closed := Query.ClosedAs.similar closed ⟨rfl, rfl, rfl, rfl, rfl⟩
  project vars query closed := by
    have keeps : KeepsClosed query.normalized outer 0 nowhere (projectAll vars) := by
      refine keepsClosed_write (fun _ => rfl) (fun clauses e member => .inl ?_) namesBelow_nil
      rw [Clauses.written, values_projectAll] at member
      exact member
    exact keeps.preserves query closed
  done query closed := Query.ClosedAs.similar closed ⟨rfl, rfl, rfl, rfl, rfl⟩
  part query id sub closed found := by
    apply (keepsSub _ sub (closed.part ⟨id, found⟩)).imp
    · exact fun _ _ inner => closed.replace found inner
    · exact fun _ _ inner => closed.replace found inner
  other query failure closed _ := closed

theorem closed_checkAt (level : Nat) (outer : List Nat) :
    Preserves (·.Closed outer) (fun _ query => query.Closed outer) (checkAt level) := by
  -- The induction is on the levels of subqueries.
  induction level generalizing outer with
  | zero => exact preserves_checkWith (closedUnderCheck_closed fun _ => preserves_pure true)
  | succ level induction => exact preserves_checkWith (closedUnderCheck_closed induction)

theorem closed_check (outer : List Nat) :
    Preserves (·.Closed outer) (fun _ query => query.Closed outer) check :=
  preserves_get_bind fun query closed => closed_checkAt _ outer query closed

end Build

/-! ## Operations -/

namespace Operation

def written : Operation → List Expr
  | triple subject predicate object =>
    [subject, predicate.node, object] ++ predicate.path.toList
  | filter e | bind e _ | service e _ _ | graph e _ | describe e | groupBy e | having e
  | orderBy e _ | define _ _ e => [e]
  | select _ value => value.toList
  | values table | setValues table => table.cells
  | collection items => items
  | _ => []

/-- The operation is meant for the query: patterns that are tested, or put into a new group, are
there, and no group gets a child that leads to it. -/
structure Fits (operation : Operation) (query : Query) : Prop where
  written : NamesBelow query.arena.size operation.written
  children : ∀ children, operation = .group children → ∀ child ∈ children, child < query.arena.size
  acyclic : ∀ id child children, operation = .addToGroup id child →
    query.arena.get? id = some (.group children) → ¬ query.arena.Reaches child id

end Operation

namespace Build

variable {α : Type} {handed : Bool} {outer : List Nat} {least : Nat}

theorem KeepsClosed.after {names : α → List PatternId} {x : Build α}
    (keeps : KeepsClosed handed outer least names x) {query : Query}
    (closed : query.ClosedAs handed outer) (enough : least ≤ query.arena.size) :
    (x.after query).ClosedAs handed outer := by
  apply Ends.after
  exact (keeps query closed enough).imp (fun _ _ => And.left) fun _ _ => id

theorem keepsClosed_setRoot {id : PatternId} {change : Clauses → Clauses}
    (roots : ∀ clauses, ∀ id' ∈ (change clauses).roots, id' = id ∨ id' ∈ clauses.roots)
    (written : ∀ clauses, (change clauses).written = clauses.written) :
    KeepsClosed handed outer least nowhere (do known id; modifyClauses change) :=
  keepsClosed_known_bind fun _ _ below => keepsClosed_root roots written below

theorem keepsClosed_define (name : String) (params : List Variable) {body : Expr}
    (below : ∀ id ∈ body.patterns, id < least) :
    KeepsClosed handed outer least nowhere (define name params body) := by
  apply (takes_calledName complains_aside name).keepsClosed.seq
  intro called more enough
  refine keepsClosed_modify (fun query closed enough' => ?_) fun _ => rfl
  refine closed.update rfl rfl (fun _ => .inl) (fun _ => .inl) fun definition member => ?_
  rcases List.mem_cons.mp member with rfl | old
  · refine .inr ⟨query.arena.size, List.mem_cons_self .., fun id tested => ?_⟩
    exact Nat.lt_of_lt_of_le (below id tested) (enough.trans enough')
  · exact .inl (List.mem_of_mem_filter old)

theorem closed_addToGroup {id child : PatternId} {query : Query}
    (closed : query.ClosedAs handed outer)
    (acyclic : ∀ children, query.arena.get? id = some (.group children) →
      ¬ query.arena.Reaches child id) :
    ((addToGroup id child).after query).ClosedAs handed outer := by
  apply Ends.after
  rw [addToGroup, ends_bind, known, ends_discard, ends_pattern]
  split
  · next p here =>
      rw [ends_bind, ends_inspect]
      split
      · next children found =>
          have group := Arena.group_eq_ok.mp found
          exact closed.addChild group (Arena.lt_of_get? here) (acyclic children group)
      · exact closed
  · exact closed

theorem closedAs_after {operation : Operation} {query : Query} (fits : operation.Fits query)
    (parts : ∀ sub, operation = .subquery sub → sub.Closed [])
    (building : operation ≠ .normalize ∧ operation ≠ .check)
    (closed : query.ClosedAs handed outer) :
    (operation.run.after query).ClosedAs handed outer := by
  have complains := complains_aside
  have refuses := refuses_aside
  have keeps {α : Type} {x : Build α} {names : α → List PatternId} {change : α → Answer}
      (keeps : KeepsClosed handed outer query.arena.size names x) :
      ((change <$> x).after query).ClosedAs handed outer := by
    rw [after_map]
    exact keeps.after closed (Nat.le_refl _)
  have written := fits.written
  cases operation with
  | setNamespaces _ | setSubmitting _ =>
      exact keeps (keepsClosed_similar fun _ => ⟨rfl, rfl, rfl, rfl, rfl⟩)
  | freshVariable => exact keeps keepsClosed_freshVariable
  | blank label => exact keeps (keepsClosed_blank label)
  | blankConstant label => exact keeps (keepsClosed_blankConstant label)
  | prefixedName name => exact keeps (takes_prefixedName complains name).keepsClosed
  | literal label datatype lang =>
      exact keeps (takes_literal complains label datatype lang).keepsClosed
  | number label => exact keeps (takes_number refuses label).keepsClosed
  | call name args =>
      exact keeps (takes_aggregate complains changes_defers_aside name args _ _).keepsClosed
  | aggregate name args distinct separator =>
      exact keeps (takes_aggregate complains changes_defers_aside name args _ _).keepsClosed
  | patternExists id negated => exact keeps (takes_patternExists refuses id negated).keepsClosed
  | pathOperator symbol operand =>
      exact keeps (takes_pathOperator refuses symbol operand).keepsClosed
  | repeated least most operand =>
      exact keeps (takes_repeated refuses least most operand).keepsClosed
  | pathPair symbol left right =>
      exact keeps (takes_pathPair refuses symbol left right).keepsClosed
  | pathPredicate path => exact keeps (keepsClosed_pathPredicate path)
  | triple subject predicate object =>
      exact keeps (keepsClosed_triple (fun e member => written e (List.mem_append_left _ member))
        fun e member => written e (List.mem_append_right _ member))
  | group children => exact keeps (keepsClosed_group (fits.children children rfl))
  | addToGroup id child =>
      rw [Operation.run, Operation.silent, after_map]
      exact closed_addToGroup closed fun children => fits.acyclic id child children rfl
  | union left right => exact keeps (keepsClosed_union left right)
  | optional body | minus body | service _ _ body | graph _ body =>
      exact keeps (keepsClosed_around rfl written (by simp [Pattern.kind]))
  | filter _ | bind _ _ | values _ =>
      exact keeps (keepsClosed_push (List.forall_mem_nil _) written (by simp))
  | subquery sub =>
      apply keeps (keepsClosed_push (List.forall_mem_nil _) namesBelow_nil _)
      intro _ equal
      cases equal
      exact parts sub rfl
  | collection items => exact keeps (keepsClosed_collection written)
  | collectionHead id => exact keeps (takes_collectionHead refuses id).keepsClosed
  | setForm _ | setDataUpdate _ | setSelectAll _ | setDistinct _ | setReduced _ | setLimit _
  | setOffset _ => exact keeps (keepsClosed_modifyClauses fun _ _ => .inl)
  | setBody id | setConstruct id | setInsert id | setDelete id =>
      exact keeps (keepsClosed_setRoot (by grind [Clauses.mem_roots]) fun _ => rfl)
  | select target value => exact keeps (keepsClosed_select target written)
  | describe term =>
      refine keeps (keepsClosed_write (fun clauses => ?_) (fun clauses e member => ?_) written)
      · split <;> rfl
      · rw [Clauses.mem_written] at member ⊢
        grind [Operation.written]
  | groupBy _ | having _ | orderBy _ _ | setValues _ =>
      refine keeps (keepsClosed_write (fun _ => rfl) (fun clauses e member => ?_) written)
      rw [Clauses.mem_written] at member ⊢
      grind [Operation.written]
  | define name params body =>
      exact keeps (keepsClosed_define name params (written body (List.mem_singleton_self body)))
  | normalize => exact absurd rfl building.1
  | check => exact absurd rfl building.2

theorem closed_after {operation : Operation} {query : Query} (fits : operation.Fits query)
    (parts : ∀ sub, operation = .subquery sub → sub.Closed []) (closed : query.Closed outer) :
    (operation.run.after query).Closed outer := by
  by_cases normalizing : operation = .normalize
  · rw [normalizing, Operation.run, Operation.silent, after_map]
    exact closed_normalize closed
  · by_cases checking : operation = .check
    · rw [checking]
      exact ((closed_check outer).map Answer.verdict).after closed
    · have after := closedAs_after fits parts ⟨normalizing, checking⟩ closed
      exact after.closed operation.normalized_after

end Build

/-! ## Runs -/

namespace Query

/-- Queries that are not strict, made from an empty one by operations that fit, with subqueries that
are made so too. An operation that fails is a step as well. -/
inductive Assembled : Query → Prop
  | empty (options : Options) (namespaces : Namespaces) (library : Regex.Library)
      (labelOrder : LabelOrder) (lenient : options.strict = false) :
      Assembled { options, namespaces, library, labelOrder }
  | step {query : Query} (operation : Operation) (before : Assembled query)
      (fits : operation.Fits query)
      (parts : ∀ sub, operation = .subquery sub → Assembled sub) :
      Assembled (operation.run.after query)

namespace Assembled

variable {query : Query}

theorem reachable (assembled : query.Assembled) : query.Reachable := by
  induction assembled with
  | empty options namespaces library labelOrder _ =>
    exact .empty options namespaces library labelOrder
  | step operation _ _ _ before parts => exact .step operation before trivial parts

theorem closed_empty {options : Options} (namespaces : Namespaces)
    (library : Regex.Library) (labelOrder : LabelOrder) (lenient : options.strict = false) :
    Query.Closed [] { options, namespaces, library, labelOrder } := by
  have none (id : PatternId) (p : Pattern Query) : Arena.get? {} id ≠ some p := by
    simp [Arena.get?]
  refine .intro ⟨lenient, ⟨List.forall_mem_nil _, fun id cycle => ?_⟩, List.forall_mem_nil _,
    List.forall_mem_nil _, List.forall_mem_nil _⟩ fun sub part => ?_
  · rcases Relation.TransGen.tail'_iff.mp cycle with ⟨last, _, p, found, _⟩
    exact none last p found
  · rcases part with ⟨id, found⟩
    exact absurd found (none id _)

theorem closed (assembled : query.Assembled) : query.Closed [] := by
  induction assembled with
  | empty options namespaces library labelOrder lenient =>
      exact closed_empty namespaces library labelOrder lenient
  | step operation _ fits _ before parts => exact Build.closed_after fits parts before

/-- However many errors are reported, every pattern that is named is there, the cells of collections
are triples, and neither normalizing nor checking fails. What a query names is there among its own
patterns, until it takes over functions of a query around it that is normalized. -/
theorem closed_and_returns (assembled : query.Assembled) :
    query.Closed [] ∧
      (query.Everywhere (·.normalized = false) → query.Everywhere (·.NamesPatterns [])) ∧
      query.Everywhere fun sub =>
        sub.arena.CellsAreTriples ∧
          (∃ sub', Build.normalize.run sub = .ok () sub') ∧
          ∃ correct sub', Build.check.run sub = .ok correct sub' := by
  have closed := assembled.closed
  have cells := assembled.reachable.cellsAreTriples
  refine ⟨closed, fun new => closed.namesPatterns_of_new new.here new,
    (closed.checkable.nested.and cells.nested).imp fun sub holds => ?_⟩
  rcases holds with ⟨checkable, cells⟩
  rcases Build.exists_run_normalize checkable with ⟨sub', run, _⟩
  rcases (checkable.ready cells).checks checkable.here.lenient with ⟨correct, run', _⟩
  exact ⟨cells.here, ⟨sub', run⟩, correct, _, run'⟩

end Assembled

end Query

namespace Build

def bindingX : Operation := .bind (.const (.iri "a")) (.ofName "x")

def projectingY : Query :=
  (Operation.select (.ofName "y") none).run.after
    ((Operation.setBody 0).run.after (bindingX.run.after {}))

/-- A query with a collection and a test for it, in which a function is called without a definition.
-/
def testingCollection : Query :=
  (Operation.filter
      (.call { name := "exists", operator := .patternExists, pattern := some 2 } [])).run.after
    ((Operation.call "f" []).run.after
      ((Operation.collection [.const (.iri "a")]).run.after {}))

/-- A group of the test and two bindings of the same variable, after a subquery. -/
def bindingTwice : Query :=
  (Operation.group [3, 4, 5]).run.after
    ((Operation.subquery projectingY).run.after
      (bindingX.run.after (bindingX.run.after testingCollection)))

def ailing : Query :=
  (Operation.setBody 7).run.after ((Operation.addToGroup 7 6).run.after bindingTwice)

theorem fits_bindingX (query : Query) : bindingX.Fits query where
  written := namesBelow_cons.mpr ⟨List.forall_mem_nil _, namesBelow_nil⟩
  children := by simp [bindingX]
  acyclic := by simp [bindingX]

theorem assembled_projectingY : projectingY.Assembled := by
  have bound : Query.Assembled (bindingX.run.after {}) :=
    .step _ (.empty _ _ _ _ rfl) (fits_bindingX _) (by simp [bindingX])
  have matching := bound.step (.setBody 0) ⟨namesBelow_nil, by simp, by simp⟩ (by simp)
  exact matching.step _ ⟨namesBelow_nil, by simp, by simp⟩ (by simp)

theorem assembled_testingCollection : testingCollection.Assembled := by
  have items : NamesBelow 0 [.const (.iri "a")] :=
    namesBelow_cons.mpr ⟨List.forall_mem_nil _, namesBelow_nil⟩
  have collected : Query.Assembled ((Operation.collection [.const (.iri "a")]).run.after {}) :=
    .step _ (.empty _ _ _ _ rfl) ⟨items, by simp, by simp⟩ (by simp)
  have called := collected.step (.call "f" []) ⟨namesBelow_nil, by simp, by simp⟩ (by simp)
  refine called.step _ ⟨namesBelow_cons.mpr ⟨?_, namesBelow_nil⟩, by simp, by simp⟩ (by simp)
  decide

theorem assembled_bindingTwice : bindingTwice.Assembled := by
  have once := assembled_testingCollection.step bindingX (fits_bindingX _) (by simp [bindingX])
  have twice := once.step bindingX (fits_bindingX _) (by simp [bindingX])
  have part (sub : Query) (equal : Operation.subquery projectingY = .subquery sub) :
      sub.Assembled := by
    cases equal
    exact assembled_projectingY
  have nesting := twice.step (.subquery projectingY) ⟨namesBelow_nil, by simp, by simp⟩ part
  refine nesting.step _ ⟨namesBelow_nil, fun children equal => ?_, by simp⟩ (by simp)
  cases equal
  decide

theorem assembled_ailing : ailing.Assembled := by
  have apart : ¬ bindingTwice.arena.Reaches 6 7 := by
    intro reaches
    rcases reaches.cases_head with same | ⟨next, ⟨p, found, member⟩, _⟩
    · cases same
    · cases found
      cases member
  have fits : (Operation.addToGroup 7 6).Fits bindingTwice := by
    refine ⟨namesBelow_nil, by simp, fun id child children equal _ => ?_⟩
    cases equal
    exact apart
  have joined := assembled_bindingTwice.step _ fits (by simp)
  exact joined.step _ ⟨namesBelow_nil, by simp, by simp⟩ (by simp)

theorem ailing_closed_and_returns :
    ailing.Assembled ∧
      (ailing.Closed [] ∧
        (ailing.Everywhere (·.normalized = false) → ailing.Everywhere (·.NamesPatterns [])) ∧
        ailing.Everywhere fun sub =>
          sub.arena.CellsAreTriples ∧
            (∃ sub', normalize.run sub = .ok () sub') ∧
            ∃ correct sub', check.run sub = .ok correct sub') ∧
      (check.after (normalize.after ailing)).log.entries.map (·.code) =
        [.undefinedFunction, .bindScope, .unboundSelectVariable] :=
  ⟨assembled_ailing, assembled_ailing.closed_and_returns, by decide +kernel⟩

/-! A function may test a pattern of the query that defines it. -/

def callingF : Query :=
  (Operation.filter (.call { name := "f", operator := .undefined } [])).run.after
    ((Operation.call "f" []).run.after {})

def testsSecond : Operation :=
  .define "f" [] (.call { name := "exists", operator := .patternExists, pattern := some 1 } [])

def definingF : Query :=
  testsSecond.run.after ((Operation.group []).run.after ((Operation.group []).run.after {}))

def handingDown : Query := (Operation.subquery callingF).run.after definingF

theorem assembled_callingF : callingF.Assembled := by
  have called : Query.Assembled ((Operation.call "f" []).run.after {}) :=
    .step _ (.empty _ _ _ _ rfl) ⟨namesBelow_nil, by simp, by simp⟩ (by simp)
  exact called.step _
    ⟨namesBelow_cons.mpr ⟨by simp [Expr.patterns, Expr.patternsOf], namesBelow_nil⟩,
    by simp, by simp⟩ (by simp)

theorem assembled_definingF : definingF.Assembled := by
  have grouped : Query.Assembled ((Operation.group []).run.after {}) :=
    .step _ (.empty _ _ _ _ rfl) ⟨namesBelow_nil, by simp, by simp⟩ (by simp)
  have again := grouped.step (.group []) ⟨namesBelow_nil, by simp, by simp⟩ (by simp)
  refine again.step _ ⟨namesBelow_cons.mpr ⟨?_, namesBelow_nil⟩, by simp [testsSecond],
    by simp [testsSecond]⟩ (by simp [testsSecond])
  decide

/-- Normalizing hands the function down to a query that has no such pattern. -/
theorem handingDown_unallocated :
    handingDown.Assembled ∧ ∃ sub ∈ (normalize.after handingDown).subqueries,
      ∃ definition ∈ sub.functions.definitions, ∃ id ∈ definition.2.body.patterns,
        sub.arena.get? id = none := by
  have part (sub : Query) (equal : Operation.subquery callingF = .subquery sub) :
      sub.Assembled := by
    cases equal
    exact assembled_callingF
  have assembled : handingDown.Assembled :=
    assembled_definingF.step _ ⟨namesBelow_nil, by simp, by simp⟩ part
  exact ⟨assembled, by decide +kernel⟩

end Build

end Sparql
