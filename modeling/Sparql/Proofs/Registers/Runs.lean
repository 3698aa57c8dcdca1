import Sparql.Proofs.Lockstep
import Sparql.Proofs.Registers.Agree
import Sparql.Proofs.Registers.Operations

/-!
The registers tell of the triples of a query, whatever was done to it. All triples are numbered in
the order of their places, and those in the registers are the ones that were made while triples were
submitted: `Script.registers_agree`.
-/

namespace Sparql

/-! ## Queries -/

namespace Query

/-- The triples are numbered in their order, and the registers agree with them. -/
structure Registered (query : Query) : Prop where
  numbers : query.arena.triples.map (·.number) = List.range query.supply.triples
  agree : query.registers.Agree query.arena

/-- The places of the triples that the other query has after all places of this one. -/
def added (query query' : Query) : List PatternId :=
  query'.arena.tripleIds.filter (query.arena.size ≤ ·)

variable {may : Query → Prop} {query query' : Query}

theorem Registered.congr (registered : query.Registered)
    (slots : query'.arena.slots = query.arena.slots)
    (registers : query'.registers = query.registers)
    (supply : query'.supply.triples = query.supply.triples) : query'.Registered where
  numbers := by
    rw [Arena.triples_eq, slots, ← Arena.triples_eq, registered.numbers, supply]
  agree := by
    rw [registers]
    exact registered.agree.congr slots

theorem Registered.withTriple (registered : query.Registered) (subject predicate object : Expr)
    (path : Option Path.Plan) : (query.withTriple subject predicate object path).Registered where
  numbers := by
    rw [Arena.triples_eq, Query.withTriple, Arena.slots_push, List.filterMap_append,
      ← Arena.triples_eq, List.map_append, registered.numbers, List.range_succ]
    rfl
  agree := by
    rw [Query.withTriple]
    dsimp only
    split
    · exact registered.agree.submit _
    · exact registered.agree.push _

theorem ProceedsTo.registered (proceeds : query.ProceedsTo may query')
    (registered : query.Registered) : query'.Registered := by
  induction proceeds with
  | aside aside =>
      exact registered.congr (congrArg Arena.slots aside.arena) aside.registers aside.triples
  | trans _ _ first second => exact second (first registered)
  | triple query subject predicate object path =>
      exact registered.withTriple subject predicate object path
  | push query p other _ =>
      refine ⟨?_, registered.agree.push p⟩
      rw [Arena.triples_eq, Arena.slots_push, List.filterMap_append, ← Arena.triples_eq, other]
      simpa using registered.numbers
  | rewrite query arena slots _ => exact registered.congr slots rfl rfl
  | part query found _ _ => exact registered.congr (Arena.slots_set found rfl) rfl rfl

/-- There are further triples, which are in the registers if triples are submitted. -/
structure GainsTriples (query : Query) (ids : List PatternId) (query' : Query) : Prop where
  size : query.arena.size ≤ query'.arena.size
  tripleIds : query'.arena.tripleIds = query.arena.tripleIds ++ ids
  later : ∀ id ∈ ids, query.arena.size ≤ id
  submitting : query'.registers.submitting = query.registers.submitting
  triples : query'.registers.triples =
    query.registers.triples ++ if query.registers.submitting then ids else []

namespace GainsTriples

variable {ids ids' : List PatternId} {query'' : Query}

theorem added_eq (gains : query.GainsTriples ids query') : query.added query' = ids := by
  have before : query.arena.tripleIds.filter (query.arena.size ≤ ·) = [] := by
    apply List.filter_eq_nil_iff.mpr
    intro id member
    simpa using (Arena.mem_tripleIds.mp member).1
  rw [added, gains.tripleIds, List.filter_append, before, List.nil_append, List.filter_eq_self]
  simpa using gains.later

theorem of_slots (slots : query'.arena.slots = query.arena.slots)
    (registers : query'.registers = query.registers) : query.GainsTriples [] query' where
  size := by rw [← Arena.length_slots, ← Arena.length_slots, slots]
  tripleIds := by rw [Arena.tripleIds_congr slots, List.append_nil]
  later := by simp
  submitting := by rw [registers]
  triples := by simp [registers]

theorem trans (before : query.GainsTriples ids query') (after : query'.GainsTriples ids' query'') :
    query.GainsTriples (ids ++ ids') query'' where
  size := before.size.trans after.size
  tripleIds := by rw [after.tripleIds, before.tripleIds, List.append_assoc]
  later := List.forall_mem_append.mpr
    ⟨before.later, fun id member => before.size.trans (after.later id member)⟩
  submitting := after.submitting.trans before.submitting
  triples := by
    rw [after.triples, before.triples, before.submitting]
    split <;> simp

theorem withTriple (query : Query) (subject predicate object : Expr) (path : Option Path.Plan) :
    query.GainsTriples [query.arena.size] (query.withTriple subject predicate object path) where
  size := by simp [Query.withTriple]
  tripleIds := Arena.tripleIds_push query.arena _
  later := by simp
  submitting := by
    rw [Query.withTriple]
    dsimp only
    split <;> simp
  triples := by
    rw [Query.withTriple]
    dsimp only
    split <;> simp

end GainsTriples

theorem ProceedsTo.exists_gains (proceeds : query.ProceedsTo may query') :
    ∃ ids, query.GainsTriples ids query' := by
  induction proceeds with
  | aside aside => exact ⟨[], .of_slots (congrArg Arena.slots aside.arena) aside.registers⟩
  | trans _ _ first second =>
      rcases first with ⟨ids, before⟩
      rcases second with ⟨ids', after⟩
      exact ⟨ids ++ ids', before.trans after⟩
  | triple query subject predicate object path =>
      exact ⟨_, .withTriple query subject predicate object path⟩
  | push query p other _ =>
      refine ⟨[], by simp, ?_, by simp, rfl, by simp⟩
      rw [Arena.tripleIds_push, other]
      rfl
  | rewrite query arena slots _ => exact ⟨[], .of_slots slots rfl⟩
  | part query found _ _ => exact ⟨[], .of_slots (Arena.slots_set found rfl) rfl⟩

/-! ## Trees of queries -/

theorem ProceedsTo.everywhere {property : Query → Prop}
    (keeps : ∀ query query' : Query, query.ProceedsTo may query' → property query →
      property query')
    (new : ∀ sub, may sub → sub.Everywhere property)
    (proceeds : query.ProceedsTo may query') (holds : query.Everywhere property) :
    query'.Everywhere property := by
  induction proceeds with
  | aside aside =>
      refine .intro (keeps _ _ (.aside aside) holds.here) fun sub part => holds.part ?_
      rwa [IsPartOf, aside.arena] at part
  | trans _ _ first second => exact second (first holds)
  | triple query subject predicate object path =>
      refine .intro (keeps _ _ (.triple ..) holds.here) fun sub part => holds.part ?_
      exact (@isPartOf_push query _ _ part).resolve_left (by simp)
  | push query p other part =>
      refine .intro (keeps _ _ (.push query p other part) holds.here) fun sub isPart => ?_
      rcases isPartOf_push isPart with equal | isPart
      · exact new sub (part sub equal)
      · exact holds.part isPart
  | rewrite query arena slots parts =>
      refine .intro (keeps _ _ (.rewrite query arena slots parts) holds.here) fun sub part => ?_
      exact holds.part (parts sub part)
  | part query found inner induction =>
      refine .intro (keeps _ _ (.part query found inner) holds.here) fun sub part => ?_
      rcases isPartOf_set found part with equal | part
      · cases equal
        exact induction (holds.part ⟨_, found⟩)
      · exact holds.part part

end Query

/-! ## Operations -/

namespace Operation

theorem toggles_or_proceeds {may : Query → Prop} (operation : Operation)
    (part : ∀ sub, operation = .subquery sub → may sub) (query : Query) :
    (∃ submitting, operation.run.after query =
        { query with registers.submitting := submitting }) ∨
      query.ProceedsTo may (operation.run.after query) := by
  by_cases toggles : ∃ submitting, operation = .setSubmitting submitting
  · rcases toggles with ⟨submitting, rfl⟩
    exact .inl ⟨submitting, rfl⟩
  · exact .inr (proceedsTo_after (not_exists.mp toggles) part query)

theorem toggles_or_proceeds_any (operation : Operation) (query : Query) :
    (∃ submitting, operation.run.after query =
        { query with registers.submitting := submitting }) ∨
      query.ProceedsTo (fun _ => True) (operation.run.after query) :=
  operation.toggles_or_proceeds (fun _ _ => trivial) query

theorem registered_after (operation : Operation) {query : Query} (registered : query.Registered) :
    (operation.run.after query).Registered := by
  rcases operation.toggles_or_proceeds_any query with ⟨submitting, equal⟩ | proceeds
  · have agree := registered.agree
    rw [equal]
    exact ⟨registered.numbers, agree.triples, agree.paths, agree.predicates⟩
  · exact proceeds.registered registered

/-- What an operation enters in the register of triples are the triples that it makes, if triples
are submitted when it begins. -/
theorem triples_after (operation : Operation) (query : Query) :
    (operation.run.after query).registers.triples = query.registers.triples ++
      if query.registers.submitting then query.added (operation.run.after query) else [] := by
  rcases operation.toggles_or_proceeds_any query with ⟨submitting, equal⟩ | proceeds
  · have gains : query.GainsTriples [] query := .of_slots rfl rfl
    have none : query.added { query with registers.submitting := submitting } = [] :=
      gains.added_eq
    rw [equal, none, ite_self, List.append_nil]
  · rcases proceeds.exists_gains with ⟨ids, gains⟩
    rw [gains.added_eq, gains.triples]

theorem normalized_after (operation : Operation) {query : Query}
    (normalized : query.normalized = true) :
    (operation.run.after query).normalized = true := by
  rcases operation.toggles_or_proceeds_any query with ⟨submitting, equal⟩ | proceeds
  · rw [equal]
    exact normalized
  · exact proceeds.normalized normalized

end Operation

/-! ## Runs -/

theorem Query.registered_empty (options : Options) (namespaces : Namespaces)
    (library : Regex.Library) (labelOrder : LabelOrder) :
    ({ options, namespaces, library, labelOrder } : Query).Registered :=
  ⟨rfl, .slnil, rfl, rfl⟩

theorem Query.Reachable.registered {query : Query} (reachable : query.Reachable) :
    query.Everywhere Registered := by
  induction reachable with
  | empty options namespaces library labelOrder =>
      exact .alone (registered_empty options namespaces library labelOrder) rfl
  | @step query operation _ _ _ before parts =>
      have here := operation.registered_after before.here
      rcases operation.toggles_or_proceeds parts query with ⟨submitting, equal⟩ | proceeds
      -- The switch is no step that proceeds, but it leaves the subqueries as they are.
      · rw [equal] at here ⊢
        exact .intro here fun _ part => before.part part
      · exact proceeds.everywhere (fun _ _ proceeds => proceeds.registered) (fun _ => id) before

theorem Build.outcome_snd {α : Type} (x : Build α) (query : Query) :
    (x.outcome query).2 = x.after query := by
  rw [outcome, after]
  cases x.run query <;> rfl

namespace Script

def submitted : Script → List Outcome → Query → List PatternId
  | [], _, _ => []
  | operation :: rest, known, query =>
    let (outcome, query') := (operation known).run.outcome query
    (if query.registers.submitting then query.added query' else []) ++
      submitted rest (known ++ [outcome]) query'

theorem play_keeps {property : Query → Prop}
    (keeps : ∀ (operation : Operation) (query : Query), property query →
      property (operation.run.after query))
    (script : Script) (known : List Outcome) {query : Query} (holds : property query) :
    property (script.play known query).2 := by
  induction script generalizing known query with
  | nil => exact holds
  | cons operation rest induction =>
      have first := keeps (operation known) query holds
      rw [← Build.outcome_snd] at first
      exact induction _ first

theorem triples_play (script : Script) (known : List Outcome) (query : Query) :
    (script.play known query).2.registers.triples =
      query.registers.triples ++ script.submitted known query := by
  induction script generalizing known query with
  | nil => exact (List.append_nil _).symm
  | cons operation rest induction =>
      have first := (operation known).triples_after query
      rw [← Build.outcome_snd] at first
      have onward := induction (known ++ [((operation known).run.outcome query).1])
        ((operation known).run.outcome query).2
      rw [first, List.append_assoc] at onward
      exact onward

/-- Whatever is done to an empty query, and whether or not operations fail, its triples are numbered
from zero in the order of their places. The register of triples holds the places, in ascending
order, of just those that were made while triples were submitted. Of these, the register of paths
holds the ones with a path, and the register of predicates the constants that are predicates of the
others, each where it occurs first. All of this holds of subqueries too. -/
theorem registers_agree (script : Script) (options : Options) (namespaces : Namespaces)
    (library : Regex.Library) (labelOrder : LabelOrder) :
    let start : Query := { options, namespaces, library, labelOrder }
    let query := (script.play [] start).2
    query.arena.triples.map (·.number) = List.range query.supply.triples ∧
      query.registers.triples = script.submitted [] start ∧
      query.registers.triples.Pairwise (· < ·) ∧
      (∀ id ∈ query.registers.triples, ∃ t, query.arena.get? id = some (.triple t)) ∧
      query.registers.paths =
        query.registers.triples.filter (fun id => (query.arena.tripleAt id).any Triple.isPath) ∧
      query.registers.predicates =
        (query.registers.triples.filterMap query.arena.plainPredicate?).eraseDups ∧
      (query.Reachable → query.Everywhere Query.Registered) := by
  intro start query
  have registered : query.Registered :=
    script.play_keeps (fun operation _ => operation.registered_after) []
      (Query.registered_empty options namespaces library labelOrder)
  have agree := registered.agree
  refine ⟨registered.numbers, script.triples_play [] start, ?_, fun id member => ?_, agree.paths,
    agree.predicates, Query.Reachable.registered⟩
  · exact query.arena.pairwise_tripleIds.sublist agree.triples
  · have isTriple := (Arena.mem_tripleIds.mp (agree.triples.subset member)).2
    rcases Option.isSome_iff_exists.mp isTriple with ⟨t, here⟩
    exact ⟨t, Arena.tripleAt_eq_some.mp here⟩

/-- Of three triples, the second is made while none are submitted, and the third has a path. -/
example :
    let x : Expr := .var (.ofName "x")
    let p : Expr := .const (.iri "http://example.org/p")
    let path : Expr := .call { name := "*", operator := .star } [p]
    let script : Script :=
      [fun _ => .triple x { node := p } x, fun _ => .setSubmitting false,
        fun _ => .triple x { node := p } x, fun _ => .setSubmitting true,
        fun _ => .triple x { node := .var (.ofName "y"), path := some path } x]
    let query := (script.play [] {}).2
    query.registers.triples = [0, 2] ∧ query.registers.paths = [2] ∧
      query.registers.predicates = [.iri "http://example.org/p"] := by
  decide +kernel

end Script

end Sparql
