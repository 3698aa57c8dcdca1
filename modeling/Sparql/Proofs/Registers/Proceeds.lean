import Sparql.Proofs.Calls.Kept
import Sparql.Proofs.Changes

/-!
How triples come into a query: one at a time, each with its number and its entries in the registers
at once. Whatever else is done to a query leaves its triples, their numbers and the registers as
they are, and a normalized query stays one. `Proceeds` says this of an operation.
-/

namespace Sparql

/-! ## Triples in their places -/

namespace Arena

def slots (arena : Arena Query) : List (Option Triple) := arena.patterns.map Pattern.triple?

@[simp] theorem length_slots (arena : Arena Query) : arena.slots.length = arena.size :=
  List.length_map ..

@[simp] theorem slots_push (arena : Arena Query) (p : Pattern Query) :
    (arena.push p).slots = arena.slots ++ [p.triple?] := by
  simp [slots, push]

theorem slots_set {arena : Arena Query} {id : PatternId} {p p' : Pattern Query}
    (found : arena.get? id = some p) (same : p'.triple? = p.triple?) :
    (arena.set id p').slots = arena.slots :=
  Arena.map_set found same

end Arena

namespace Query

def withTriple (query : Query) (subject predicate object : Expr) (path : Option Path.Plan) :
    Query :=
  let triple : Triple := { number := query.supply.triples, subject, predicate, object, path }
  { query with
    arena := query.arena.push (.triple triple)
    supply.triples := query.supply.triples + 1
    registers :=
      if query.registers.submitting then query.registers.submit query.arena.size triple
      else query.registers }

/-- Neither patterns nor registers differ, and a normalized query stays one. -/
structure Aside (query query' : Query) : Prop where
  arena : query'.arena = query.arena
  registers : query'.registers = query.registers
  triples : query'.supply.triples = query.supply.triples
  normalized : query.normalized = true → query'.normalized = true

/-- The query comes to the other by triples, made one at a time, and by what does not touch triples
and registers, with subqueries of some kind put in. -/
inductive ProceedsTo (may : Query → Prop) : Query → Query → Prop
  | aside {query query' : Query} (aside : Aside query query') : ProceedsTo may query query'
  | trans {first second third : Query} (before : ProceedsTo may first second)
      (after : ProceedsTo may second third) : ProceedsTo may first third
  | triple (query : Query) (subject predicate object : Expr) (path : Option Path.Plan) :
      ProceedsTo may query (query.withTriple subject predicate object path)
  | push (query : Query) (p : Pattern Query) (other : p.triple? = none)
      (part : ∀ sub, p = .subquery sub → may sub) :
      ProceedsTo may query { query with arena := query.arena.push p }
  | rewrite (query : Query) (arena : Arena Query) (slots : arena.slots = query.arena.slots)
      (parts : ∀ sub : Query, sub.IsPartOf { query with arena } → sub.IsPartOf query) :
      ProceedsTo may query { query with arena }
  | part (query : Query) {id : PatternId} {sub sub' : Query}
      (found : query.arena.get? id = some (.subquery sub)) (inner : ProceedsTo may sub sub') :
      ProceedsTo may query { query with arena := query.arena.set id (.subquery sub') }

variable {may : Query → Prop} {query query' : Query}

theorem ProceedsTo.refl (query : Query) : query.ProceedsTo may query :=
  .aside ⟨rfl, rfl, rfl, id⟩

theorem ProceedsTo.normalized (proceeds : query.ProceedsTo may query') :
    query.normalized = true → query'.normalized = true := by
  induction proceeds with
  | aside aside => exact aside.normalized
  | trans _ _ first second => exact second ∘ first
  | _ => exact id

end Query

namespace Build

/-- Since the query was as it was at the start, triples were made and nothing else was done to the
triples of the query. -/
abbrev Proceeds {α : Type} (may : Query → Prop) (start : Query) (x : Build α) : Prop :=
  Preserves (start.ProceedsTo may) (fun _ => start.ProceedsTo may) x

variable {α : Type} {may : Query → Prop} {start : Query}

/-! ## Single steps -/

theorem proceeds_modify {change : Query → Query}
    (aside : ∀ query : Query, query.Aside (change query)) :
    Proceeds may start (modify change) :=
  preserves_modify fun query proceeds => proceeds.trans (.aside (aside query))

theorem proceeds_modifyClauses (change : Clauses → Clauses) :
    Proceeds may start (modifyClauses change) :=
  proceeds_modify fun _ => ⟨rfl, rfl, rfl, id⟩

theorem proceeds_throw (failure : Failure) : Proceeds may start (throw failure : Build α) :=
  preserves_throw fun _ => id

theorem proceeds_inspect (look : Arena Query → Except Failure α) :
    Proceeds may start (inspect look) :=
  preserves_inspect fun _ _ proceeds _ => proceeds

theorem proceeds_report (diagnostic : Diagnostic) : Proceeds may start (report diagnostic) := by
  intro query proceeds
  have reported : start.ProceedsTo may { query with log := query.log.add diagnostic } :=
    proceeds.trans (.aside ⟨rfl, rfl, rfl, id⟩)
  rw [ends_report]
  split <;> exact reported

theorem proceeds_ite {condition : Prop} [Decidable condition] {x y : Build α}
    (yes : Proceeds may start x) (no : Proceeds may start y) :
    Proceeds may start (if condition then x else y) := by
  split
  · exact yes
  · exact no

theorem proceeds_known (id : PatternId) : Proceeds may start (known id) :=
  (proceeds_inspect _).discard

def Steps.untold : Steps := ⟨Query.Aside, fun _ => True, fun _ => True⟩

theorem Takes.proceeds {x : Build α} (takes : Takes .untold x) : Proceeds may start x :=
  takes.preserves (fun _ _ aside _ proceeds => proceeds.trans (.aside aside))
    fun _ _ proceeds => proceeds.trans (.aside ⟨rfl, rfl, rfl, id⟩)

theorem proceeds_push {p : Pattern Query} (other : p.triple? = none)
    (part : ∀ sub, p = .subquery sub → may sub) : Proceeds may start (push p) :=
  fun query proceeds => proceeds.trans (.push query p other part)

/-! ## Terms and calls -/

theorem complains_untold : Steps.untold.Complains := fun _ _ => trivial

theorem refuses_untold : Steps.untold.Refuses := fun _ _ => trivial

theorem proceeds_freshVariable : Proceeds may start freshVariable :=
  preserves_get_bind fun _ proceeds => proceeds.trans (.aside ⟨rfl, rfl, rfl, id⟩)

theorem proceeds_freshLabel : Proceeds may start freshLabel :=
  preserves_get_bind fun _ proceeds => proceeds.trans (.aside ⟨rfl, rfl, rfl, id⟩)

theorem proceeds_blank (label : Option String) : Proceeds may start (blank label) := by
  cases label with
  | some label => exact preserves_pure _
  | none => exact proceeds_freshLabel.bind fun _ => preserves_pure _

theorem proceeds_blankConstant (label : Option String) :
    Proceeds may start (blankConstant label) := by
  cases label with
  | some label => exact preserves_pure _
  | none => exact proceeds_freshLabel.bind fun _ => preserves_pure _

theorem proceeds_pathPredicate (path : Expr) : Proceeds may start (pathPredicate path) :=
  preserves_get_bind fun _ proceeds => proceeds.trans (.aside ⟨rfl, rfl, rfl, id⟩)

theorem proceeds_aggregate (name : String) (args : List Expr) (distinct : Bool)
    (separator : Option String) : Proceeds may start (aggregate name args distinct separator) := by
  apply Takes.proceeds
  apply takes_aggregate complains_untold
  intro query query' defers
  rcases defers with ⟨key, count, rfl⟩
  exact ⟨rfl, rfl, rfl, id⟩

theorem proceeds_define (name : String) (params : List Variable) (body : Expr) :
    Proceeds may start (define name params body) := by
  apply (takes_calledName complains_untold name).proceeds.bind
  intro _
  exact proceeds_modify fun _ => ⟨rfl, rfl, rfl, id⟩

/-! ## Triples -/

theorem run_placeTriple (subject predicate object : Expr) (path : Option Path.Plan)
    (query : Query) :
    (placeTriple subject predicate object path).run query =
      .ok query.arena.size (query.withTriple subject predicate object path) := by
  rw [Query.withTriple]
  simp only [placeTriple, push, EStateM.run_bind, EStateM.run_get, EStateM.run_modify,
    EStateM.run_pure]
  split <;> rfl

theorem proceeds_triple (subject : Expr) (predicate : Predicate) (object : Expr) :
    Proceeds may start (triple subject predicate object) := by
  rw [triple_eq]
  apply (takes_planned complains_untold predicate.path).proceeds.bind
  intro path query proceeds
  exact .of_run_ok (run_placeTriple subject predicate.node object path query)
    (proceeds.trans (.triple query subject predicate.node object path))

/-! ## Groups and other patterns -/

theorem proceeds_group (children : List PatternId) : Proceeds may start (group children) :=
  proceeds_push rfl nofun

theorem proceeds_union (left right : PatternId) : Proceeds may start (union left right) :=
  (proceeds_known left).bind fun _ => (proceeds_known right).bind fun _ => proceeds_push rfl nofun

theorem proceeds_around (id : PatternId) {p : Pattern Query} (other : p.triple? = none)
    (plain : ∀ sub, p ≠ .subquery sub) : Proceeds may start (do known id; push p) :=
  (proceeds_known id).bind fun _ =>
    proceeds_push other fun sub equal => absurd equal (plain sub)

theorem proceeds_optional (body : PatternId) : Proceeds may start (optional body) :=
  proceeds_around body rfl nofun

theorem proceeds_addToGroup (id child : PatternId) : Proceeds may start (addToGroup id child) := by
  apply (proceeds_known child).bind
  intro _ query proceeds
  rw [ends_bind, ends_inspect]
  split
  · next children grouped =>
      have found := Arena.group_eq_ok.mp grouped
      refine proceeds.trans (.rewrite query _ ?_ fun sub part => ?_)
      · exact Arena.slots_set found rfl
      · exact (Query.isPartOf_set found part).resolve_left nofun
  · exact proceeds

theorem proceeds_cell (node item next : Expr) : Proceeds may start (cell node item next) := by
  apply (proceeds_triple node _ item).bind
  intro first
  exact (proceeds_triple node _ next).bind fun rest => preserves_pure _

theorem proceeds_cells (pairs : List (Expr × Expr)) : Proceeds may start (cells pairs) := by
  induction pairs with
  | nil => exact preserves_pure _
  | cons pair rest induction =>
      apply (proceeds_cell _ _ _).bind
      intro first
      exact induction.bind fun others => preserves_pure _

theorem proceeds_collection (items : List Expr) : Proceeds may start (collection items) := by
  apply Preserves.bind
  · exact preserves_mapM fun _ _ => (proceeds_blank none).bind fun _ => preserves_pure _
  · exact fun nodes => (proceeds_cells _).bind fun ids => proceeds_push rfl nofun

end Build

end Sparql
