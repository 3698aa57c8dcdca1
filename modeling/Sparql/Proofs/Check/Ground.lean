import Sparql.Proofs.Bindable.Projected
import Sparql.Proofs.Check.Correct
import Sparql.Proofs.Pattern.Gathered

/-!
What a correct check says of ground data. The nodes of the triples below the template are asked one
by one, and a report makes the query incorrect for good, so that they are ground where the check
finds the query correct. The names of graphs, the endpoints of services and what is inside of calls
are not asked about: `groundBelow_of_check`.
-/

namespace Sparql

/-! ## Ground terms -/

namespace Expr

mutual
/-- No variable occurs in the expression but blank nodes, and no blank node if data is deleted. -/
def isGround (dataUpdate : DataUpdate) : Expr → Bool
  | var v => v.blank && dataUpdate != .deletion
  | const c => !(c.isBlank && dataUpdate == .deletion)
  | call _ args => allGround dataUpdate args

def allGround (dataUpdate : DataUpdate) : List Expr → Bool
  | [] => true
  | e :: rest => e.isGround dataUpdate && allGround dataUpdate rest
end

end Expr

namespace Pattern

variable {Sub : Type}

/-- The terms of a pattern itself: the nodes of a triple, the name of a graph, the endpoint of a
service. -/
def terms : Pattern Sub → List Expr
  | triple t => t.nodes
  | service endpoint _ _ => [endpoint]
  | graph name _ => [name]
  | _ => []

def asked : Pattern Sub → List Expr
  | triple t => t.nodes.filter (·.call?.isNone)
  | _ => []

def unasked : Pattern Sub → List Expr
  | triple t => t.nodes.filter (·.call?.isSome)
  | p => p.terms

theorem mem_terms (p : Pattern Sub) (e : Expr) : e ∈ p.terms ↔ e ∈ p.asked ∨ e ∈ p.unasked := by
  cases p with
  | triple t =>
      rw [terms, asked, unasked, List.mem_filter, List.mem_filter, ← and_or_left]
      cases e.call? <;> simp
  | _ => simp [terms, asked, unasked]

end Pattern

/-- Such terms of the pattern, and of all patterns that it contains, are ground. -/
def Arena.GroundBelow (arena : Arena Query) (dataUpdate : DataUpdate)
    (terms : Pattern Query → List Expr) (root : PatternId) : Prop :=
  ∀ id p, arena.Contains root id → arena.get? id = some p →
    ∀ term ∈ terms p, term.isGround dataUpdate = true

namespace Build

variable {query : Query}

/-! ## Ground data -/

theorem ends_vouches_checkGroundNode (dataUpdate : DataUpdate) (context : String) (node : Expr)
    (query : Query) :
    Ends (checkGroundNode dataUpdate context node) query
      (fun _ query' => query'.arena = query.arena ∧
        query.Vouches (node.call? = none → node.isGround dataUpdate = true) query')
      fun _ _ => True := by
  rw [checkGroundNode]
  split
  · next blank =>
      split
      · exact ends_vouches_problem rfl _ query
      · next kept =>
          refine ⟨rfl, .of_log rfl fun leaf => ?_⟩
          cases node with
          | call head args => cases leaf
          | var v => exact (Bool.and_eq_true _ _).mpr ⟨blank, by simp [kept]⟩
          | const c => simp [Expr.isGround, kept]
  · next other =>
      cases node with
      | var v => exact ends_vouches_problem rfl _ query
      | const c =>
          have other : c.isBlank = false := Bool.eq_false_iff.mpr other
          exact ⟨rfl, .of_log rfl fun _ => by simp [Expr.isGround, other]⟩
      | call head args => exact ⟨rfl, .of_log rfl (by simp [Expr.call?])⟩

theorem ends_vouches_checkGroundTriple {arena : Arena Query} (same : query.arena = arena)
    (dataUpdate : DataUpdate) (context : String) (id : PatternId) :
    Ends (do (← inspect (·.triple id)).nodes.forM (checkGroundNode dataUpdate context)) query
      (fun _ query' => query'.arena = arena ∧
        query.Vouches (∀ t, arena.get? id = some (.triple t) →
          ∀ node ∈ t.nodes, node.call? = none → node.isGround dataUpdate = true) query')
      fun _ _ => True := by
  subst same
  rw [ends_bind, ends_inspect]
  split
  · next t looked =>
      have each (node : Expr) (_ : node ∈ t.nodes) (between : Query)
          (same : between.arena = query.arena) :
          Ends (checkGroundNode dataUpdate context node) between
            (fun _ query' => query'.arena = query.arena ∧
              between.Vouches (node.call? = none → node.isGround dataUpdate = true) query')
            fun _ _ => True := by
        rw [← same]
        exact ends_vouches_checkGroundNode dataUpdate context node between
      apply (ends_vouches_forM each rfl).imp _ fun _ _ failed => failed
      rintro _ _ ⟨same, vouches⟩
      refine ⟨same, vouches.imp fun nodes t' found => ?_⟩
      cases found.symm.trans (Arena.triple_eq_ok.mp looked)
      exact nodes
  · trivial

theorem ends_vouches_checkGroundData {root : PatternId} {context : String}
    (template : groundTemplate? query.clauses = some (root, context)) :
    Ends checkGroundData query
      (fun _ => query.Vouches
        (query.arena.GroundBelow query.clauses.dataUpdate Pattern.asked root))
      fun _ _ => True := by
  rw [checkGroundData, ends_bind, ends_get]
  dsimp only
  rw [template]
  dsimp only
  rw [ends_bind, ends_inspect]
  split
  · next ids collected =>
      have gathers := Arena.gathers_of_triplesBelow collected
      apply (ends_vouches_forM (fun id _ between same =>
        ends_vouches_checkGroundTriple same _ context id) rfl).imp _ fun _ _ => id
      rintro _ _ ⟨_, vouches⟩
      refine vouches.imp fun triples id p contains found term member => ?_
      cases p with
      | triple t =>
          have listed : id ∈ ids :=
            gathers.mem_iff.mpr ⟨root, List.mem_singleton_self root, contains, t, found⟩
          rcases List.mem_filter.mp member with ⟨node, leaf⟩
          exact triples id listed t found term node (Option.isNone_iff_eq_none.mp leaf)
      | _ => cases member
  · trivial

theorem groundBelow_of_midway {start query : Query} {done : Set PatternId}
    (midway : start.Midway done query) {dataUpdate : DataUpdate} {root : PatternId}
    (ground : query.arena.GroundBelow dataUpdate Pattern.asked root) :
    start.arena.GroundBelow dataUpdate Pattern.asked root := by
  intro id p contains found term member
  have contains : query.arena.Contains root id := by
    -- Only patterns that are no subqueries contain others, and these are where they were.
    refine Relation.ReflTransGen.mono (fun id child refers => ?_) _ _ contains
    rcases refers with ⟨p, found, member⟩
    refine ⟨p, midway.get?_plain found ?_, member⟩
    cases p <;> first | rfl | cases member
  cases p with
  | triple t => exact ground id _ contains (midway.get?_plain found rfl) term member
  | _ => cases member

/-- Where a first check finds a query of ground data correct, all nodes of triples in its template
that are no calls are ground. So all of the template is ground exactly if the names of graphs, the
endpoints of services and the calls among the nodes are. -/
theorem groundBelow_of_check {root : PatternId} {context : String}
    (new : query.checked = false)
    (template : groundTemplate? query.clauses = some (root, context))
    (run : check.run query = .ok true query') :
    query.arena.GroundBelow query.clauses.dataUpdate Pattern.asked root ∧
      (query.arena.GroundBelow query.clauses.dataUpdate Pattern.terms root ↔
        query.arena.GroundBelow query.clauses.dataUpdate Pattern.unasked root) := by
  have asked : query.arena.GroundBelow query.clauses.dataUpdate Pattern.asked root := by
    suffices ends : Ends (checkWith check) query
        (fun correct _ => correct = true →
          query.arena.GroundBelow query.clauses.dataUpdate Pattern.asked root)
        fun _ _ => True by
      rw [check_eq] at run
      exact ends.of_ok run rfl
    have closed := closedUnderCheck_correct check
      (query.arena.GroundBelow query.clauses.dataUpdate Pattern.asked root)
    rw [checkWith, ends_bind, ends_get, if_neg (Bool.eq_false_iff.mp new), ends_bind, ends_modify]
    apply (ends_checkBody_midway query).bind
    intro scope mid midway
    have here : groundTemplate? mid.clauses = some (root, context) := by
      rw [midway.clauses, template]
    apply (ends_vouches_checkGroundData here).bind
    intro _ query₁ vouches
    have ground : query₁.log.correct = true →
        query.arena.GroundBelow query.clauses.dataUpdate Pattern.asked root := by
      intro correct
      have ground := (vouches correct).2
      rw [midway.clauses] at ground
      exact groundBelow_of_midway midway ground
    apply (preserves_checkTemplates closed.visits query₁ ground).bind
    intro _ query₂ ground
    apply (preserves_checkSelect closed scope query₂ ground).bind
    intro _ query₃ ground
    apply (preserves_checkGrouping closed.visits query₃ ground).bind
    exact fun _ query₄ ground => ground
  refine ⟨asked, fun ground id p contains found term member => ?_,
    fun ground id p contains found term member => ?_⟩
  · exact ground id p contains found term ((p.mem_terms term).mpr (.inr member))
  · rcases (p.mem_terms term).mp member with member | member
    · exact asked id p contains found term member
    · exact ground id p contains found term member

def insertedInto (name : Expr) : Query :=
  (Operation.setDataUpdate .insertion).run.after
    ((Operation.setInsert 1).run.after
      ((Operation.graph name 0).run.after
        ((Operation.triple (.const (.iri "a")) { node := .const (.iri "p") }
          (.const (.iri "b"))).run.after {})))

def insertedAnywhere : Query := insertedInto (.var (.ofName "g"))

theorem insertedAnywhere_notGround :
    groundTemplate? insertedAnywhere.clauses = some (1, "INSERT DATA") ∧
      check.run insertedAnywhere = .ok true (check.after insertedAnywhere) ∧
      insertedAnywhere.arena.get? 1 = some (.graph (.var (.ofName "g")) 0) ∧
      ¬ insertedAnywhere.arena.GroundBelow insertedAnywhere.clauses.dataUpdate Pattern.terms 1 := by
  have named : insertedAnywhere.arena.get? 1 = some (.graph (.var (.ofName "g")) 0) := rfl
  refine ⟨rfl, run_of_approves (by decide +kernel), named, fun ground => ?_⟩
  have name := ground 1 _ .refl named _ (List.mem_singleton_self _)
  revert name
  decide +kernel

theorem insertedAnywhere_groundBelow :
    insertedAnywhere.checked = false ∧
      groundTemplate? insertedAnywhere.clauses = some (1, "INSERT DATA") ∧
      check.run insertedAnywhere = .ok true (check.after insertedAnywhere) ∧
      insertedAnywhere.arena.GroundBelow insertedAnywhere.clauses.dataUpdate Pattern.asked 1 ∧
      (insertedAnywhere.arena.GroundBelow insertedAnywhere.clauses.dataUpdate Pattern.terms 1 ↔
        insertedAnywhere.arena.GroundBelow insertedAnywhere.clauses.dataUpdate
          Pattern.unasked 1) := by
  have run : check.run insertedAnywhere = .ok true (check.after insertedAnywhere) :=
    run_of_approves (by decide +kernel)
  exact ⟨rfl, rfl, run, groundBelow_of_check rfl rfl run⟩

end Build

end Sparql
