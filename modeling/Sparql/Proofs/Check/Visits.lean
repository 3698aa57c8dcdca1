import Sparql.Proofs.Check.Scope
import Sparql.Proofs.Pattern.Reach
import Sparql.Proofs.Run

/-!
What a check visits, without the check: the variables that a pattern makes visible, and the triples,
bound targets and subqueries below it, each with what is needed to say what is reported about it.
-/

namespace Sparql

def Query.afterCheck (query : Query) : Query := Build.check.after query

/-! ## Visits -/

inductive Visit where
  /-- The blank nodes of a triple belong to a pattern. -/
  | triple (t : Triple) (owner : PatternId)
  /-- A target is bound where the variables before it are in scope. -/
  | bind (target : Variable) (before : Scope)
  | subquery (id : PatternId) (sub : Query)

namespace Visit

/-- The visits of values in order, where each value adds to the scope of those after it. -/
def inOrder {α : Type} (visible : α → List Variable) (visits : Scope → α → List Visit) :
    (before : Scope) → List α → List Visit
  | _, [] => []
  | before, value :: rest =>
    visits before value ++
      inOrder visible visits (before ++ Scope.ordinary (visible value)) rest

end Visit

/-! ## Visible variables -/

/-- The variables that a pattern makes visible after it, by those of its parts. What a union, an
optional or an excluded pattern or a condition binds is not visible outside of it. -/
def Pattern.visible (visibleOf : PatternId → List Variable) : Pattern Query → List Variable
  | triple t => t.vars
  | group children => children.flatMap visibleOf
  | collection _ cells => cells.flatMap visibleOf
  | bind _ target => Scope.ordinary [target]
  | values table => table.vars
  | service endpoint _ body => endpoint.asVariable?.toList ++ visibleOf body
  | graph name body => name.asVariable?.toList ++ visibleOf body
  | subquery sub => sub.afterCheck.clauses.selected
  | union _ _ | optional _ | minus _ | filter _ => []

namespace Arena

variable (arena : Arena Query)

def visibleAt : (levels : Nat) → PatternId → List Variable
  | 0, _ => []
  | levels + 1, id =>
    match arena.get? id with
    | some p => p.visible (visibleAt levels)
    | none => []

def visible (id : PatternId) : List Variable := arena.visibleAt arena.levels id

/-! ## Visits to patterns -/

def cellVisits (owner : PatternId) (cells : List PatternId) : List Visit :=
  cells.filterMap fun cell =>
    ((arena.get? cell).bind Pattern.triple?).map (Visit.triple · owner)

def childVisits (owner : PatternId) (visitsTo : PatternId → List Visit) (child : PatternId) :
    List Visit :=
  match arena.get? child with
  | some (.triple t) => [.triple t owner]
  | some (.collection _ cells) => arena.cellVisits owner cells
  | _ => visitsTo child

end Arena

/-- The visits to a pattern where some variables are in scope, by those to its parts. Both branches
of a union, optional and excluded patterns and tested ones begin with that scope. -/
def Pattern.visits (arena : Arena Query) (visibleOf : PatternId → List Variable)
    (visitsTo : Scope → PatternId → List Visit) (before : Scope) (id : PatternId) :
    Pattern Query → List Visit
  | triple t => [.triple t id]
  | group children =>
    Visit.inOrder visibleOf (fun before => arena.childVisits id (visitsTo before)) before children
  | collection _ cells => arena.cellVisits id cells
  | union left right => visitsTo before left ++ visitsTo before right
  | optional body => visitsTo before body
  | minus body => visitsTo before body
  | filter condition => condition.patterns.flatMap (visitsTo before)
  | bind value target => value.patterns.flatMap (visitsTo before) ++ [.bind target before]
  | values _ => []
  | service endpoint _ body => visitsTo (before ++ Scope.ordinary endpoint.asVariable?.toList) body
  | graph name body => visitsTo (before ++ Scope.ordinary name.asVariable?.toList) body
  | subquery sub => [.subquery id sub]

namespace Arena

variable (arena : Arena Query)

def visitsAt : (levels : Nat) → (before : Scope) → PatternId → List Visit
  | 0, _, _ => []
  | levels + 1, before, id =>
    match arena.get? id with
    | some p => p.visits arena (arena.visibleAt levels) (visitsAt levels) before id
    | none => []

def visits (before : Scope) (id : PatternId) : List Visit :=
  arena.visitsAt arena.levels before id

/-- The triples of a template that are not triples of the body. They belong to the group around
them, or else to the owner that is given. -/
def templateVisitsAt (bodyTriples : List PatternId) :
    (levels : Nat) → (owner : PatternId) → PatternId → List Visit
  | 0, _, _ => []
  | levels + 1, owner, id =>
    match arena.get? id with
    | some (.triple t) => if id ∈ bodyTriples then [] else [.triple t owner]
    | some p =>
      p.children.flatMap (templateVisitsAt bodyTriples levels (if p.isGroup then id else owner))
    | none => []

variable {arena : Arena Query}

/-! ## Levels

More levels than a descent needs make no difference: the variables of a pattern are those that it
has by its parts. -/

theorem visibleAt_succ {levels : Nat} {id : PatternId} (fits : arena.Fits levels id) :
    arena.visibleAt (levels + 1) id = arena.visibleAt levels id := by
  induction levels generalizing id with
  | zero => exact fits.elim
  | succ levels induction =>
      rcases fits with ⟨p, found, fit⟩
      have same (part : PatternId) (member : part ∈ p.parts) := induction (fit part member)
      rw [visibleAt, visibleAt, found]
      cases p with
      | group children | collection _ children =>
          exact List.flatMap_congr fun child member => same child (List.mem_append_left _ member)
      | service _ _ body | graph _ body =>
          exact congrArg _ (same body (List.mem_append_left _ (List.mem_singleton_self body)))
      | _ => rfl

theorem visible_eq {id : PatternId} {p : Pattern Query} (fits : arena.Fits arena.levels id)
    (found : arena.get? id = some p) : arena.visible id = p.visible arena.visible := by
  rw [visible, ← visibleAt_succ fits, visibleAt, found]
  rfl

end Arena

namespace Query

/-! ## Visits of a query -/

def scopeOfBody (query : Query) : Scope :=
  Scope.ordinary (query.clauses.body.toList.flatMap query.arena.visible) ++
    Scope.ordinary (query.clauses.values.toList.flatMap (·.vars))

def bodyVisits (query : Query) : List Visit :=
  query.clauses.body.toList.flatMap (query.arena.visits [])

/-- The visits to the patterns tested by projected expressions. Targets are in scope after them. -/
def selectVisits (query : Query) : List Visit :=
  Visit.inOrder (fun item => if item.value.isSome then [item.target] else [])
    (fun before item =>
      (item.value.toList.flatMap Expr.patterns).flatMap (query.arena.visits before))
    query.scopeOfBody query.clauses.select

def templates (query : Query) : List PatternId :=
  query.clauses.insert.toList ++ query.clauses.delete.toList

def bodyTripleIds (query : Query) : List PatternId :=
  match query.clauses.body.map query.arena.triplesBelow with
  | some (.ok ids) => ids
  | _ => []

def templateVisits (query : Query) : List Visit :=
  query.templates.flatMap fun template =>
    query.arena.templateVisitsAt query.bodyTripleIds query.arena.levels template template

def visits (query : Query) : List Visit :=
  query.bodyVisits ++ query.templateVisits ++ query.selectVisits

end Query

/-! ## Tallies -/

/-- What of a query a check decides by its visits: the reports of targets bound before, the labels
reported as shared, and the owners of labels. -/
structure Tally where
  rebound : List Diagnostic
  shared : List String
  owners : List (String × PatternId)

def Log.rebound (log : Log) : List Diagnostic := log.entries.filter (·.code = .bindScope)

def Log.shared (log : Log) : List String :=
  log.entries.flatMap fun entry =>
    if entry.code = .blankNodeScope then entry.subject.toList else []

def Query.tally (query : Query) : Tally :=
  { rebound := query.log.rebound, shared := query.log.shared, owners := query.blankOwners }

namespace Tally

def own (tally : Tally) (mayShare : Bool) (owner : PatternId) (label : String) : Tally :=
  match tally.owners.lookup label with
  | none => { tally with owners := tally.owners ++ [(label, owner)] }
  | some first =>
    if first = owner ∨ mayShare = true ∨ label ∈ tally.shared then tally
    else { tally with shared := tally.shared ++ [label] }

theorem own_of_none {mayShare : Bool} {owner : PatternId} {tally : Tally} {label : String}
    (new : tally.owners.lookup label = none) :
    tally.own mayShare owner label = { tally with owners := tally.owners ++ [(label, owner)] } := by
  rw [own, new]

theorem own_of_some {mayShare : Bool} {owner first : PatternId} {tally : Tally} {label : String}
    (known : tally.owners.lookup label = some first) :
    tally.own mayShare owner label =
      if first = owner ∨ mayShare = true ∨ label ∈ tally.shared then tally
      else { tally with shared := tally.shared ++ [label] } := by
  rw [own, known]

def report (tally : Tally) (entry : Diagnostic) : Tally :=
  { tally with
    rebound := tally.rebound ++ if entry.code = .bindScope then [entry] else []
    shared := tally.shared ++ if entry.code = .blankNodeScope then entry.subject.toList else [] }

/-- What is known of a subquery is reported again, and its labels belong to it as a whole. -/
def visit (tally : Tally) (mayShare : Bool) : Visit → Tally
  | .triple t owner => t.blankLabels.foldl (own · mayShare owner ·) tally
  | .bind target before =>
    if target.occursIn before then tally.report (Problem.targetBound target.text).toDiagnostic
    else tally
  | .subquery id sub =>
    sub.afterCheck.blankLabels.foldl (own · mayShare id ·)
      (sub.afterCheck.log.entries.foldl report tally)

end Tally

namespace Query

def mayShare (query : Query) : Bool := query.clauses.dataUpdate = .insertion

def tallied (query : Query) (visits : List Visit) (tally : Tally) : Tally :=
  visits.foldl (·.visit query.mayShare ·) tally

end Query

end Sparql
