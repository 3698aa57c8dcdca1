import Sparql.Proofs.Failures
import Sparql.Proofs.Pattern.Plain
import Sparql.Proofs.Run
import Sparql.Query.Check

/-!
What a check does until it comes to the projection. It asks for what no check changes, reports its
own problems, gives each blank label to a pattern, and hears the subqueries. `Surveys` says that an
operation does nothing else, and `Surveys.rec` is the way to prove something of all these steps at
once.
-/

namespace Sparql

/-! ## What no check changes -/

/-- The clauses without the projection, and without the modifiers of the solutions. -/
def Clauses.core (clauses : Clauses) : Clauses :=
  { clauses with select := [], groupBy := [], having := [], orderBy := [] }

/-- The queries have the same patterns, subqueries apart, and the same clauses, the projection and
the modifiers apart. -/
structure Query.SharesFrame (query query' : Query) : Prop where
  arena : query'.arena.patterns.map Pattern.plain? = query.arena.patterns.map Pattern.plain?
  clauses : query'.clauses.core = query.clauses.core

namespace Query.SharesFrame

variable {query query' : Query}

theorem body (shares : query.SharesFrame query') : query'.clauses.body = query.clauses.body := by
  have same : query'.clauses.core.body = query.clauses.core.body := by rw [shares.clauses]
  exact same

theorem insert (shares : query.SharesFrame query') :
    query'.clauses.insert = query.clauses.insert := by
  have same : query'.clauses.core.insert = query.clauses.core.insert := by rw [shares.clauses]
  exact same

theorem delete (shares : query.SharesFrame query') :
    query'.clauses.delete = query.clauses.delete := by
  have same : query'.clauses.core.delete = query.clauses.core.delete := by rw [shares.clauses]
  exact same

theorem dataUpdate (shares : query.SharesFrame query') :
    query'.clauses.dataUpdate = query.clauses.dataUpdate := by
  have same : query'.clauses.core.dataUpdate = query.clauses.core.dataUpdate := by
    rw [shares.clauses]
  exact same

theorem selectAll (shares : query.SharesFrame query') :
    query'.clauses.selectAll = query.clauses.selectAll := by
  have same : query'.clauses.core.selectAll = query.clauses.core.selectAll := by
    rw [shares.clauses]
  exact same

theorem values (shares : query.SharesFrame query') :
    query'.clauses.values = query.clauses.values := by
  have same : query'.clauses.core.values = query.clauses.core.values := by rw [shares.clauses]
  exact same

theorem groundTemplate (shares : query.SharesFrame query') :
    Build.groundTemplate? query'.clauses = Build.groundTemplate? query.clauses := by
  rw [Build.groundTemplate?, Build.groundTemplate?, shares.dataUpdate, shares.insert, shares.delete]

theorem levels (shares : query.SharesFrame query') : query'.arena.levels = query.arena.levels :=
  congrArg (· + 1) (Arena.size_of_map shares.arena)

end Query.SharesFrame

def Framed {α : Type} (look : Arena Query → Except Failure α) : Prop :=
  ∀ arena arena', arena'.patterns.map Pattern.plain? = arena.patterns.map Pattern.plain? →
    look arena' = look arena

theorem framed_triplesBelow (root : PatternId) : Framed (·.triplesBelow root) :=
  fun _ _ frame => Arena.triplesBelow_of_frame frame root

theorem framed_triple (id : PatternId) : Framed (·.triple id) := by
  intro arena arena' frame
  have here := Arena.get?_of_frame frame id
  dsimp only [Arena.triple, Arena.get]
  cases found : arena.get? id with
  | none =>
      rw [found, Option.map_none, Option.map_eq_none_iff] at here
      rw [here]
  | some p =>
      rw [found, Option.map_some, Option.map_eq_some_iff] at here
      rcases here with ⟨p', found', plain⟩
      rw [found']
      rcases Pattern.eq_or_subquery plain with rfl | ⟨⟨_, rfl⟩, _, rfl⟩ <;> rfl

/-- A problem of the query itself that is told where it is found: neither a shared label, which may
have been told before, nor what the grouping asks for. -/
def Problem.isFound : Problem → Bool
  | blankShared _ => false
  | notGroupKey _ => false
  | _ => true

namespace Build

variable {α β : Type} {checkSub : Build Bool}

/-! ## Surveys -/

def hear (checkSub : Build Bool) (id : PatternId) : Build Query := do
  match ← pattern id with
  | .subquery sub =>
    match checkSub.run sub with
    | .error failure sub =>
      modify fun query => { query with arena := query.arena.set id (.subquery sub) }
      throw failure
    | .ok _ sub =>
      modify fun query => { query with arena := query.arena.set id (.subquery sub) }
      sub.log.entries.forM report
      return sub
  | _ => return {}

/-- The operation takes only the steps that a check takes before it comes to the projection. -/
inductive Surveys (checkSub : Build Bool) : {α : Type} → Build α → Prop
  | pure {α : Type} (value : α) : Surveys checkSub (pure value)
  | throw {α : Type} {failure : Failure} (plain : failure.isStrict = false) :
      Surveys checkSub (throw failure : Build α)
  | problem {p : Problem} (found : p.isFound = true) : Surveys checkSub (problem p)
  | blank (label : String) (owner : PatternId) : Surveys checkSub (checkBlank label owner)
  | hear (id : PatternId) : Surveys checkSub (hear checkSub id)
  | ask {α : Type} {next : Query → Build α}
      (framed : ∀ query query', query.SharesFrame query' → next query' = next query)
      (rest : ∀ query, Surveys checkSub (next query)) : Surveys checkSub (get >>= next)
  | bind {α β : Type} {x : Build α} {next : α → Build β} (first : Surveys checkSub x)
      (rest : ∀ value, Surveys checkSub (next value)) : Surveys checkSub (x >>= next)

namespace Surveys

theorem map {x : Build α} (surveys : Surveys checkSub x) (change : α → β) :
    Surveys checkSub (change <$> x) := by
  rw [map_eq_pure_bind]
  exact surveys.bind fun value => .pure (change value)

theorem discard {x : Build α} (surveys : Surveys checkSub x) : Surveys checkSub (discard x) :=
  surveys.map _

theorem returning {x : Build α} (surveys : Surveys checkSub x) (value : β) :
    Surveys checkSub (do let _ ← x; return value) :=
  surveys.bind fun _ => .pure value

end Surveys

theorem surveys_forM {values : List α} {body : α → Build PUnit}
    (surveys : ∀ value, Surveys checkSub (body value)) : Surveys checkSub (forM values body) := by
  induction values with
  | nil => exact .pure _
  | cons value rest induction =>
      rw [List.forM_cons]
      exact (surveys value).bind fun _ => induction

theorem surveys_foldlM {values : List α} {body : β → α → Build β}
    (surveys : ∀ found value, Surveys checkSub (body found value)) (found : β) :
    Surveys checkSub (values.foldlM body found) := by
  induction values generalizing found with
  | nil => exact .pure found
  | cons value rest induction =>
      rw [List.foldlM_cons]
      exact (surveys found value).bind induction

theorem surveys_look {look : Arena Query → Except Failure α} (plain : Plain look)
    (framed : Framed look) : Surveys checkSub (inspect look) := by
  refine .ask (fun query query' shares => ?_) fun query => ?_
  · rw [framed _ _ shares.arena]
  · cases looked : look query.arena with
    | ok value => exact .pure value
    | error failure => exact .throw (plain _ _ looked)

/-- What is done with a pattern is a survey, if it is one for each pattern but a subquery, and does
for all subqueries what one survey does. -/
theorem surveys_pattern {id : PatternId} {next : Pattern Query → Build α} {visit : Build α}
    (plain : ∀ p, p.plain? = some p → Surveys checkSub (next p))
    (subquery : Surveys checkSub visit)
    (same : ∀ query sub, query.arena.get? id = some (.subquery sub) →
      (next (.subquery sub)).run query = visit.run query) :
    Surveys checkSub (pattern id >>= next) := by
  let step (query : Query) : Build α :=
    match (query.arena.get? id).map Pattern.plain? with
    | some (some p) => next p
    | some none => visit
    | none => throw (.unknownPattern id)
  have equal : pattern id >>= next = get >>= step := by
    funext query
    change (pattern id >>= next).run query = (step query).run query
    rw [EStateM.run_bind, pattern, run_inspect, Arena.get]
    dsimp only [step]
    cases found : query.arena.get? id with
    | none => rfl
    | some p =>
        cases p with
        | subquery sub => exact same query sub found
        | _ => rfl
  rw [equal]
  refine .ask (fun query query' shares => ?_) fun query => ?_
  · dsimp only [step]
    rw [Arena.get?_of_frame shares.arena]
  · dsimp only [step]
    cases found : query.arena.get? id with
    | none => exact .throw rfl
    | some p =>
        cases p with
        | subquery sub => exact subquery
        | _ => exact plain _ rfl

/-! ## Blank nodes and inline data -/

theorem surveys_checkLabels (labels : List String) (owner : PatternId) :
    Surveys checkSub (labels.forM (checkBlank · owner)) :=
  surveys_forM fun label => .blank label owner

theorem surveys_checkTriple (scope : Scope) (t : Triple) (owner : PatternId) :
    Surveys checkSub (checkTriple scope t owner) :=
  (surveys_checkLabels _ owner).returning _

theorem surveys_checkCells (scope : Scope) (cells : List PatternId) (owner : PatternId) :
    Surveys checkSub (checkCells scope cells owner) :=
  surveys_foldlM (fun scope id => (surveys_look (plain_triple id) (framed_triple id)).bind
    fun t => surveys_checkTriple scope t owner) scope

theorem surveys_checkRows (width row : Nat) (rows : List (List (Option Expr))) :
    Surveys checkSub (checkRows width row rows) := by
  induction rows generalizing row with
  | nil => exact .pure _
  | cons cells rest induction =>
      rw [checkRows]
      split
      · exact induction (row + 1)
      · exact (Surveys.problem rfl).bind fun _ => induction (row + 1)

theorem surveys_checkTable (scope : Scope) (table : InlineData) :
    Surveys checkSub (checkTable scope table) :=
  (surveys_checkRows _ _ _).returning _

/-! ## Patterns -/

def hearLabels (checkSub : Build Bool) (scope : Scope) (id : PatternId) : Build Scope := do
  let sub ← hear checkSub id
  sub.blankLabels.forM (checkBlank · id)
  return sub.clauses.selected.foldl Scope.bind scope

theorem run_checkSubquery {query sub : Query} {id : PatternId} (scope : Scope)
    (found : query.arena.get? id = some (.subquery sub)) :
    (checkSubquery checkSub scope id sub).run query = (hearLabels checkSub scope id).run query := by
  have here : (pattern id).run query = .ok (.subquery sub) query :=
    run_pattern_ok.mpr ⟨found, rfl⟩
  rw [hearLabels, hear, bind_assoc, EStateM.run_bind, here, checkSubquery]
  dsimp only
  cases checkSub.run sub with
  | error failure sub' => rfl
  | ok correct sub' =>
      dsimp only
      rw [bind_assoc, EStateM.run_bind, EStateM.run_bind]
      dsimp only [EStateM.run_modify]
      rw [bind_assoc, EStateM.run_bind, EStateM.run_bind]
      cases (sub'.log.entries.forM report).run _ <;> rfl

theorem surveys_hearLabels (scope : Scope) (id : PatternId) :
    Surveys checkSub (hearLabels checkSub scope id) :=
  (Surveys.hear id).bind fun _ => (surveys_checkLabels _ id).returning _

def checkChild (checkSub : Build Bool) (levels : Nat) (owner : PatternId) (scope : Scope)
    (child : PatternId) : Build Scope := do
  match ← pattern child with
  | .triple t => checkTriple scope t owner
  | .collection _ cells => checkCells scope cells owner
  | _ => checkPattern checkSub levels scope child

theorem surveys_checkChild {levels : Nat} {scope : Scope} {child : PatternId}
    (inner : Surveys checkSub (checkPattern checkSub levels scope child)) (owner : PatternId) :
    Surveys checkSub (checkChild checkSub levels owner scope child) := by
  refine surveys_pattern (fun p _ => ?_) inner fun _ _ _ => rfl
  split
  · exact surveys_checkTriple scope _ owner
  · exact surveys_checkCells scope _ owner
  · exact inner

theorem surveys_checkPattern (levels : Nat) (scope : Scope) (id : PatternId) :
    Surveys checkSub (checkPattern checkSub levels scope id) := by
  induction levels generalizing scope id with
  | zero => exact .throw rfl
  | succ levels induction =>
      have tests (ids : List PatternId) : Surveys checkSub
          (ids.forM fun tested => discard (checkPattern checkSub levels scope tested)) :=
        surveys_forM fun tested => (induction scope tested).discard
      rw [checkPattern]
      refine surveys_pattern (fun p plain => ?_) (surveys_hearLabels scope id)
        fun query sub found => run_checkSubquery scope found
      cases p with
      | triple t => exact surveys_checkTriple scope t id
      | group children =>
          exact surveys_foldlM (fun scope child => surveys_checkChild (induction scope child) id)
            scope
      | collection head cells => exact surveys_checkCells scope cells id
      | union left right =>
          exact (induction scope left).discard.bind fun _ =>
            (induction scope right).discard.returning scope
      | optional body | minus body => exact (induction scope body).discard.returning scope
      | filter condition => exact (tests condition.patterns).returning scope
      | bind value target =>
          refine (tests value.patterns).bind fun _ => ?_
          split
          · exact (Surveys.problem rfl).returning _
          · exact (Surveys.pure _).bind fun _ => .pure _
      | values table => exact surveys_checkTable scope table
      | service endpoint silent body => exact induction _ body
      | graph name body => exact induction _ body
      | subquery sub => cases plain

theorem surveys_checkFrom (scope : Scope) (root : PatternId) :
    Surveys checkSub (checkFrom checkSub scope root) := by
  refine .ask (fun query query' shares => ?_) fun query => surveys_checkPattern _ scope root
  rw [shares.levels]

theorem surveys_checkBody : Surveys checkSub (checkBody checkSub) := by
  refine .ask (fun query query' shares => ?_) fun query => ?_
  · rw [shares.body]
  · cases query.clauses.body with
    | some body => exact surveys_checkFrom [] body
    | none => exact .pure []

/-! ## Ground data and templates -/

theorem surveys_checkGroundNode (dataUpdate : DataUpdate) (context : String) (node : Expr) :
    Surveys checkSub (checkGroundNode dataUpdate context node) := by
  rw [checkGroundNode]
  split
  · split
    · exact .problem rfl
    · exact .pure _
  · split
    · exact .problem rfl
    · exact .pure _

theorem surveys_checkGroundData : Surveys checkSub checkGroundData := by
  refine .ask (fun query query' shares => ?_) fun query => ?_
  · dsimp only
    rw [shares.groundTemplate, shares.dataUpdate]
  · dsimp only
    split
    · exact .pure _
    · refine (surveys_look (plain_triplesBelow _) (framed_triplesBelow _)).bind fun ids => ?_
      refine surveys_forM fun id => ?_
      refine (surveys_look (plain_triple id) (framed_triple id)).bind fun t => ?_
      exact surveys_forM fun node => surveys_checkGroundNode _ _ node

theorem surveys_checkTemplate (bodyTriples : List PatternId) (levels : Nat)
    (owner id : PatternId) : Surveys checkSub (checkTemplate bodyTriples levels owner id) := by
  induction levels generalizing owner id with
  | zero => exact .throw rfl
  | succ levels induction =>
      rw [checkTemplate]
      refine surveys_pattern (fun p _ => ?_) (.pure ⟨⟩) fun _ _ _ => rfl
      split
      · split
        · exact .pure _
        · exact surveys_checkLabels _ owner
      · exact surveys_forM fun child => induction _ child

theorem surveys_bodyTriples : Surveys checkSub bodyTriples := by
  refine .ask (fun query query' shares => ?_) fun query => ?_
  · rw [shares.body]
  · cases query.clauses.body with
    | some body => exact surveys_look (plain_triplesBelow body) (framed_triplesBelow body)
    | none => exact .pure []

theorem surveys_checkTemplates : Surveys checkSub checkTemplates := by
  refine surveys_bodyTriples.bind fun bodyTriples => ?_
  refine .ask (fun query query' shares => ?_) fun query => ?_
  · rw [shares.insert, shares.delete, shares.levels]
  · exact surveys_forM fun template => surveys_checkTemplate _ _ _ template

/-! ## Projection -/

theorem surveys_checkItem (bodyVars : List Variable) (scope : Scope) (item : Projection) :
    Surveys checkSub (checkItem checkSub bodyVars scope item) := by
  rw [checkItem]
  split
  · refine (surveys_forM fun tested => (surveys_checkFrom scope tested).discard).bind fun _ => ?_
    split
    · exact (Surveys.problem rfl).returning _
    · exact (Surveys.pure _).bind fun _ => .pure _
  · refine .ask (fun query query' shares => ?_) fun query => ?_
    · rw [shares.selectAll]
    · dsimp only
      split
      · exact .pure _
      · exact (Surveys.problem rfl).returning _

theorem surveys_checkItems (bodyVars : List Variable) (items : List Projection) (scope : Scope) :
    Surveys checkSub (discard (items.foldlM (checkItem checkSub bodyVars) scope)) :=
  (surveys_foldlM (surveys_checkItem bodyVars) scope).discard

theorem surveys_checkTrailing (bodyVars : List Variable) (scope : Scope) :
    Surveys checkSub (checkTrailing bodyVars scope) := by
  refine .ask (fun query query' shares => ?_) fun query => ?_
  · rw [shares.values]
  · cases query.clauses.values with
    | some table => exact (surveys_checkTable scope table).bind fun _ => .pure _
    | none => exact .pure _

end Build

end Sparql
