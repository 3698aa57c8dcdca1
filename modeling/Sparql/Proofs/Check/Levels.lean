import Sparql.Proofs.Check.Frame

/-!
The levels that a check is given do not show in its result. A check keeps the level of a query, and
two checks of the subqueries that agree below a level give two checks that agree one level up.
Therefore the check of a query is the one that checks its subqueries by itself: `check_eq`.
-/

namespace Sparql

/-! ## Levels of queries -/

theorem subqueryLevels_set {patterns : List (Pattern Query)} {id : Nat} {p p' : Pattern Query}
    (found : patterns[id]? = some p) (equal : p'.subqueryLevel = p.subqueryLevel) :
    subqueryLevels (patterns.set id p') = subqueryLevels patterns := by
  induction patterns generalizing id with
  | nil => simp at found
  | cons first rest induction =>
      cases id with
      | zero =>
          obtain rfl : first = p := by simpa using found
          simp only [List.set_cons_zero, subqueryLevels, equal]
      | succ id =>
          rw [List.set_cons_succ, subqueryLevels, subqueryLevels,
            induction (by simpa using found)]

theorem subqueryLevel_le {patterns : List (Pattern Query)} {p : Pattern Query}
    (member : p ∈ patterns) : p.subqueryLevel ≤ subqueryLevels patterns := by
  induction patterns with
  | nil => simp at member
  | cons first rest induction =>
      rw [subqueryLevels]
      rcases List.mem_cons.mp member with rfl | member
      · exact Nat.le_max_left _ _
      · exact Nat.le_trans (induction member) (Nat.le_max_right _ _)

namespace Query

theorem level_lt_of_get? {query sub : Query} {id : PatternId}
    (found : query.arena.get? id = some (.subquery sub)) : sub.level < query.level := by
  rw [query.level_eq]
  have below := subqueryLevel_le (List.mem_of_getElem? found)
  rw [Pattern.subqueryLevel] at below
  exact below

theorem level_of_arena {query query' : Query} {level : Nat} (equal : query.level = level)
    (same : query'.arena = query.arena) : query'.level = level := by
  rw [← equal, Query.level_eq, Query.level_eq, same]

theorem level_set {query sub sub' : Query} {id : PatternId}
    (found : query.arena.get? id = some (.subquery sub)) (equal : sub'.level = sub.level) :
    { query with arena := query.arena.set id (.subquery sub') }.level = query.level := by
  rw [Query.level_eq, Query.level_eq]
  apply subqueryLevels_set found
  rw [Pattern.subqueryLevel, Pattern.subqueryLevel, equal]

end Query

namespace Build

variable {α β : Type}

/-! ## What keeps the level -/

def KeepsLevel (x : Build α) : Prop :=
  ∀ level, Preserves (·.level = level) (fun _ query => query.level = level) x

theorem KeepsLevel.closedUnderCheck {checkSub : Build Bool} (keepsSub : KeepsLevel checkSub)
    (level : Nat) :
    ClosedUnderCheck checkSub (·.level = level) fun _ query => query.level = level where
  report diagnostic query equal _ := by
    rw [ends_report]
    split <;> exact Query.level_of_arena equal rfl
  own query _ equal := Query.level_of_arena equal rfl
  project _ _ equal := Query.level_of_arena equal rfl
  done query equal := Query.level_of_arena equal rfl
  part query id sub equal found := by
    refine (keepsSub sub.level sub rfl).imp ?_ ?_
    · exact fun _ sub' inner => (Query.level_set found inner).trans equal
    · exact fun _ sub' inner => (Query.level_set found inner).trans equal
  other _ _ equal _ := equal

theorem keepsLevel_checkAt (level : Nat) : KeepsLevel (checkAt level) := by
  induction level with
  | zero =>
      have keepsSub : KeepsLevel (return true) := fun _ => preserves_pure true
      exact fun level => preserves_checkWith (keepsSub.closedUnderCheck level)
  | succ level induction =>
      exact fun level => preserves_checkWith (induction.closedUnderCheck level)

theorem keepsLevel_check : KeepsLevel check :=
  fun level => preserves_get_bind fun query equal => keepsLevel_checkAt _ level query equal

/-! ## Agreement below a level -/

def Agree (level : Nat) (x y : Build α) : Prop :=
  ∀ query : Query, query.level < level → x.run query = y.run query

theorem Agree.zero (x y : Build α) : Agree 0 x y := fun _ below => absurd below (Nat.not_lt_zero _)

theorem Agree.refl (level : Nat) (x : Build α) : Agree level x x := fun _ _ => rfl

theorem Agree.bind {level : Nat} {x y : Build α} {next next' : α → Build β}
    (agree : Agree level x y) (keeps : KeepsLevel x)
    (agreeNext : ∀ value, Agree level (next value) (next' value)) :
    Agree level (x >>= next) (y >>= next') := by
  intro query below
  rw [EStateM.run_bind, EStateM.run_bind, ← agree query below]
  cases run : x.run query with
  | ok value query' =>
      have kept := (keeps query.level query rfl).of_ok run
      exact agreeNext value query' (kept ▸ below)
  | error failure query' => rfl

theorem agree_get_bind {level : Nat} {next next' : Query → Build α}
    (agree : ∀ query : Query, query.level < level →
      (next query).run query = (next' query).run query) :
    Agree level (get >>= next) (get >>= next') :=
  agree

theorem Agree.map {level : Nat} {x y : Build α} (agree : Agree level x y) (change : α → β) :
    Agree level (change <$> x) (change <$> y) := by
  intro query below
  rw [map_eq_pure_bind, map_eq_pure_bind, EStateM.run_bind, EStateM.run_bind, agree query below]

theorem agree_forM {level : Nat} {values : List α} {body body' : α → Build PUnit}
    (agree : ∀ value, Agree level (body value) (body' value))
    (keeps : ∀ value, KeepsLevel (body value)) :
    Agree level (forM values body) (forM values body') := by
  induction values with
  | nil => exact .refl level _
  | cons value rest induction =>
      rw [List.forM_cons, List.forM_cons]
      exact (agree value).bind (keeps value) fun _ => induction

theorem agree_foldlM {level : Nat} {values : List α} {body body' : β → α → Build β}
    (agree : ∀ accumulated value, Agree level (body accumulated value) (body' accumulated value))
    (keeps : ∀ accumulated value, KeepsLevel (body accumulated value))
    (accumulated : β) :
    Agree level (values.foldlM body accumulated) (values.foldlM body' accumulated) := by
  induction values generalizing accumulated with
  | nil => exact .refl level _
  | cons value rest induction =>
      rw [List.foldlM_cons, List.foldlM_cons]
      exact (agree accumulated value).bind (keeps accumulated value) induction

/-! ## Checks of the subqueries -/

section

variable {checkSub checkSub' : Build Bool} {level : Nat} (agree : Agree level checkSub checkSub')
  (keepsSub : KeepsLevel checkSub)

include agree

theorem run_checkSubquery_eq (scope : Scope) (id : PatternId) {sub : Query}
    (below : sub.level < level) :
    checkSubquery checkSub scope id sub = checkSubquery checkSub' scope id sub := by
  unfold checkSubquery
  rw [agree sub below]

include keepsSub

omit agree in
theorem agree_checkChild {levels : Nat} {scope : Scope} {child : PatternId}
    (inner : Agree (level + 1) (checkPattern checkSub levels scope child)
      (checkPattern checkSub' levels scope child)) (owner : PatternId) :
    Agree (level + 1) (checkChild checkSub levels owner scope child)
      (checkChild checkSub' levels owner scope child) := by
  have closed (level : Nat) := (keepsSub.closedUnderCheck level).visits
  refine (Agree.refl _ (pattern child)).bind
    (fun level => preserves_pattern (closed level) child) fun p => ?_
  split
  · exact .refl _ _
  · exact .refl _ _
  · exact inner

theorem agree_checkPattern (levels : Nat) (scope : Scope) (id : PatternId) :
    Agree (level + 1) (checkPattern checkSub levels scope id)
      (checkPattern checkSub' levels scope id) := by
  induction levels generalizing scope id with
  | zero => exact .refl _ _
  | succ levels induction =>
      have closed (level : Nat) := (keepsSub.closedUnderCheck level).visits
      have keeps (scope : Scope) (id : PatternId) : KeepsLevel _ :=
        fun level => preserves_checkPattern (closed level) levels scope id
      have agreeTested (scope : Scope) (ids : List PatternId) :=
        @agree_forM _ _ ids _ _ (fun id => (induction scope id).map fun _ => ())
          fun id level => (keeps scope id level).discard
      rw [checkPattern, checkPattern]
      intro query below
      rw [EStateM.run_bind, EStateM.run_bind]
      cases looked : (pattern id).run query with
      | error failure query' => rfl
      | ok p query' =>
          rcases run_pattern_ok.mp looked with ⟨found, rfl⟩
          cases p with
          | triple _ | collection _ _ | values _ => rfl
          | group children =>
              refine agree_foldlM (fun scope child => ?_) (fun scope child => ?_) scope query below
              · exact agree_checkChild keepsSub (induction scope child) id
              · intro level
                have surveys : Surveys checkSub (checkPattern checkSub levels scope child) :=
                  surveys_checkPattern levels scope child
                exact (surveys_checkChild surveys id).preserves (closed level)
          | union left right =>
              refine ((induction scope left).map _).bind
                (fun level => (keeps scope left level).discard)
                (fun _ => ?_) query below
              exact ((induction scope right).map _).bind
                (fun level => (keeps scope right level).discard) fun _ => .refl _ _
          | optional body | minus body =>
              exact ((induction scope body).map _).bind
                (fun level => (keeps scope body level).discard) (fun _ => .refl _ _) query below
          | filter condition =>
              exact (agreeTested scope condition.patterns).bind
                (fun level => preserves_forM fun tested _ => (keeps scope tested level).discard)
                (fun _ => .refl _ _) query below
          | bind value target =>
              exact (agreeTested scope value.patterns).bind
                (fun level => preserves_forM fun tested _ => (keeps scope tested level).discard)
                (fun _ => .refl _ _) query below
          | service endpoint silent body => exact induction _ body query below
          | graph name body => exact induction _ body query below
          | subquery sub =>
              have smaller := Nat.lt_of_lt_of_le (Query.level_lt_of_get? found)
                (Nat.le_of_lt_succ below)
              exact congrFun (run_checkSubquery_eq agree scope id smaller) query

theorem agree_checkFrom (scope : Scope) (root : PatternId) :
    Agree (level + 1) (checkFrom checkSub scope root) (checkFrom checkSub' scope root) :=
  agree_get_bind fun query => agree_checkPattern agree keepsSub _ scope root query

theorem agree_checkBody : Agree (level + 1) (checkBody checkSub) (checkBody checkSub') := by
  refine agree_get_bind fun query below => ?_
  split
  · exact agree_checkFrom agree keepsSub [] _ query below
  · rfl

theorem agree_checkItem (bodyVars : List Variable) (scope : Scope) (item : Projection) :
    Agree (level + 1) (checkItem checkSub bodyVars scope item)
      (checkItem checkSub' bodyVars scope item) := by
  have keeps (tested : PatternId) : KeepsLevel (discard (checkFrom checkSub scope tested)) :=
    fun level => (preserves_checkFrom (keepsSub.closedUnderCheck level).visits scope tested).discard
  rw [checkItem, checkItem]
  split
  · refine Agree.bind ?_ (fun level => preserves_forM fun tested _ => keeps tested level)
      fun _ => .refl _ _
    exact agree_forM (fun tested => (agree_checkFrom agree keepsSub scope tested).map _) keeps
  · exact .refl _ _

theorem agree_checkSelect (scope : Scope) :
    Agree (level + 1) (checkSelect checkSub scope) (checkSelect checkSub' scope) := by
  have closed (level : Nat) := (keepsSub.closedUnderCheck level).visits
  refine (Agree.refl _ bodyVariables).bind (fun level => preserves_bodyVariables (closed level))
    fun bodyVars => ?_
  refine (Agree.refl _ _).bind (fun level => preserves_checkTrailing (closed level) bodyVars scope)
    fun found => ?_
  have keeps (scope : Scope) (item : Projection) : KeepsLevel _ :=
    fun level => preserves_checkItem (closed level) found.1 scope item
  refine agree_get_bind fun query => Agree.bind ?_ ?_ (fun _ => .refl _ _) query
  · exact (agree_foldlM (agree_checkItem agree keepsSub found.1) keeps found.2).map _
  · exact fun level => preserves_checkItems (closed level) _ _ _

theorem agree_checkWith : Agree (level + 1) (checkWith checkSub) (checkWith checkSub') := by
  have closed := keepsSub.closedUnderCheck
  have visits (level : Nat) := (closed level).visits
  refine agree_get_bind fun query below => ?_
  split
  · rfl
  · refine (Agree.refl _ _).bind (fun level => preserves_modify fun query =>
      (closed level).own query []) (fun _ => ?_) query below
    refine (agree_checkBody agree keepsSub).bind (fun level => preserves_checkBody (visits level))
      fun scope => ?_
    refine (Agree.refl _ _).bind (fun level => preserves_checkGroundData (visits level)) fun _ => ?_
    refine (Agree.refl _ _).bind (fun level => preserves_checkTemplates (visits level)) fun _ => ?_
    exact (agree_checkSelect agree keepsSub scope).bind
      (fun level => preserves_checkSelect (closed level) scope) fun _ => .refl _ _

end

/-! ## Checks of queries -/

theorem agree_checkAt {level level' : Nat} (le : level ≤ level') :
    Agree (level + 1) (checkAt level) (checkAt level') := by
  induction level generalizing level' with
  | zero =>
      cases level' with
      | zero => exact .refl _ _
      | succ level' => exact agree_checkWith (.zero _ _) fun _ => preserves_pure true
  | succ level induction =>
      cases level' with
      | zero => exact absurd le (Nat.not_succ_le_zero _)
      | succ level' =>
          exact agree_checkWith (induction (Nat.le_of_succ_le_succ le)) (keepsLevel_checkAt level)

theorem agree_check (level : Nat) : Agree (level + 1) check (checkAt level) :=
  agree_get_bind fun query below =>
    agree_checkAt (Nat.le_of_lt_succ below) query (Nat.lt_succ_self _)

theorem check_eq (query : Query) : check.run query = (checkWith check).run query := by
  have atLevel : check.run query = (checkAt (query.level + 1)).run query :=
    agree_check _ query (Nat.lt_succ_of_lt (Nat.lt_succ_self _))
  have inside := agree_checkWith (agree_check query.level) keepsLevel_check
  rw [atLevel, checkAt]
  exact (inside query (Nat.lt_succ_of_lt (Nat.lt_succ_self _))).symm

theorem run_check_of_checked {query : Query} (checked : query.checked = true) :
    check.run query = .ok query.log.correct query := by
  rw [check_eq, checkWith, EStateM.run_bind, EStateM.run_get]
  dsimp only
  rw [if_pos checked]
  rfl

end Build

end Sparql
