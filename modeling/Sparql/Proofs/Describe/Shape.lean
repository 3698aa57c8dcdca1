import Sparql.Proofs.Bindable.Projected
import Sparql.Proofs.Describe.Formed
import Sparql.Proofs.Describe.Terms
import Sparql.Proofs.Fresh

/-!
The shape of a query of descriptions once it is normalized. Its body has the parts that it had and
the descriptions as optional parts, and its template is made of the same descriptions:
`described_normalize`.
-/

namespace Sparql

/-! ## Projected variables -/

namespace Clauses

def selecting (clauses : Clauses) (vars : List Variable) : Clauses :=
  { clauses with select := clauses.select ++ vars.map fun v => { target := v } }

theorem selecting_nil (clauses : Clauses) : clauses.selecting [] = clauses := by
  simp [selecting]

theorem selected_selecting (clauses : Clauses) (vars : List Variable) :
    (clauses.selecting vars).selected = clauses.selected ++ vars := by
  simp [selecting, selected, Function.comp_def]

theorem selecting_selecting (clauses : Clauses) (vars vars' : List Variable) :
    (clauses.selecting vars).selecting vars' = clauses.selecting (vars ++ vars') := by
  simp [selecting]

end Clauses

namespace Build

theorem run_select (v : Variable) (query : Query) :
    (select v none).run query = .ok () { query with
      clauses := query.clauses.selecting (Variable.unseen query.clauses.selected [v]) } := by
  simp only [select, modifyClauses, EStateM.run_modify, Option.isNone_none, Bool.true_and,
    Variable.unseen]
  split
  · rw [Clauses.selecting_nil]
  · rfl

theorem run_selectAll (vars : List Variable) (query : Query) :
    (forM vars fun v => select v none).run query = .ok () { query with
      clauses := query.clauses.selecting (Variable.unseen query.clauses.selected vars) } := by
  induction vars generalizing query with
  | nil =>
      rw [Variable.unseen, Clauses.selecting_nil]
      cases query
      rfl
  | cons v rest induction =>
      rw [List.forM_cons, EStateM.run_bind, run_select]
      dsimp only
      rw [induction, Clauses.selected_selecting, Clauses.selecting_selecting,
        ← Variable.unseen_append]
      rfl

end Build

/-! ## The shape -/

namespace Query

def bodyPartIds (query : Query) : List PatternId :=
  query.clauses.body.toList.flatMap fun body =>
    ((query.arena.get? body).filter Pattern.isGroup).elim [body] Pattern.children

theorem bodyPartIds_congr {query query' : Query} (body : query'.clauses.body = query.clauses.body)
    (frames : query'.arena.patterns.map Pattern.frame = query.arena.patterns.map Pattern.frame) :
    query'.bodyPartIds = query.bodyPartIds := by
  have told (query : Query) (body : PatternId) :
      ((query.arena.get? body).filter Pattern.isGroup).elim [body] Pattern.children =
        ((query.arena.patterns.map Pattern.frame)[body]?.filter (·.1)).elim [body] (·.2) := by
    rw [List.getElem?_map, Option.filter_map, Option.elim_map]
    rfl
  rw [bodyPartIds, bodyPartIds, body]
  exact List.flatMap_congr fun body _ => by rw [told, told, frames]

/-- What the body binds as long as subqueries offer only what they project so far. -/
def bound (query : Query) : List Variable := query.bodyBinds (·.clauses.selected)

/-- The terms named to be described, which are all these variables if none is named. -/
def named (query : Query) (vars : List Variable) : List Expr :=
  if query.clauses.selectAll && query.clauses.describe.isEmpty then vars.map .var
  else query.clauses.describe

/-- The variables among these that are projected too, if all are asked for. -/
def missing (query : Query) (vars : List Variable) : List Variable :=
  if query.clauses.selectAll then Variable.unseen query.clauses.selected vars else []

/-- Of the named terms, those that are no variables and the variables that are projected are
described in the other query: as optional parts of a new body after those of the old one, and by the
same unions in a new template, with new variables for each. -/
structure Describes (named : List Expr) (descriptions : List Description)
    (query query' : Query) : Prop where
  of : List.Forall₂ (Description.Of query'.arena)
    (named.filter fun term => term.asVariable?.all (·.occursIn query'.clauses.selected))
    descriptions
  after : ∀ made ∈ descriptions, made.After query.arena
  body : ∃ body, query'.clauses.body = some body ∧ query.arena.size ≤ body ∧
    query'.arena.get? body = some (.group (query.bodyPartIds ++ descriptions.map (·.optional)))
  template : ∃ template, query'.clauses.construct = some template ∧ query.arena.size ≤ template ∧
    query'.arena.get? template = some (.group (descriptions.map (·.either)))
  vars : descriptions.flatMap (·.vars) = query.nextVars (4 * descriptions.length)

/-- More variables are projected. Clauses other than those of the result and the body are kept, and
so are all patterns. -/
structure Rebuilt (added : List Variable) (named : List Expr) (query query' : Query) : Prop where
  clauses : query'.clauses = { query.clauses.selecting added with
    describe := named.map Expr.visited
    body := query'.clauses.body
    construct := query'.clauses.construct }
  patterns : query.arena.patterns <+: query'.arena.patterns

def Unbindable (query : Query) : Prop :=
  ∃ body failure, query.clauses.body = some body ∧ query.arena.bindable body = .error failure

end Query

/-! ## Describing -/

namespace Build

/-- Put the descriptions where they belong, each by its union and by its optional part. -/
def placeDescriptions (ids : List (PatternId × PatternId)) : Build Unit := do
  let body ← group ((← bodyParts) ++ ids.map (·.2))
  modifyClauses fun clauses => { clauses with body := some body }
  let template ← group (ids.map (·.1))
  modifyClauses fun clauses => { clauses with construct := some template }

def describeNamed : Build Unit := do
  let ids ← (described (← get).clauses).mapM description
  modifyClauses fun clauses => { clauses with describe := clauses.describe.map Expr.visited }
  placeDescriptions ids

theorem normalizeDescribe_eq : normalizeDescribe = (do
    let bound ← bodyVariables
    if (← get).clauses.selectAll then describeAll bound
    describeNamed) := rfl

def KnowsBody (query : Query) : Prop :=
  ∀ body, query.clauses.body = some body → ∃ p, query.arena.get? body = some p

theorem ends_bodyParts {query : Query} (known : KnowsBody query) :
    Ends bodyParts query (fun parts query' => parts = query.bodyPartIds ∧ query' = query)
      fun _ _ => False := by
  rw [bodyParts, ends_bind, ends_get, Query.bodyPartIds]
  cases here : query.clauses.body with
  | none => exact ⟨rfl, rfl⟩
  | some body =>
      rcases known body here with ⟨p, found⟩
      dsimp only
      rw [ends_bind, ends_pattern, found]
      cases p <;> simp [found, Option.filter, Pattern.isGroup, Pattern.children]

theorem ends_placeDescriptions {query : Query} (known : KnowsBody query)
    (ids : List (PatternId × PatternId)) :
    Ends (placeDescriptions ids) query
      (fun _ query' => ∃ body template,
        query'.clauses =
          { query.clauses with body := some body, construct := some template } ∧
        query.arena.patterns <+: query'.arena.patterns ∧
        query.arena.size ≤ body ∧
        query'.arena.get? body = some (.group (query.bodyPartIds ++ ids.map (·.2))) ∧
        query.arena.size ≤ template ∧
        query'.arena.get? template = some (.group (ids.map (·.1))))
      fun _ _ => False := by
  apply (ends_bodyParts known).bind
  rintro _ query ⟨rfl, rfl⟩
  apply (ends_added _ _).bind
  rintro body query₁ ⟨added₁, sizeBody, groupBody⟩
  rw [ends_bind, modifyClauses, ends_modify]
  apply (ends_added _ _).bind
  rintro template query₂ ⟨added₂, sizeTemplate, groupTemplate⟩
  rw [modifyClauses, ends_modify]
  refine ⟨body, template, ?_, added₁.patterns.trans added₂.patterns, sizeBody,
    added₂.get? groupBody, added₁.size_le.trans sizeTemplate, groupTemplate⟩
  rw [added₂.clauses, added₁.clauses]

theorem bodyPartIds_of_extends {count : Nat} {query query' : Query}
    (added : query.Extends count query') (known : KnowsBody query) :
    query'.bodyPartIds = query.bodyPartIds := by
  rw [Query.bodyPartIds, Query.bodyPartIds, added.clauses]
  refine List.flatMap_congr fun body member => ?_
  rcases known body (by simpa using member) with ⟨p, found⟩
  rw [found, added.get? found]

theorem KnowsBody.of_extends {count : Nat} {query query' : Query} (known : KnowsBody query)
    (added : query.Extends count query') : KnowsBody query' := by
  intro body here
  rcases known body (added.clauses ▸ here) with ⟨p, found⟩
  exact ⟨p, added.get? found⟩

theorem ends_describeNamed {query : Query} (known : KnowsBody query) :
    Ends describeNamed query
      (fun _ query' =>
        (∃ descriptions, query.Describes query.clauses.describe descriptions query') ∧
        query.Rebuilt [] query.clauses.describe query')
      fun _ _ => False := by
  rw [describeNamed, ends_bind, ends_get]
  apply (ends_descriptions _ query).bind
  rintro _ query₁ ⟨descriptions, rfl, added, are, after, vars⟩
  rw [ends_bind, modifyClauses, ends_modify]
  have parts := bodyPartIds_of_extends added known
  have known₁ := known.of_extends added
  have size := added.size_le
  refine (ends_placeDescriptions ?_ _).imp ?_ fun _ _ => id
  · exact known₁
  rintro _ query' ⟨body, template, clauses, patterns, sizeBody, groupBody, sizeTemplate,
    groupTemplate⟩
  have stays : query₁.Extends 0 { query₁ with arena := query'.arena } := ⟨rfl, patterns, rfl⟩
  have selected : query'.clauses.selected = query.clauses.selected := by
    rw [clauses, ← added.clauses]
    rfl
  refine ⟨⟨descriptions, ?_, after, ⟨body, ?_, size.trans sizeBody, ?_⟩,
    ⟨template, ?_, size.trans sizeTemplate, ?_⟩, ?_⟩, ?_, added.patterns.trans patterns⟩
  · rw [selected]
    exact are.imp fun term made is => stays.of is
  · rw [clauses]
  · rw [groupBody, List.map_map]
    exact congrArg (fun parts => some (Pattern.group (parts ++ _))) parts
  · rw [clauses]
  · rw [groupTemplate, List.map_map]
    rfl
  · rw [vars, are.length_eq]
  · rw [clauses, added.clauses, Clauses.selecting_nil]

theorem ends_bodyVariables (query : Query) :
    Ends bodyVariables query
      (fun vars query' => vars = query.bound ∧ query' = query ∧ KnowsBody query)
      fun _ _ => query.Unbindable := by
  rw [bodyVariables, ends_bind, ends_get, Query.bound, Query.bodyBinds, KnowsBody,
    Query.Unbindable]
  cases query.clauses.body with
  | none => exact ⟨rfl, rfl, by simp⟩
  | some body =>
      dsimp only
      rw [ends_inspect]
      split
      · next vars looked =>
          refine ⟨by simp [Arena.bindable_eq looked], rfl, ?_⟩
          rintro _ ⟨rfl⟩
          exact Arena.found_of_bindable looked
      · next failure looked => exact ⟨body, failure, rfl, looked⟩

theorem run_describeAll (vars : List Variable) (query : Query) :
    (describeAll vars).run query = .ok () { query with
      clauses := { query.clauses.selecting (Variable.unseen query.clauses.selected vars) with
        describe :=
          if query.clauses.describe.isEmpty then vars.map .var else query.clauses.describe } } := by
  rw [describeAll, EStateM.run_bind, EStateM.run_get]
  dsimp only
  split
  · rw [EStateM.run_bind, modifyClauses, EStateM.run_modify]
    exact run_selectAll vars _
  · exact run_selectAll vars query

theorem ends_normalizeDescribe (query : Query) :
    Ends normalizeDescribe query
      (fun _ query' =>
        (∃ descriptions, query.Describes (query.named query.bound) descriptions query') ∧
        query.Rebuilt (query.missing query.bound) (query.named query.bound) query')
      fun _ _ => query.Unbindable := by
  rw [normalizeDescribe_eq]
  apply (ends_bodyVariables query).bind
  rintro _ query ⟨rfl, rfl, known⟩
  rw [ends_bind, ends_get, Query.named, Query.missing]
  cases all : query.clauses.selectAll with
  | false => exact (ends_describeNamed known).imp (fun _ _ => id) fun _ _ => False.elim
  | true =>
      rw [if_pos rfl, ends_bind]
      refine .of_run_ok (run_describeAll query.bound query) ?_
      refine (ends_describeNamed ?_).imp ?_ fun _ _ => False.elim
      · exact known
      rintro _ query' ⟨⟨descriptions, shape⟩, rebuilt⟩
      refine ⟨⟨descriptions, shape.of, shape.after, shape.body, shape.template, shape.vars⟩, ?_,
        rebuilt.patterns⟩
      rw [rebuilt.clauses, Clauses.selecting_nil]
      rfl

end Build

/-! ## Described queries -/

namespace Query

/-- The variables differ from one another, from all whose names have no `#`, and from those that
calls on the query made up. -/
structure Unused (query : Query) (vars : List Variable) : Prop where
  distinct : (vars.map (·.name)).Nodup
  marked : ∀ v ∈ vars, ∀ w : Variable, '#' ∉ w.name.toList → w.name ≠ v.name
  unminted : ∀ may names, query.Mints may names → ∀ v ∈ vars, v.name ∉ names []

theorem nextVars_unused (query : Query) (count : Nat) : query.Unused (query.nextVars count) where
  distinct := by
    rw [nextVars, List.map_map]
    exact (List.nodup_range' ..).map fun number number' equal =>
      Name.var.inj (Name.text_injective equal)
  marked v member w unmarked equal := by
    rcases List.mem_map.mp member with ⟨number, _, rfl⟩
    rw [equal] at unmarked
    exact unmarked (by simp [Name.text, toString])
  unminted may names mints v member minted := by
    rcases List.mem_map.mp member with ⟨number, inside, rfl⟩
    have below := mints.counts.vars number minted
    exact Nat.not_lt_of_le (List.mem_range'_1.mp inside).1 below

theorem Describes.congr {named : List Expr} {descriptions : List Description}
    {start start' query query' : Query} (shape : start.Describes named descriptions query)
    (body : start'.clauses.body = start.clauses.body)
    (frames : start'.arena.patterns.map Pattern.frame = start.arena.patterns.map Pattern.frame)
    (vars : start'.supply.vars = start.supply.vars) (arena : query'.arena = query.arena)
    (clauses : query'.clauses = query.clauses) :
    start'.Describes named descriptions query' := by
  have size : start'.arena.size = start.arena.size := by
    simpa [Arena.size] using congrArg List.length frames
  have nextVars : start'.nextVars = start.nextVars := by
    funext count
    rw [Query.nextVars, Query.nextVars, vars]
  constructor
  · rw [arena, clauses]
    exact shape.of
  · intro made member
    have after := shape.after made member
    exact ⟨size.le.trans after.either, size.le.trans after.optional⟩
  · rw [arena, clauses, size, bodyPartIds_congr body frames]
    exact shape.body
  · rw [arena, clauses, size]
    exact shape.template
  · rw [nextVars]
    exact shape.vars

/-- No subquery that the body draws on offers more than it projects so far. -/
def DrawsPlainly (query : Query) : Prop :=
  ∀ id ∈ query.arena.drawn query.clauses.body.toList, ∀ sub,
    query.arena.get? id = some (.subquery sub) → sub.offered = sub.clauses.selected

theorem DrawsPlainly.bound_eq {query : Query} (plainly : query.DrawsPlainly) :
    query.bound = query.bodyBinds offered := by
  rw [bound, bodyBinds, bodyBinds]
  refine List.flatMap_congr fun body member => Arena.binds_congr rfl fun next draws => ?_
  cases found : query.arena.get? next with
  | none => rfl
  | some p =>
      cases p with
      | subquery sub =>
          have same := plainly next ⟨⟨body, member, draws⟩, sub, found⟩ sub found
          simp [Pattern.outline, Pattern.own, same]
      | _ => rfl

end Query

namespace Build

theorem exists_described {query query' : Query} (form : query.clauses.form = .describe)
    (new : query.normalized = false) (run : normalize.run query = .ok () query') :
    (∃ descriptions, query.Describes (query.named (withNormalized query).bound) descriptions
        query') ∧
      query'.clauses.selected =
        query.clauses.selected ++ query.missing (withNormalized query).bound ∧
      query'.clauses.describe = (query.named (withNormalized query).bound).map Expr.visited ∧
      query'.clauses.form = .describe ∧ query'.normalized = true := by
  rcases exists_formed new run with
    ⟨settled, formed, rephrased, run', arena, clauses, normalized⟩
  have ⟨change, _, _, settledClauses, supply⟩ := rephrased
  have form' : settled.clauses.form = .describe := by
    rw [settledClauses]
    exact form
  have described : normalizeForm.run settled = normalizeDescribe.run settled := by
    rw [normalizeForm, EStateM.run_bind, EStateM.run_get]
    simp only [form']
  rw [described] at run'
  rcases (ends_normalizeDescribe settled).of_ok run' with ⟨⟨descriptions, shape⟩, rebuilt⟩
  have bound : settled.bound = (withNormalized query).bound := by
    rw [Query.bound, Query.bodyBinds, rephrased.binds, settledClauses]
    rfl
  have named : settled.named settled.bound = query.named (withNormalized query).bound := by
    rw [Query.named, settledClauses, bound]
    rfl
  have selected : settled.clauses.selected = query.clauses.selected := by
    rw [settledClauses, Clauses.selected_mapValues]
    rfl
  have missing : settled.missing settled.bound = query.missing (withNormalized query).bound := by
    rw [Query.missing, selected, settledClauses, bound]
    rfl
  have frames : query.arena.patterns.map Pattern.frame =
      settled.arena.patterns.map Pattern.frame :=
    (map_normalizePatterns Pattern.frame fun _ _ => rfl).symm.trans rephrased.frames.symm
  have shape' : query.Describes (settled.named settled.bound) descriptions query' :=
    shape.congr (by rw [settledClauses]; rfl) frames (by rw [supply]; rfl) arena clauses
  rw [named] at shape' rebuilt
  refine ⟨⟨descriptions, shape'⟩, ?_, ?_, ?_, normalized⟩
  · rw [clauses, rebuilt.clauses, ← selected, ← missing]
    exact Clauses.selected_selecting ..
  · rw [clauses, rebuilt.clauses]
  · rw [clauses, rebuilt.clauses]
    exact form'

/-- A query of descriptions is normalized to the shape of descriptions. If none is named and all are
asked for, then the variables are described that the body binds for those outside when each subquery
offers what it projects so far. These are all that the body can bind, unless it draws on a subquery
that projects all and still lacks some. -/
theorem described_normalize {query query' : Query} (form : query.clauses.form = .describe)
    (new : query.normalized = false) (run : normalize.run query = .ok () query') :
    ∃ descriptions : List Description,
      query.Describes (query.named (withNormalized query).bound) descriptions query' ∧
      query.Unused (descriptions.flatMap (·.vars)) ∧
      query'.clauses.selected =
        query.clauses.selected ++ query.missing (withNormalized query).bound ∧
      query'.clauses.form = .describe ∧ query'.buildsGraph = true ∧
      ((withNormalized query).DrawsPlainly →
        (withNormalized query).bound = (withNormalized query).bodyBinds Query.offered) := by
  rcases exists_described form new run with
    ⟨⟨descriptions, shape⟩, selected, _, form', normalized⟩
  refine ⟨descriptions, shape, ?_, selected, form', ?_, Query.DrawsPlainly.bound_eq⟩
  · rw [shape.vars]
    exact query.nextVars_unused _
  · rcases shape.template with ⟨template, here, _⟩
    rw [Query.buildsGraph, form', normalized, here]
    rfl

def describingTriple : Query := (Operation.setForm .describe).run.after allOfTriple

theorem describingTriple_described :
    (∃ value, normalize.run describingTriple = .ok value (normalize.after describingTriple)) ∧
      ∃ descriptions : List Description,
        describingTriple.Describes
          (describingTriple.named (withNormalized describingTriple).bound) descriptions
          (normalize.after describingTriple) ∧
        describingTriple.Unused (descriptions.flatMap (·.vars)) ∧
        (normalize.after describingTriple).clauses.selected =
          describingTriple.clauses.selected ++
            describingTriple.missing (withNormalized describingTriple).bound ∧
        (normalize.after describingTriple).clauses.form = .describe ∧
        (normalize.after describingTriple).buildsGraph = true ∧
        ((withNormalized describingTriple).DrawsPlainly →
          (withNormalized describingTriple).bound =
            (withNormalized describingTriple).bodyBinds Query.offered) := by
  have run : ∃ value, normalize.run describingTriple =
      .ok value (normalize.after describingTriple) :=
    exists_run_of_returns (by decide +kernel)
  refine ⟨run, ?_⟩
  rcases run with ⟨⟨⟩, run⟩
  exact described_normalize rfl rfl run

/-- A query that describes all that a query of a triple offers, and projects the variables of the
triple by name. -/
def describingAround : Query :=
  (Operation.setForm .describe).run.after
    ((Operation.select (.ofName "y") none).run.after
      ((Operation.select (.ofName "x") none).run.after (around allOfTriple)))

def templateParts (query : Query) : Option (List PatternId) :=
  (query.clauses.construct.bind query.arena.get?).map Pattern.children

theorem describingAround_undescribed :
    describingAround.clauses.form = .describe ∧ describingAround.normalized = false ∧
      describingAround.clauses.selectAll = true ∧ describingAround.clauses.describe = [] ∧
      (∃ value, normalize.run describingAround = .ok value (normalize.after describingAround)) ∧
      (describingAround.bodyBinds Query.offered).map (·.name) = ["x", "y"] ∧
      describingAround.clauses.selected.map (·.name) = ["x", "y"] ∧
      (normalize.after describingAround).clauses.selected.map (·.name) = ["x", "y"] ∧
      templateParts (normalize.after describingAround) = some [] := by
  refine ⟨rfl, rfl, rfl, rfl, exists_run_of_returns ?_, ?_, rfl, ?_, ?_⟩ <;> decide +kernel

end Build

end Sparql
