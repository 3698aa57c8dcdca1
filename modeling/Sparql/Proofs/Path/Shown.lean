import Sparql.Proofs.Describe.Terms
import Sparql.Proofs.Path.Bounded

/-!
How a path is shown before and after it is planned. The mark of a repetition is shown by its bounds
only, which it gets when the path is planned. So the mark is missing before that, and a path is
shown alike if and only if it has no such repetition: `Build.shown_triple`.
-/

namespace Sparql

namespace Path

/-! ## Marks -/

/-- The mark that stands for a repetition. One that is counted is written with numbers instead. -/
def mark? : Operator → Option String
  | .star => some "*"
  | .plus => some "+"
  | .zeroOrOne => some "?"
  | _ => none

theorem map_text_boundsOf? (operator : Operator) :
    (boundsOf? operator).map (·.text) = mark? operator := by
  cases operator <;> rfl

theorem boundsOf?_eq_none_iff {operator : Operator} :
    boundsOf? operator = none ↔ mark? operator = none := by
  rw [← map_text_boundsOf?, Option.map_eq_none_iff]

def markCount (e : Expr) : Nat := (skeleton e).countP fun head => (mark? head.operator).isSome

theorem markCount_eq_zero_iff {e : Expr} :
    markCount e = 0 ↔ ∀ head ∈ skeleton e, mark? head.operator = none := by
  simp [markCount]

/-! ## Paths without marks -/

mutual
theorem bounded_eq_self (e : Expr) (unmarked : ∀ head ∈ skeleton e, mark? head.operator = none) :
    bounded e = e := by
  cases e with
  | var v => rfl
  | const c => rfl
  | call head args =>
      rw [bounded]
      split
      · next path =>
          rw [skeleton, if_pos path] at unmarked
          have here : boundsOf? head.operator = none :=
            boundsOf?_eq_none_iff.mpr (unmarked head (List.mem_cons_self ..))
          have same : withBounds head = head := by rw [withBounds, here, Option.or_none]
          rw [same, boundedAll_eq_self args fun head' member =>
            unmarked head' (List.mem_cons_of_mem _ member)]
      · rfl

theorem boundedAll_eq_self (args : List Expr)
    (unmarked : ∀ head ∈ skeletonOf args, mark? head.operator = none) :
    boundedAll args = args := by
  cases args with
  | nil => rfl
  | cons e rest =>
      rw [skeletonOf] at unmarked
      rw [boundedAll, bounded_eq_self e fun head member =>
          unmarked head (List.mem_append_left _ member),
        boundedAll_eq_self rest fun head member => unmarked head (List.mem_append_right _ member)]
end

/-! ## Texts of operators -/

theorem exists_text_eq (head : Call) (path : head.isPath = true)
    (noSequence : head.operator ≠ .sequence) (noAlternative : head.operator ≠ .alternative) :
    ∃ before after : String, ∀ (bounds : Option Bounds) (step : String),
      ({ head with bounds } : Call).text [step] = before ++ step ++ after ++
        if head.operator.isRepetition then (bounds.map (·.text)).getD "" else "" := by
  rcases head with ⟨name, longName, operator, distinct, bounds, modality, regex, external, pattern⟩
  cases operator with
  | star | plus | zeroOrOne | counted =>
      exact ⟨"", "", fun bounds step => by simp [Call.text, Operator.isRepetition]⟩
  | inverse => exact ⟨"^", "", fun bounds step => by simp [Call.text, Operator.isRepetition]⟩
  | negation => exact ⟨"!", "", fun bounds step => by simp [Call.text, Operator.isRepetition]⟩
  | short | shortAll | all | distinctPaths | depthFirst | breadthFirst =>
      refine ⟨name ++ "(" ++ if distinct then "distinct " else "", ")", fun bounds step => ?_⟩
      simp [Call.text, Operator.isRepetition, Operator.symbol?, Call.applied]
  | sequence => exact absurd rfl noSequence
  | alternative => exact absurd rfl noAlternative
  | _ => cases path

theorem text_pair {head : Call} (pair : head.operator = .sequence ∨ head.operator = .alternative) :
    ∃ between, ∀ left right : String, head.text [left, right] =
      "(" ++ (left ++ between ++ right) ++ ")" := by
  rcases pair with sequence | alternative
  · refine ⟨"/", fun left right => ?_⟩
    simp only [Call.text, sequence]
    rfl
  · refine ⟨"|", fun left right => ?_⟩
    simp only [Call.text, alternative]
    rfl

theorem exists_unary_of_pathOperator {symbol : String} {operand e : Expr} {query query' : Query}
    (run : (Build.pathOperator symbol operand).run query = .ok e query') :
    ∃ operator, operator.isPath = true ∧ operator ≠ .sequence ∧ operator ≠ .alternative ∧
      e = .call { name := symbol, operator } [operand] := by
  have all : ∀ entry ∈ Operator.pathSymbols, entry.2.isPath = true := by decide
  unfold Build.pathOperator at run
  split at run
  · next operator found =>
      split at run
      · cases run
      · next unary =>
          cases run
          rcases List.lookup_eq_some_iff.mp found with ⟨before, after, equal, _⟩
          have entered := all (_, operator)
            (equal ▸ List.mem_append_right _ (List.mem_cons_self ..))
          exact ⟨operator, entered, (unary <| .inl ·), (unary <| .inr ·), rfl⟩
  · cases run

/-! ## Texts of paths -/

theorem text_call_single (head : Call) (e : Expr) :
    (Expr.call head [e]).text = head.text [e.text] := by
  rw [Expr.text, Expr.texts, Expr.texts]

theorem text_call_pair (head : Call) (left right : Expr) :
    (Expr.call head [left, right]).text = head.text [left.text, right.text] := by
  rw [Expr.text, Expr.texts, Expr.texts, Expr.texts]

theorem bounded_call {head : Call} (path : head.isPath = true) (args : List Expr) :
    bounded (.call head args) = .call (withBounds head) (boundedAll args) := by
  rw [bounded, if_pos path]

theorem texts_marked {name : String} {operator : Operator} {operand : Expr} {mark : String}
    (marked : mark? operator = some mark) :
    (Expr.call { name, operator } [operand]).text = operand.text ∧
      (bounded (.call { name, operator } [operand])).text = (bounded operand).text ++ mark := by
  cases operator <;> cases marked <;>
    exact ⟨by simp [text_call_single, Call.text],
      by simp [bounded, boundedAll, text_call_single, Call.text, Call.isPath, Operator.isPath,
        Operator.family]; rfl⟩

theorem markCount_call {head : Call} (path : head.isPath = true) (args : List Expr) :
    markCount (.call head args) = (if (mark? head.operator).isSome then 1 else 0) +
      (skeletonOf args).countP fun head => (mark? head.operator).isSome := by
  rw [markCount, skeleton, if_pos path, List.countP_cons, Nat.add_comm]

section

variable {head : Call} {operand left right : Expr}

theorem length_text_single (path : head.isPath = true) (noSequence : head.operator ≠ .sequence)
    (noAlternative : head.operator ≠ .alternative)
    (missing : head.bounds = none ∨ mark? head.operator = none)
    (inside : (bounded operand).text.length = operand.text.length + markCount operand) :
    (bounded (.call head [operand])).text.length =
      (Expr.call head [operand]).text.length + markCount (.call head [operand]) := by
  obtain ⟨before, after, shown⟩ := exists_text_eq head path noSequence noAlternative
  have now : (Expr.call head [operand]).text = before ++ operand.text ++ after ++
      if head.operator.isRepetition then (head.bounds.map (·.text)).getD "" else "" := by
    rw [text_call_single]
    exact shown head.bounds _
  have later : (bounded (.call head [operand])).text =
      before ++ (bounded operand).text ++ after ++ if head.operator.isRepetition then
        ((head.bounds.or (boundsOf? head.operator)).map (·.text)).getD "" else "" := by
    rw [bounded_call path, boundedAll, boundedAll, text_call_single]
    exact shown (head.bounds.or (boundsOf? head.operator)) _
  have mark : (if head.operator.isRepetition then
        ((head.bounds.or (boundsOf? head.operator)).map (·.text)).getD "" else "").length =
      (if head.operator.isRepetition then (head.bounds.map (·.text)).getD "" else "").length +
        if (mark? head.operator).isSome then 1 else 0 := by
    rcases missing with none | unmarked
    · rw [none]
      cases head.operator <;> rfl
    · rw [boundsOf?_eq_none_iff.mpr unmarked, Option.or_none, unmarked]
      rfl
  have count : markCount (.call head [operand]) =
      (if (mark? head.operator).isSome then 1 else 0) + markCount operand := by
    rw [markCount_call path, skeletonOf, skeletonOf, List.append_nil, markCount]
  rw [now, later, count]
  simp only [String.length_append, mark, inside]
  omega

theorem length_text_pair (pair : head.operator = .sequence ∨ head.operator = .alternative)
    (inLeft : (bounded left).text.length = left.text.length + markCount left)
    (inRight : (bounded right).text.length = right.text.length + markCount right) :
    (bounded (.call head [left, right])).text.length =
      (Expr.call head [left, right]).text.length + markCount (.call head [left, right]) := by
  have path : head.isPath = true := by
    rcases pair with sequence | alternative
    · rw [Call.isPath, sequence]; rfl
    · rw [Call.isPath, alternative]; rfl
  have unmarked : mark? head.operator = none := by
    rcases pair with sequence | alternative
    · rw [sequence]; rfl
    · rw [alternative]; rfl
  obtain ⟨between, shown⟩ := text_pair pair
  have same : withBounds head = head := by
    rw [withBounds, boundsOf?_eq_none_iff.mpr unmarked, Option.or_none]
  have count : markCount (.call head [left, right]) = markCount left + markCount right := by
    rw [markCount_call path, unmarked, skeletonOf, skeletonOf, skeletonOf, List.append_nil,
      List.countP_append, markCount, markCount, Option.isSome_none, if_neg Bool.false_ne_true,
      Nat.zero_add]
  rw [bounded_call path, same, boundedAll, boundedAll, boundedAll, text_call_pair, text_call_pair,
    shown, shown, count]
  simp only [String.length_append, inLeft, inRight]
  omega

end

theorem Made.length_text_bounded {e : Expr} (made : Made e) :
    (bounded e).text.length = e.text.length + markCount e := by
  -- The induction is on how the path is made.
  induction made with
  | step single =>
      rw [bounded_eq_self _ (by simp [single]), markCount, single, List.countP_nil, Nat.add_zero]
  | operator made run induction =>
      obtain ⟨operator, path, noSequence, noAlternative, rfl⟩ := exists_unary_of_pathOperator run
      exact length_text_single path noSequence noAlternative (.inl rfl) induction
  | repeated made run induction =>
      obtain ⟨bounds, written, rfl⟩ := exists_of_repeated run
      exact length_text_single rfl nofun nofun (.inr rfl) induction
  | pair madeLeft madeRight run inductionLeft inductionRight =>
      obtain ⟨operator, kind, rfl⟩ := exists_of_pathPair run
      exact length_text_pair kind inductionLeft inductionRight

/-- A path that is made is shown as before once it is planned, if and only if none of its
repetitions is written with a mark. -/
theorem Made.text_bounded_eq_iff {e : Expr} (made : Made e) :
    (bounded e).text = e.text ↔ ∀ head ∈ skeleton e, mark? head.operator = none := by
  refine ⟨fun same => markCount_eq_zero_iff.mp ?_, fun unmarked => by
    rw [bounded_eq_self e unmarked]⟩
  have longer := made.length_text_bounded
  rw [same] at longer
  omega

end Path

namespace Path

/-- A path that no modifier is peeled off is the core of its plan, with the bounds that it lacks. -/
theorem core_ofExpr {path : Expr} (outermost : (peel path).1 = []) (semantics : PathSemantics) :
    (Plan.ofExpr semantics path).core = bounded path := by
  have whole : peel path = ([], path) := by
    induction path using peel.induct with
    | case1 head operand modifier modifiers core peeled induction =>
        rw [peel, if_pos modifier] at outermost
        cases outermost
    | case2 head operand other => rw [peel, if_neg other]
    | case3 e other => exact peel.eq_2 e other
  simp [Plan.ofExpr_eq, whole]

end Path

namespace Build

theorem run_planPath {path : Expr} (steps : ∀ leaf ∈ Path.leaves path, Path.misstep? leaf = none)
    (query : Query) :
    (planPath path).run query =
      .ok (Path.Plan.ofExpr query.options.pathSemantics path) query := by
  have none : Path.problems path = [] := by
    rw [Path.problems_eq_faults, Path.faults_eq_filterMap, Path.leaves_peel,
      List.filterMap_eq_nil_iff]
    exact steps
  rw [planPath, EStateM.run_bind, EStateM.run_get]
  dsimp only
  rw [none]
  rfl

theorem ends_planned {path : Expr} (steps : ∀ leaf ∈ Path.leaves path, Path.misstep? leaf = none)
    (subject node object : Expr) (query : Query) :
    Ends (triple subject { node, path := some path } object) query
      (fun id query' => ∃ t, query'.arena.get? id = some (.triple t) ∧
        t.path = some (Path.Plan.ofExpr query.options.pathSemantics path))
      fun _ _ => False := by
  have planned : Ends (planPath path) query
      (fun plan query' => plan = Path.Plan.ofExpr query.options.pathSemantics path ∧
        query' = query) fun _ _ => False :=
    .of_run_ok (run_planPath steps query) ⟨rfl, rfl⟩
  have added (arena : Arena Query) (t : Triple) :
      (arena.push (.triple t)).get? arena.size = some (.triple t) :=
    (Arena.get?_push ..).trans (if_pos rfl)
  rw [triple, Option.mapM_some]
  simp only [ends_bind, ends_map]
  refine planned.imp ?_ fun _ _ => id
  rintro _ _ ⟨rfl, rfl⟩
  simp only [push, ends_bind, ends_get, ends_modify, ends_pure]
  split
  · exact ⟨_, added _ _, rfl⟩
  · exact ⟨_, added _ _, rfl⟩

/-- A triple takes every path of IRIs and variables. If no modifier is peeled off the path, then it
is shown by the triple as it was shown before, if and only if no repetition in it is written with a
mark. A repetition by a mark is shown like what it repeats, until the triple shows the mark. -/
theorem shown_triple {path : Expr} (made : Path.Made path)
    (steps : ∀ leaf ∈ Path.leaves path, Path.misstep? leaf = none)
    (outermost : (Path.peel path).1 = []) (subject node object : Expr) (query : Query) :
    ∃ id query' t plan,
      (triple subject { node, path := some path } object).run query = .ok id query' ∧
      query'.arena.get? id = some (.triple t) ∧ t.path = some plan ∧
      (plan.core.text = path.text ↔
        ∀ head ∈ Path.skeleton path, Path.mark? head.operator = none) ∧
      ∀ name operator operand mark, path = .call { name, operator } [operand] →
        Path.mark? operator = some mark → path.text = operand.text ∧
          plan.core.text = (Path.bounded operand).text ++ mark := by
  rcases (ends_planned steps subject node object query).exists_ok with
    ⟨id, query', run, t, found, planned⟩
  refine ⟨id, query', t, _, run, found, planned, ?_, ?_⟩
  · rw [Path.core_ofExpr outermost]
    exact made.text_bounded_eq_iff
  · rintro name operator operand mark rfl marked
    rw [Path.core_ofExpr outermost]
    exact Path.texts_marked marked

def knows : Expr := .const (.iri "http://example.org/knows")

def anyKnown : Expr := .call { name := "*", operator := .star } [knows]

def someKnown : Expr := .call { name := "+", operator := .plus } [anyKnown]

theorem run_anyKnown : (pathOperator "*" knows).run {} = .ok anyKnown {} := by
  have star : Operator.ofPathSymbol? "*" = some .star := by decide +kernel
  rw [pathOperator, star]
  rfl

theorem shown_triple_someKnown :
    (∀ leaf ∈ Path.leaves someKnown, Path.misstep? leaf = none) ∧
    (Path.peel someKnown).1 = [] ∧
    ∃ id query' t plan,
      (triple knows { node := knows, path := some someKnown } knows).run {} = .ok id query' ∧
      query'.arena.get? id = some (.triple t) ∧ t.path = some plan ∧
      someKnown.text = "<http://example.org/knows>" ∧
      plan.core.text = "<http://example.org/knows>*+" ∧
      ¬ ∀ head ∈ Path.skeleton someKnown, Path.mark? head.operator = none := by
  have plus : Operator.ofPathSymbol? "+" = some .plus := by decide +kernel
  have run : (pathOperator "+" anyKnown).run {} = .ok someKnown {} := by
    rw [pathOperator, plus]
    rfl
  have steps : ∀ leaf ∈ Path.leaves someKnown, Path.misstep? leaf = none := by
    intro leaf member
    have : Path.leaves someKnown = [knows] := rfl
    rw [this, List.mem_singleton] at member
    rw [member]
    decide
  rcases shown_triple (.operator (.operator (.step rfl) run_anyKnown) run) steps rfl knows knows
    knows {} with ⟨id, query', t, plan, ran, found, planned, same, marked⟩
  have texts := marked "+" .plus anyKnown "+" rfl rfl
  have before : someKnown.text = "<http://example.org/knows>" := texts.1.trans (by decide)
  have after : plan.core.text = "<http://example.org/knows>*+" := texts.2.trans (by decide)
  refine ⟨steps, rfl, id, query', t, plan, ran, found, planned, before, after, fun unmarked => ?_⟩
  rw [same.mpr unmarked, before] at after
  exact absurd after (by decide)

/-- Before a triple takes them, the paths `knows*`, `knows+` and `knows?` are all shown as `knows`.
The triple then shows `knows*`. -/
theorem marks_unshown :
    ∃ star plus optional,
      (pathOperator "*" knows).run {} = .ok star {} ∧
      (pathOperator "+" knows).run {} = .ok plus {} ∧
      (pathOperator "?" knows).run {} = .ok optional {} ∧
      star.text = knows.text ∧ plus.text = knows.text ∧ optional.text = knows.text ∧
      ∃ id query' t plan,
        (triple knows { node := knows, path := some star } knows).run {} = .ok id query' ∧
        query'.arena.get? id = some (.triple t) ∧ t.path = some plan ∧
        plan.core.text = knows.text ++ "*" ∧ plan.core.text ≠ star.text := by
  have plus : Operator.ofPathSymbol? "+" = some .plus := by decide +kernel
  have optional : Operator.ofPathSymbol? "?" = some .zeroOrOne := by decide +kernel
  refine ⟨anyKnown, .call { name := "+", operator := .plus } [knows],
    .call { name := "?", operator := .zeroOrOne } [knows], run_anyKnown, ?_, ?_, by decide,
    by decide, by decide, _, _, _, _, rfl, rfl, rfl, by decide, by decide⟩
  · rw [pathOperator, plus]
    rfl
  · rw [pathOperator, optional]
    rfl

end Build

end Sparql
