import Sparql.Proofs.Calls.Normalize
import Sparql.Proofs.Check.Levels

/-!
Normalizing trees of queries. The levels that normalizing is given do not show in its result:
subqueries are normalized as queries of their own, with the functions around them.
-/

namespace Sparql

def Query.inheriting (query : Query) (outer : List (String × Definition)) : Query :=
  { query with functions := query.functions.inherit outer }

theorem Query.inheriting_nil (query : Query) : query.inheriting [] = query := by
  cases query with
  | mk arena clauses functions =>
      cases functions
      simp [inheriting, Functions.inherit]

theorem Query.level_inheriting (query : Query) (outer : List (String × Definition)) :
    (query.inheriting outer).level = query.level :=
  Query.level_of_arena rfl rfl

namespace Build

/-! ## Levels -/

section

variable {normalizeSub normalizeSub' : Build Unit}

theorem normalizePatterns_congr {outer : List (String × Definition)}
    {patterns : List (Pattern Query)}
    (same : ∀ sub, Pattern.subquery sub ∈ patterns →
      normalizeSub.run (sub.inheriting outer) = normalizeSub'.run (sub.inheriting outer)) :
    normalizePatterns normalizeSub outer patterns =
      normalizePatterns normalizeSub' outer patterns := by
  induction patterns with
  | nil => rfl
  | cons p rest induction =>
      have others := induction fun sub member => same sub (List.mem_cons_of_mem _ member)
      cases p with
      | subquery sub =>
          have first := same sub (List.mem_cons_self ..)
          rw [Query.inheriting] at first
          rw [normalizePatterns, normalizePatterns, first, others]
      | _ =>
          rw [normalizePatterns, normalizePatterns, others]
          all_goals simp

theorem run_normalizeWith_congr {query : Query}
    (same : ∀ sub : Query, sub.IsPartOf query →
      normalizeSub.run (sub.inheriting query.functions.definitions) =
        normalizeSub'.run (sub.inheriting query.functions.definitions)) :
    (normalizeWith normalizeSub).run query = (normalizeWith normalizeSub').run query := by
  have patterns : normalizePatterns normalizeSub query.functions.definitions query.arena.patterns =
      normalizePatterns normalizeSub' query.functions.definitions query.arena.patterns := by
    apply normalizePatterns_congr
    intro sub member
    rcases List.getElem?_of_mem member with ⟨id, found⟩
    exact same sub ⟨id, found⟩
  have subqueries : (normalizeSubqueries normalizeSub).run query =
      (normalizeSubqueries normalizeSub').run query := by
    rw [normalizeSubqueries_eq, normalizeSubqueries_eq, EStateM.run_bind, EStateM.run_bind,
      EStateM.run_get]
    dsimp only
    rw [patterns]
  rw [normalizeWith_eq, normalizeWith_eq, EStateM.run_bind, EStateM.run_bind, EStateM.run_get]
  dsimp only
  split
  · rfl
  · rw [EStateM.run_bind, EStateM.run_bind, subqueries]

end

theorem level_inheriting_lt {query sub : Query} (part : sub.IsPartOf query)
    (outer : List (String × Definition)) : (sub.inheriting outer).level < query.level := by
  rcases part with ⟨id, found⟩
  rw [Query.level_inheriting]
  exact Query.level_lt_of_get? found

theorem run_normalizeAt_congr {level level' : Nat} {query : Query} (le : query.level ≤ level)
    (le' : query.level ≤ level') :
    (normalizeAt level).run query = (normalizeAt level').run query := by
  induction level generalizing level' query with
  | zero =>
      have whole (sub : Query) (part : sub.IsPartOf query) : False :=
        Nat.not_lt_zero _ (Nat.lt_of_lt_of_le (level_inheriting_lt part []) le)
      cases level' with
      | zero => rfl
      | succ level' => exact run_normalizeWith_congr fun sub part => (whole sub part).elim
  | succ level induction =>
      cases level' with
      | zero =>
          have whole (sub : Query) (part : sub.IsPartOf query) : False :=
            Nat.not_lt_zero _ (Nat.lt_of_lt_of_le (level_inheriting_lt part []) le')
          exact run_normalizeWith_congr fun sub part => (whole sub part).elim
      | succ level' =>
          apply run_normalizeWith_congr
          intro sub part
          have less := level_inheriting_lt part query.functions.definitions
          exact induction (by omega) (by omega)

theorem run_normalize_eq (query : Query) :
    normalize.run query = (normalizeWith normalize).run query := by
  have atLevel : normalize.run query = (normalizeAt (query.level + 1)).run query :=
    run_normalizeAt_congr (Nat.le_refl _) (Nat.le_succ _)
  rw [atLevel]
  apply run_normalizeWith_congr
  intro sub part
  have less := level_inheriting_lt part query.functions.definitions
  exact run_normalizeAt_congr (by omega) (Nat.le_refl _)

/-! ## Subqueries -/

section

variable {normalizeSub : Build Unit} {outer : List (String × Definition)}
  {patterns : List (Pattern Query)}

theorem normalizePatterns_of_ok {first first' : Query} {rest : List (Pattern Query)}
    (run : normalizeSub.run (first.inheriting outer) = .ok () first') :
    normalizePatterns normalizeSub outer (.subquery first :: rest) =
      (.subquery first' :: (normalizePatterns normalizeSub outer rest).1,
        (normalizePatterns normalizeSub outer rest).2) := by
  rw [Query.inheriting] at run
  rw [normalizePatterns, run]

theorem normalizePatterns_of_error {first first' : Query} {failure : Failure}
    {rest : List (Pattern Query)}
    (run : normalizeSub.run (first.inheriting outer) = .error failure first') :
    normalizePatterns normalizeSub outer (.subquery first :: rest) =
      (.subquery first' :: rest, some failure) := by
  rw [Query.inheriting] at run
  rw [normalizePatterns, run]

theorem exists_normalized {id : PatternId} {sub : Query}
    (found : patterns[id]? = some (.subquery sub)) :
    ∃ sub', (normalizePatterns normalizeSub outer patterns).1[id]? = some (.subquery sub') ∧
      ((normalizePatterns normalizeSub outer patterns).2 ≠ none ∧ sub' = sub ∨
        sub' = normalizeSub.after (sub.inheriting outer) ∧
          ((normalizePatterns normalizeSub outer patterns).2 = none →
            normalizeSub.run (sub.inheriting outer) = .ok () sub')) := by
  induction patterns generalizing id with
  | nil => simp at found
  | cons p rest induction =>
      cases p with
      | subquery first =>
          cases run : normalizeSub.run (first.inheriting outer) with
          | ok value first' =>
              rw [normalizePatterns_of_ok run]
              cases id with
              | zero =>
                  cases found
                  exact ⟨first', rfl, .inr ⟨(after_of_run_ok run).symm, fun _ => run⟩⟩
              | succ id => exact induction found
          | error failure first' =>
              rw [normalizePatterns_of_error run]
              cases id with
              | zero =>
                  cases found
                  refine ⟨first', rfl, .inr ⟨?_, by simp⟩⟩
                  rw [after, run]
              | succ id => exact ⟨sub, found, .inl ⟨by simp, rfl⟩⟩
      | _ =>
          cases id with
          | zero => cases found
          | succ id => exact induction found

theorem exists_error_of_normalizePatterns
    (failed : (normalizePatterns normalizeSub outer patterns).2 ≠ none) :
    ∃ sub, .subquery sub ∈ patterns ∧
      ∃ failure sub', normalizeSub.run (sub.inheriting outer) = .error failure sub' := by
  induction patterns with
  | nil => exact absurd rfl failed
  | cons p rest induction =>
      have onward (later : (normalizePatterns normalizeSub outer rest).2 ≠ none) :
          ∃ sub, .subquery sub ∈ p :: rest ∧
            ∃ failure sub', normalizeSub.run (sub.inheriting outer) = .error failure sub' := by
        rcases induction later with ⟨sub, member, run⟩
        exact ⟨sub, List.mem_cons_of_mem _ member, run⟩
      cases p with
      | subquery first =>
          cases run : normalizeSub.run (first.inheriting outer) with
          | ok value first' =>
              rw [normalizePatterns_of_ok run] at failed
              exact onward failed
          | error failure first' => exact ⟨first, List.mem_cons_self .., failure, first', run⟩
      | _ => exact onward failed

theorem exists_run_of_mem_normalizePatterns {sub' : Query}
    (succeed : (normalizePatterns normalizeSub outer patterns).2 = none)
    (member : .subquery sub' ∈ (normalizePatterns normalizeSub outer patterns).1) :
    ∃ sub, .subquery sub ∈ patterns ∧ normalizeSub.run (sub.inheriting outer) = .ok () sub' := by
  induction patterns with
  | nil => cases member
  | cons p rest induction =>
      have onward (succeed : (normalizePatterns normalizeSub outer rest).2 = none)
          (later : .subquery sub' ∈ (normalizePatterns normalizeSub outer rest).1) :
          ∃ sub, .subquery sub ∈ p :: rest ∧
            normalizeSub.run (sub.inheriting outer) = .ok () sub' := by
        rcases induction succeed later with ⟨sub, member, run⟩
        exact ⟨sub, List.mem_cons_of_mem _ member, run⟩
      cases p with
      | subquery first =>
          cases run : normalizeSub.run (first.inheriting outer) with
          | ok value first' =>
              rw [normalizePatterns_of_ok run] at succeed member
              rcases List.mem_cons.mp member with equal | later
              · cases equal
                exact ⟨first, List.mem_cons_self .., run⟩
              · exact onward succeed later
          | error failure first' =>
              rw [normalizePatterns_of_error run] at succeed
              cases succeed
      | _ => exact onward succeed ((List.mem_cons.mp member).resolve_left nofun)

theorem map_normalizePatterns {α : Type} (tell : Pattern Query → α)
    (same : ∀ sub sub', tell (.subquery sub) = tell (.subquery sub')) :
    (normalizePatterns normalizeSub outer patterns).1.map tell = patterns.map tell := by
  induction patterns with
  | nil => rfl
  | cons p rest induction =>
      cases p with
      | subquery sub =>
          cases run : normalizeSub.run (sub.inheriting outer) with
          | ok value sub' =>
              rw [normalizePatterns_of_ok run, List.map_cons, List.map_cons, same sub' sub]
              exact congrArg (_ :: ·) induction
          | error failure sub' =>
              rw [normalizePatterns_of_error run, List.map_cons, List.map_cons, same sub' sub]
      | _ => exact congrArg (_ :: ·) induction

theorem values_normalizePatterns :
    (normalizePatterns normalizeSub outer patterns).1.filterMap Pattern.value? =
      patterns.filterMap Pattern.value? := by
  have values (patterns : List (Pattern Query)) :
      patterns.filterMap Pattern.value? = (patterns.map Pattern.value?).filterMap id := by
    rw [List.filterMap_map]
    rfl
  rw [values, values, map_normalizePatterns Pattern.value? fun _ _ => rfl]

end

def withNormalized (query : Query) : Query :=
  { query with
    arena := ⟨(normalizePatterns normalize query.functions.definitions query.arena.patterns).1⟩ }

def failed? (query : Query) : Option Failure :=
  (normalizePatterns normalize query.functions.definitions query.arena.patterns).2

def Completes (query query' : Query) : Prop :=
  failed? query = none ∧ ∃ formed, Formed (withNormalized query).settled formed ∧
    query' = { formed with normalized := true }

/-- The query is left with its calls as they were, as a subquery failed, or with them settled, as it
cannot be brought into form. -/
def Halts (query query' : Query) : Prop :=
  (failed? query ≠ none ∧ ∃ log, query' = { withNormalized query with log }) ∨
    (Formed (withNormalized query).settled query' ∧ Unformed (withNormalized query).settled)

theorem ends_normalize {query : Query} (lenient : query.options.strict = false)
    (new : query.normalized = false) :
    Ends normalize query (fun _ => Completes query) fun _ => Halts query := by
  have settles : Ends (normalizeSubqueries normalize >>= fun _ => normalizeRest) query
      (fun _ => Completes query) fun _ => Halts query := by
    apply ((ends_normalizeSubqueries normalize query).imp (fun _ _ => id) fun _ _ => .inl).bind
    rintro _ _ ⟨none, rfl⟩
    have lenient' : (withNormalized query).options.strict = false := lenient
    apply (ends_normalizeRest lenient').imp
    · exact fun _ _ formed => ⟨none, formed⟩
    · exact fun _ _ formed => .inr formed
  have whole : Ends (normalizeWith normalize) query (fun _ => Completes query)
      fun _ => Halts query := by
    rw [normalizeWith_eq, ends_bind, ends_get, new, if_neg Bool.false_ne_true]
    exact settles
  rwa [Ends, run_normalize_eq]

def Fails (query : Query) : Prop := ∀ query', normalize.run query ≠ .ok () query'

/-- The calls of the query are settled in the other one, with everything in its place. -/
structure Settles (query query' : Query) : Prop where
  log : query'.log = query.settled.log
  functions : query'.functions = query.settled.functions
  expressions : query'.expressions = query.settled.expressions
  places : ∀ (id : PatternId) (p : Pattern Query), p.place? = some p →
    query.settled.arena.get? id = some p → query'.arena.get? id = some p

theorem Formed.settles {query formed : Query} (shape : Formed query.settled formed) :
    Settles query formed where
  log := shape.log
  functions := shape.alike.functions
  expressions := shape.alike.expressions
  places id _ place := (shape.alike.get?_iff place id).mpr

section

variable {query : Query} (lenient : query.options.strict = false) (new : query.normalized = false)

include lenient new

theorem fails_of_failed? (failed : failed? query ≠ none) : Fails query := by
  intro query' run
  exact failed ((ends_normalize lenient new).of_ok run).1

theorem after_normalize : Settles (withNormalized query) (normalize.after query) ∨
    failed? query ≠ none ∧ ∃ log, normalize.after query = { withNormalized query with log } := by
  have ends := ends_normalize lenient new
  unfold Ends at ends
  rw [after]
  split at ends
  · rcases ends with ⟨_, formed, shape, rfl⟩
    have settles := shape.settles
    exact .inl ⟨settles.log, settles.functions, settles.expressions, settles.places⟩
  · exact ends.symm.imp_left fun halted => halted.1.settles

theorem get?_normalize {id : PatternId} {sub : Query}
    (found : (withNormalized query).arena.get? id = some (.subquery sub)) :
    (normalize.after query).arena.get? id = some (.subquery sub) := by
  rcases after_normalize lenient new with settles | ⟨_, log, equal⟩
  · exact settles.places id _ rfl ((Query.get?_settled_subquery _ sub id).mpr found)
  · rw [equal]
    exact found

end

/-! ## Queries without subqueries -/

theorem normalizePatterns_of_whole (normalizeSub : Build Unit) (outer : List (String × Definition))
    {patterns : List (Pattern Query)} (whole : ∀ sub, Pattern.subquery sub ∉ patterns) :
    normalizePatterns normalizeSub outer patterns = (patterns, none) := by
  induction patterns with
  | nil => rfl
  | cons p rest induction =>
      have rest' : ∀ sub, Pattern.subquery sub ∉ rest :=
        fun sub member => whole sub (List.mem_cons_of_mem _ member)
      cases p with
      | subquery sub => exact absurd (List.mem_cons_self ..) (whole sub)
      | _ =>
          rw [normalizePatterns, induction rest']
          exact nofun

theorem withNormalized_of_whole {query : Query} (whole : ∀ sub : Query, ¬ sub.IsPartOf query) :
    withNormalized query = query ∧ failed? query = none := by
  have absent : ∀ sub, Pattern.subquery sub ∉ query.arena.patterns := by
    intro sub member
    rcases List.getElem?_of_mem member with ⟨id, found⟩
    exact whole sub ⟨id, found⟩
  have none := normalizePatterns_of_whole normalize query.functions.definitions absent
  constructor
  · rw [withNormalized, none]
    cases query
    rfl
  · rw [failed?, none]

theorem settles_of_whole {query : Query} (lenient : query.options.strict = false)
    (new : query.normalized = false) (whole : ∀ sub : Query, ¬ sub.IsPartOf query) :
    Settles query (normalize.after query) := by
  have settles := after_normalize lenient new
  rcases withNormalized_of_whole whole with ⟨same, none⟩
  rw [same, none] at settles
  exact settles.resolve_right fun failed => failed.1 rfl

end Build

end Sparql
