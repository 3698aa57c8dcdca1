import Sparql.Proofs.Reports
import Sparql.Proofs.Union.Exchanged

/-!
A union is symmetric. Whichever branches of unions are exchanged, in a query or in its subqueries,
the query is normalized and checked with the same reports and projects the same variables:
`exchanged_becomes`.
-/

namespace Sparql

open Build

/-! ## Settled calls -/

theorem Pattern.Turns.mapValues {nested : Query → Query → Prop} {p p' : Pattern Query}
    (turns : Pattern.Turns nested p p') (change : Expr → Expr) :
    Pattern.Turns nested (p.mapValues change) (p'.mapValues change) := by
  cases turns with
  | @same p plain => exact .same (by cases p <;> first | rfl | cases plain)
  | union left right => exact .union left right
  | subquery inside => exact .subquery inside

namespace Query

theorem Turns.settled {nested : Query → Query → Prop} {query query' : Query}
    (turns : query.Turns nested query') : query.settled.Turns nested query'.settled := by
  rcases turns with ⟨rest, patterns⟩
  generalize query'.arena = arena' at rest patterns
  subst rest
  rw [Query.settled, Query.settled]
  dsimp only
  split
  · exact ⟨rfl, patterns⟩
  · refine ⟨rfl, List.forall₂_map_left_iff.mpr (List.forall₂_map_right_iff.mpr ?_)⟩
    exact List.Forall₂.imp (fun _ _ same => same.mapValues _) patterns

/-! ## Normalized queries -/

theorem firm_inheriting {query : Query} (firm : query.Everywhere Firm)
    (outer : List (String × Definition)) : (query.inheriting outer).Everywhere Firm :=
  .intro ⟨⟨firm.here.checkable.lenient, firm.here.checkable.sound⟩, firm.here.cells,
    firm.here.sincere⟩ fun _ => firm.part

theorem Exchanged.inheriting {query query' : Query} (exchanged : query.Exchanged query')
    (outer : List (String × Definition)) :
    (query.inheriting outer).Exchanged (query'.inheriting outer) := by
  have turns := exchanged.turns
  refine .intro ?_ turns.patterns
  rw [turns.rest]
  rfl

end Query

namespace Build

variable {query query' : Query}

theorem exists_run_normalize_of_firm (firm : query.Everywhere Query.Firm) :
    ∃ normalized, normalize.run query = .ok () normalized ∧
      normalized.Everywhere Query.Firm := by
  rcases exists_run_normalize (firm.imp fun _ => Query.Firm.checkable) with
    ⟨normalized, run, checkable⟩
  let kept (query : Query) : Prop := query.arena.CellsAreTriples ∧ query.log.Sincere
  have within : Operation.normalize.Within ⟨false, true, true⟩ := rfl
  have changes : query.ChangesTo ⟨false, true, true⟩ (fun sub => sub.Everywhere kept)
      (Operation.normalize.run.after query) := Operation.changesTo_after within nofun query
  have after : Operation.normalize.run.after query = normalized := by
    rw [Operation.run, Operation.silent, after_map, after_of_run_ok run]
  rw [after] at changes
  have keeps := changes.everywhere
    (fun _ _ changes before => ⟨changes.cellsAreTriples before.1, changes.sincere_log rfl before.2⟩)
    (fun _ => id) (firm.imp fun _ firm => ⟨firm.cells, firm.sincere⟩)
  exact ⟨normalized, run, (checkable.and keeps).imp fun _ both => ⟨both.1, both.2.1, both.2.2⟩⟩

theorem run_bringIntoForm_of_run_normalize (lenient : query.options.strict = false)
    (new : query.normalized = false) (run : normalize.run query = .ok () query') :
    bringIntoForm.run (withNormalized query).settled = .ok () query' := by
  have form : (withNormalized query).settled.clauses.form = query.clauses.form := by
    rcases (withNormalized query).rephrased_settled with ⟨_, _, _, clauses, _⟩
    rw [clauses]
    rfl
  rcases run_normalize_inForm lenient new with ⟨failure, log, stuck⟩ | formed
  · have failed := stuck query.clauses.form
    rw [query.inForm_self] at failed
    cases run.symm.trans failed
  · have formed := formed query.clauses.form
    rw [query.inForm_self, ← form, Query.inForm_self] at formed
    exact formed.symm.trans run

theorem turns_normalizePatterns {nested : Query → Query → Prop}
    {outer : List (String × Definition)} {patterns patterns' : List (Pattern Query)}
    (turns : List.Forall₂ (Pattern.Turns nested) patterns patterns')
    (agree : ∀ sub sub', .subquery sub ∈ patterns → nested sub sub' →
      ∃ normalized normalized', normalize.run (sub.inheriting outer) = .ok () normalized ∧
        normalize.run (sub'.inheriting outer) = .ok () normalized' ∧
        normalized.Agrees normalized') :
    List.Forall₂ (Pattern.Turns Query.Agrees) (normalizePatterns normalize outer patterns).1
      (normalizePatterns normalize outer patterns').1 := by
  induction turns with
  | nil => exact .nil
  | @cons p p' rest rest' here _ induction =>
      have onward := induction fun sub sub' member => agree sub sub' (.tail _ member)
      cases here with
      | same plain =>
          cases p with
          | subquery sub => cases plain
          | _ => exact .cons (.same rfl) onward
      | union left right => exact .cons (.union left right) onward
      | @subquery sub sub' inside =>
          rcases agree sub sub' (.head _) inside with ⟨normalized, normalized', run, run', agrees⟩
          rw [normalizePatterns_of_ok run, normalizePatterns_of_ok run']
          exact .cons (.subquery agrees) onward

/-- After an exchange queries are normalized to ones that look the same from outside. The induction
is on the level of the query. -/
theorem exists_run_normalize_of_exchanged (exchanged : query.Exchanged query')
    (firm : query.Everywhere Query.Firm) :
    ∃ normalized normalized', normalize.run query = .ok () normalized ∧
      normalize.run query' = .ok () normalized' ∧ normalized.Agrees normalized' ∧
      normalized.Everywhere Query.Firm ∧ normalized'.Everywhere Query.Firm := by
  induction equal : query.level using Nat.strong_induction_on generalizing query query' with
  | h level induction =>
      have turns := exchanged.turns
      have firm' := exchanged.firm firm
      rcases exists_run_normalize_of_firm firm with ⟨normalized, run, after⟩
      rcases exists_run_normalize_of_firm firm' with ⟨normalized', run', after'⟩
      refine ⟨normalized, normalized', run, run', ?_, after, after'⟩
      have same : query'.normalized = query.normalized := by rw [turns.rest]
      cases new : query.normalized with
      | true =>
          cases run.symm.trans (run_normalize_of_normalized new)
          cases run'.symm.trans (run_normalize_of_normalized (same.trans new))
          exact exchanged.agrees firm
      | false =>
          have nested : (withNormalized query).Turns Query.Agrees (withNormalized query') := by
            have functions : query'.functions = query.functions := by rw [turns.rest]
            refine ⟨?_, ?_⟩
            · rw [withNormalized, withNormalized, turns.rest]
            · rw [withNormalized, withNormalized, functions]
              refine turns_normalizePatterns turns.patterns fun sub sub' member inside => ?_
              have part : sub.IsPartOf query := List.getElem?_of_mem member
              have less := level_inheriting_lt part query.functions.definitions
              rcases induction _ (equal ▸ less) (inside.inheriting _)
                (Query.firm_inheriting (firm.part part) _) rfl with
                ⟨inner, inner', run, run', agrees, _⟩
              exact ⟨inner, inner', run, run', agrees⟩
          have sound := (withNormalized query).rephrased_settled.sound
            (sound_withNormalized firm.here.checkable.sound)
          have formed := run_bringIntoForm_of_run_normalize firm.here.checkable.lenient new run
          have formed' := run_bringIntoForm_of_run_normalize firm'.here.checkable.lenient
            (same.trans new) run'
          rcases nested.settled.formed sound formed formed' with ⟨_, _, _, turned⟩
          exact turned.agrees_of_firm after after'

/-! ## Checked queries -/

theorem faithful_of_becomes (becomes : query.Becomes query') (faithful : query.log.Faithful) :
    query'.log.Faithful := by
  rcases becomes with ⟨normalized, correct, run, run'⟩
  have changes (operation : Operation) (query : Query) :
      query.ChangesTo .all (fun _ => True) (operation.run.after query) :=
    Operation.changesTo_after operation.within_all (fun _ _ => trivial) query
  have first := changes .normalize query
  rw [Operation.run, Operation.silent, after_map, after_of_run_ok run] at first
  have second := changes .check normalized
  rw [Operation.run, after_map, after_of_run_ok run'] at second
  exact second.faithful (first.faithful faithful)

theorem correct_eq_of_entries {log log' : Log} (faithful : log.Faithful)
    (faithful' : log'.Faithful) (same : ∀ report, report ∈ log.entries ↔ report ∈ log'.entries) :
    log'.correct = log.correct := by
  have incorrect : log'.correct = false ↔ log.correct = false := by
    refine Iff.trans faithful' (Iff.trans ?_ (Iff.symm faithful))
    exact exists_congr fun report => and_congr_left fun _ => (same report).symm
  cases correct : log.correct with
  | false => exact incorrect.mpr correct
  | true => exact Bool.eq_true_of_not_eq_false fun wrong => by simp [incorrect.mp wrong] at correct

/-- Exchanging the branches of unions in a query and in its subqueries changes neither the set of
the reports when the query is normalized and then checked, nor whether it is correct, nor the set of
the variables that it projects. -/
theorem becomes_of_exchanged (reachable : query.Reachable)
    (checkable : query.Everywhere Query.Checkable) (exchanged : query.Exchanged query') :
    ∃ after after', query.Becomes after ∧ query'.Becomes after' ∧
      (∀ report, report ∈ after.log.entries ↔ report ∈ after'.log.entries) ∧
      after'.log.correct = after.log.correct ∧
      Scope.Alike after.clauses.selected after'.clauses.selected := by
  have firm : query.Everywhere Query.Firm :=
    (checkable.and (reachable.cellsAreTriples.and reachable.sincere)).imp
      fun _ all => ⟨all.1, all.2.1, all.2.2⟩
  rcases exists_run_normalize_of_exchanged exchanged firm with
    ⟨normalized, normalized', run, run', agrees, firm, firm'⟩
  have becomes {query normalized : Query} (run : normalize.run query = .ok () normalized)
      (firm : normalized.Everywhere Query.Firm) : query.Becomes normalized.afterCheck := by
    rcases firm.ready_of_firm.checks firm.here.checkable.lenient with ⟨correct, checked, _⟩
    exact ⟨normalized, correct, run, checked⟩
  have log : query'.log = query.log := by rw [exchanged.turns.rest]
  have faithful := reachable.faithful.here
  have entries (report : Diagnostic) : report ∈ normalized.afterCheck.log.entries ↔
      report ∈ normalized'.afterCheck.log.entries := agrees.ledger.entries report
  refine ⟨_, _, becomes run firm, becomes run' firm', entries, ?_, agrees.projected⟩
  exact correct_eq_of_entries (faithful_of_becomes (becomes run firm) faithful)
    (faithful_of_becomes (becomes run' firm') (log ▸ faithful)) entries

/-- A query of two groups about the same blank node, as the branches of a union. -/
def aboutBlankEither (left right : PatternId) : Query :=
  (Operation.setSelectAll true).run.after
    ((Operation.setBody 4).run.after
      ((Operation.union left right).run.after
        ((Operation.group [2]).run.after
          ((Operation.triple (.var (.ofBlank "b")) { node := .const (.iri "p") }
            (.var (.ofName "y"))).run.after aboutBlank))))

theorem aroundEither_checkable : (around (aboutBlankEither 1 3)).Everywhere Query.Checkable := by
  have inner : (aboutBlankEither 1 3).Everywhere Query.Checkable :=
    .alone ⟨rfl, Query.sound_of_descends (by decide) (by decide)⟩ rfl
  exact .of_subqueries ⟨rfl, Query.sound_of_descends (by decide) (by decide)⟩
    (List.forall_mem_singleton.mpr inner)

theorem aroundEither_symmetric :
    (around (aboutBlankEither 1 3)).Reachable ∧
      (around (aboutBlankEither 1 3)).Everywhere Query.Checkable ∧
      (around (aboutBlankEither 1 3)).Exchanged (around (aboutBlankEither 3 1)) ∧
      ∃ after after', (around (aboutBlankEither 1 3)).Becomes after ∧
        (around (aboutBlankEither 3 1)).Becomes after' ∧
        (∀ report, report ∈ after.log.entries ↔ report ∈ after'.log.entries) ∧
        after'.log.correct = after.log.correct ∧
        Scope.Alike after.clauses.selected after'.clauses.selected := by
  have inner : (aboutBlankEither 1 3).Unchecked :=
    .step _ (.step _ (.step _ (.step _ (.step _ aboutBlank_unchecked nofun nofun) nofun nofun)
      nofun nofun) nofun nofun) nofun nofun
  have reachable := (around_unchecked inner).reachable
  have exchanged : (around (aboutBlankEither 1 3)).Exchanged (around (aboutBlankEither 3 1)) :=
    .intro rfl (.cons (.subquery (.intro rfl (.cons (.same rfl) (.cons (.same rfl)
      (.cons (.same rfl) (.cons (.same rfl) (.cons (.union 1 3) .nil))))))) .nil)
  exact ⟨reachable, aroundEither_checkable, exchanged,
    becomes_of_exchanged reachable aroundEither_checkable exchanged⟩

end Build

end Sparql
