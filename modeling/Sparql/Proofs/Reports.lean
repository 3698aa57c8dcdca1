import Sparql.Proofs.Lockstep
import Sparql.Proofs.Strict

/-!
Reports are only ever added, to a query and to each subquery in it, and a query is incorrect exactly
if it has a report of an error: `Query.Reachable.reports_stay`.
-/

namespace Sparql

/-! ## Logs -/

namespace Log

/-- The log says that the query is incorrect if and only if it has a report of an error. -/
def Faithful (log : Log) : Prop :=
  log.correct = false ↔ ∃ diagnostic ∈ log.entries, diagnostic.isError = true

theorem Faithful.add {log : Log} (faithful : log.Faithful) (diagnostic : Diagnostic) :
    (log.add diagnostic).Faithful := by
  have incorrect : log.correct = false ↔ ∃ earlier ∈ log.entries, earlier.isError = true := faithful
  rw [Faithful, Log.add, Bool.and_eq_false_iff, incorrect]
  simp only [List.mem_append, List.mem_singleton, or_and_right, exists_or, exists_eq_left,
    Bool.not_eq_false']

/-- The other log has more reports, after those of this one, and is not correct again. -/
structure Grows (log log' : Log) : Prop where
  entries : log.entries <+: log'.entries
  incorrect : log.correct = false → log'.correct = false

theorem Grows.refl (log : Log) : log.Grows log := ⟨List.prefix_refl _, id⟩

theorem Grows.trans {first second third : Log} (before : first.Grows second)
    (after : second.Grows third) : first.Grows third where
  entries := before.entries.trans after.entries
  incorrect incorrect := after.incorrect (before.incorrect incorrect)

theorem grows_add (log : Log) (diagnostic : Diagnostic) : log.Grows (log.add diagnostic) where
  entries := List.prefix_append _ _
  incorrect incorrect := by rw [Log.add, incorrect, Bool.false_and]

end Log

namespace Query

/-! ## Parts at any depth -/

def part? (query : Query) : List PatternId → Option Query
  | [] => some query
  | id :: rest =>
    match query.arena.get? id with
    | some (.subquery sub) => sub.part? rest
    | _ => none

theorem part?_cons {query : Query} {id : PatternId} {sub : Query}
    (found : query.arena.get? id = some (.subquery sub)) (rest : List PatternId) :
    query.part? (id :: rest) = sub.part? rest := by
  rw [part?, found]

theorem exists_sub_of_part? {query there : Query} {id : PatternId} {rest : List PatternId}
    (here : query.part? (id :: rest) = some there) :
    ∃ sub, query.arena.get? id = some (.subquery sub) ∧ sub.part? rest = some there := by
  rw [part?] at here
  split at here
  · next sub found => exact ⟨sub, found, here⟩
  · cases here

theorem Everywhere.at {property : Query → Prop} {query there : Query} {path : List PatternId}
    (holds : query.Everywhere property) (here : query.part? path = some there) :
    property there := by
  induction path generalizing query with
  | nil =>
      cases here
      exact holds.here
  | cons id rest induction =>
      rcases exists_sub_of_part? here with ⟨sub, found, inside⟩
      exact induction (holds.part ⟨id, found⟩) inside

/-! ## Changes -/

/-- Wherever there is a query, there still is one in the other, with a log that has grown. -/
def Endures (query query' : Query) : Prop :=
  ∀ path there, query.part? path = some there →
    ∃ there', query'.part? path = some there' ∧ there.log.Grows there'.log

theorem Endures.refl (query : Query) : query.Endures query :=
  fun _ there here => ⟨there, here, .refl there.log⟩

theorem Endures.trans {first second third : Query} (before : first.Endures second)
    (after : second.Endures third) : first.Endures third := by
  intro path there here
  rcases before path there here with ⟨there', here', grows⟩
  rcases after path there' here' with ⟨there'', here'', grows'⟩
  exact ⟨there'', here'', grows.trans grows'⟩

theorem endures_of_parts {query query' : Query} (grows : query.log.Grows query'.log)
    (parts : ∀ id sub, query.arena.get? id = some (.subquery sub) →
      ∃ sub', query'.arena.get? id = some (.subquery sub') ∧ sub.Endures sub') :
    query.Endures query' := by
  intro path there here
  cases path with
  | nil =>
      cases here
      exact ⟨query', rfl, grows⟩
  | cons id rest =>
      rcases exists_sub_of_part? here with ⟨sub, found, inside⟩
      rcases parts id sub found with ⟨sub', found', endures⟩
      rw [part?_cons found']
      exact endures rest there inside

theorem endures_of_kept {query query' : Query} (grows : query.log.Grows query'.log)
    (kept : ∀ id sub, query.arena.get? id = some (.subquery sub) →
      query'.arena.get? id = some (.subquery sub)) : query.Endures query' :=
  endures_of_parts grows fun id sub found => ⟨sub, kept id sub found, .refl sub⟩

variable {rights : Rights} {may : Query → Prop} {query query' : Query}

theorem ChangesTo.endures (changes : query.ChangesTo rights may query') : query.Endures query' := by
  induction changes with
  | refl query => exact .refl query
  | trans _ _ first second => exact first.trans second
  | report query diagnostic _ =>
      exact endures_of_kept (query.log.grows_add diagnostic) fun _ _ => id
  | push query p _ _ =>
      refine endures_of_kept (.refl _) fun id sub found => ?_
      exact Arena.get?_of_added (List.prefix_append _ _) found
  | join query group child =>
      refine endures_of_kept (.refl _) fun id sub found => ?_
      rw [Arena.get?_set group, if_neg]
      · exact found
      · rintro rfl
        cases group.symm.trans found
  | values query change =>
      refine endures_of_kept (.refl _) fun id sub found => ?_
      exact (List.getElem?_map ..).trans (congrArg (Option.map (Pattern.mapValues change)) found)
  | @part query id sub sub' place _ induction =>
      refine endures_of_parts (.refl _) fun id' inside found => ?_
      rw [Arena.get?_set place]
      split
      · next equal =>
          rcases equal with rfl
          cases place.symm.trans found
          exact ⟨sub', rfl, induction⟩
      · exact ⟨inside, found, .refl inside⟩
  | similar similar =>
      refine endures_of_kept ?_ fun id sub found => ?_
      · rw [similar.log]
        exact .refl _
      · rwa [similar.arena]
  | label query _ | name query _ | done query _ => exact endures_of_kept (.refl _) fun _ _ => id

theorem ChangesTo.faithful (changes : query.ChangesTo rights may query')
    (faithful : query.log.Faithful) : query'.log.Faithful := by
  induction changes with
  | trans _ _ first second => exact second (first faithful)
  | report query diagnostic _ => exact faithful.add diagnostic
  | similar similar => rwa [similar.log]
  | _ => exact faithful

theorem Reachable.faithful (reachable : query.Reachable) : query.Everywhere (·.log.Faithful) :=
  reachable.everywhere (fun operation _ => operation.within_all)
    (fun _ _ => by simp [Log.Faithful]) fun _ _ changes => changes.faithful

end Query

/-! ## Runs -/

theorem Operation.endures_after (operation : Operation) (query : Query) :
    query.Endures (operation.run.after query) := by
  have changes : query.ChangesTo .all (fun _ => True) (operation.run.after query) :=
    changesTo_after operation.within_all (fun _ _ => trivial) query
  exact changes.endures

theorem Script.endures_play (script : Script) (known : List Outcome) (query : Query) :
    query.Endures (script.play known query).2 := by
  induction script generalizing known query with
  | nil => exact .refl query
  | cons operation rest induction =>
      have first : query.Endures ((operation known).run.outcome query).2 := by
        have endures := (operation known).endures_after query
        rw [Build.after] at endures
        rw [Build.outcome]
        split at endures <;> simp_all
      exact first.trans (induction _ _)

/-- A query that is built, or a subquery in it at any depth, is incorrect exactly if it has a report
of an error. Whatever is done later, and whether or not it fails, its reports stay as they are and
in their order, with others after them, and it does not become correct again. -/
theorem Query.Reachable.reports_stay {query there : Query} {path : List PatternId}
    (reachable : query.Reachable) (here : query.part? path = some there) :
    (there.log.correct = false ↔ ∃ diagnostic ∈ there.log.entries, diagnostic.isError = true) ∧
      ∀ (script : Script) (known : List Outcome), ∃ there',
        (script.play known query).2.part? path = some there' ∧
        there.log.entries <+: there'.log.entries ∧
        (there.log.correct = false → there'.log.correct = false) := by
  refine ⟨reachable.faithful.at here, fun script known => ?_⟩
  rcases script.endures_play known query path there here with ⟨there', here', grows⟩
  exact ⟨there', here', grows.entries, grows.incorrect⟩

theorem Build.aroundRebinding_reports_stay :
    (Operation.check.run.after aroundRebinding).Reachable ∧
      (Operation.check.run.after aroundRebinding).part? [0] =
        some (Operation.check.run.after rebinding) ∧
      ((Operation.check.run.after rebinding).log.correct = false ↔
        ∃ diagnostic ∈ (Operation.check.run.after rebinding).log.entries,
          diagnostic.isError = true) ∧
      ∀ (script : Script) (known : List Outcome), ∃ there',
        (script.play known (Operation.check.run.after aroundRebinding)).2.part? [0] =
          some there' ∧
        (Operation.check.run.after rebinding).log.entries <+: there'.log.entries ∧
        ((Operation.check.run.after rebinding).log.correct = false →
          there'.log.correct = false) :=
  have reachable : (Operation.check.run.after aroundRebinding).Reachable :=
    .step _ aroundRebinding_reachable trivial nofun
  ⟨reachable, rfl, reachable.reports_stay rfl⟩

end Sparql
