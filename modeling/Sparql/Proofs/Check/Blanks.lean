import Sparql.Proofs.Build.Operations
import Sparql.Proofs.Check.Occurrences

/-!
The blank node law. A check keeps the first owner of a label and reports a label once, when it meets
another owner or when a subquery reported the label. In the end the labels that are reported are
those that occur with different owners, at any depth.
-/

namespace Sparql

/-! ## What visits tell of blank nodes -/

namespace Visit

/-- The labels that a visit finds, with their owners. A subquery owns its labels as a whole. -/
def blanks : Visit → List (String × PatternId)
  | .triple t owner => t.blankLabels.map (·, owner)
  | .bind _ _ => []
  | .subquery id sub => sub.afterCheck.blankLabels.map (·, id)

def passed : Visit → List String
  | .subquery _ sub => sub.afterCheck.log.shared
  | .triple _ _ | .bind _ _ => []

end Visit

def Conflicts (blanks : List (String × PatternId)) (label : String) : Prop :=
  ∃ owner, (label, owner) ∈ blanks ∧ blanks.lookup label ≠ some owner

theorem lookup_eq_none_iff {blanks : List (String × PatternId)} {label : String} :
    blanks.lookup label = none ↔ ∀ owner, (label, owner) ∉ blanks := by
  rw [List.lookup_eq_none_iff]
  constructor
  · intro distinct owner member
    simpa using distinct _ member
  · intro absent holds member
    rcases holds with ⟨label', owner⟩
    apply bne_iff_ne.mpr
    intro equal
    rcases equal with rfl
    exact absent owner member

theorem mem_of_lookup {blanks : List (String × PatternId)} {label : String} {owner : PatternId}
    (first : blanks.lookup label = some owner) : (label, owner) ∈ blanks := by
  rcases List.lookup_eq_some_iff.mp first with ⟨before, after, rfl, _⟩
  exact List.mem_append_right _ (List.mem_cons_self ..)

theorem lookup_append_single (blanks : List (String × PatternId)) (label label' : String)
    (owner : PatternId) :
    (blanks ++ [(label, owner)]).lookup label' =
      (blanks.lookup label').or (if label' = label then some owner else none) := by
  rw [List.lookup_append, List.lookup_cons, List.lookup_nil]
  by_cases same : label' = label
  · simp [same]
  · rw [if_neg same, beq_eq_false_iff_ne.mpr same]

theorem conflicts_append_single {blanks : List (String × PatternId)} {label label' : String}
    {owner : PatternId} :
    Conflicts (blanks ++ [(label, owner)]) label' ↔
      Conflicts blanks label' ∨
        label' = label ∧ ∃ first, blanks.lookup label = some first ∧ first ≠ owner := by
  constructor
  · intro holds
    rcases holds with ⟨owner', member, other⟩
    rw [lookup_append_single] at other
    rcases List.mem_append.mp member with old | new
    · refine .inl ⟨owner', old, fun first => other ?_⟩
      rw [first, Option.some_or]
    · rcases Prod.mk.inj (List.mem_singleton.mp new) with ⟨rfl, rfl⟩
      cases known : blanks.lookup label' with
      | none => simp [known] at other
      | some first =>
          refine .inr ⟨rfl, first, rfl, fun same => other ?_⟩
          rw [known, Option.some_or, same]
  · intro either
    rcases either with ⟨owner', member, other⟩ | ⟨rfl, first, known, other⟩
    · refine ⟨owner', List.mem_append_left _ member, ?_⟩
      obtain ⟨first, known⟩ := Option.ne_none_iff_exists'.mp fun unknown =>
        lookup_eq_none_iff.mp unknown owner' member
      rwa [lookup_append_single, known, Option.some_or, ← known]
    · refine ⟨owner, List.mem_append_right _ (List.mem_singleton_self _), ?_⟩
      rw [lookup_append_single, known, Option.some_or]
      exact fun same => other (Option.some.inj same)

namespace Tally

theorem lookup_own (tally : Tally) (mayShare : Bool) (owner : PatternId) (label label' : String) :
    (tally.own mayShare owner label).owners.lookup label' =
      (tally.owners ++ [(label, owner)]).lookup label' := by
  cases known : tally.owners.lookup label with
  | none => rw [own_of_none known]
  | some first =>
      have same : (tally.owners ++ [(label, owner)]).lookup label' =
          tally.owners.lookup label' := by
        rw [lookup_append_single]
        by_cases here : label' = label
        · rw [here, known, Option.some_or]
        · rw [if_neg here, Option.or_none]
      rw [own_of_some known, same]
      split <;> rfl

theorem mem_shared_own {tally : Tally} {owner : PatternId} {label label' : String} :
    label' ∈ (tally.own false owner label).shared ↔
      label' ∈ tally.shared ∨
        label' = label ∧ ∃ first, tally.owners.lookup label = some first ∧ first ≠ owner := by
  cases known : tally.owners.lookup label with
  | none => simp [own_of_none known]
  | some first =>
      rw [own_of_some known]
      split
      case isTrue unshared =>
        refine ⟨.inl, fun either => either.elim id ?_⟩
        intro holds
        rcases holds with ⟨rfl, _, equal, other⟩
        rcases Option.some.inj equal with rfl
        simpa [other] using unshared
      case isFalse fresh =>
        have other : first ≠ owner := fun same => fresh (.inl same)
        simp [other]

/-- The tally says of labels that were found, or were reported of subqueries, what it should. -/
structure Tells (tally : Tally) (blanks : List (String × PatternId)) (passed : List String) :
    Prop where
  owned : ∀ label, tally.owners.lookup label = blanks.lookup label
  shared : ∀ label, label ∈ tally.shared ↔ label ∈ passed ∨ Conflicts blanks label

namespace Tells

variable {tally : Tally} {blanks : List (String × PatternId)} {passed : List String}

theorem own (tells : tally.Tells blanks passed) (owner : PatternId) (label : String) :
    (tally.own false owner label).Tells (blanks ++ [(label, owner)]) passed where
  owned label' := by
    rw [lookup_own, lookup_append_single, lookup_append_single, tells.owned]
  shared label' := by
    rw [mem_shared_own, conflicts_append_single, tells.shared, tells.owned, or_assoc]

theorem foldl_own (tells : tally.Tells blanks passed) (owner : PatternId) (labels : List String) :
    (labels.foldl (Tally.own · false owner ·) tally).Tells
      (blanks ++ labels.map (·, owner)) passed := by
  induction labels generalizing tally blanks with
  | nil => simpa using tells
  | cons label rest induction =>
      have rest := induction (tells.own owner label)
      rwa [List.append_assoc] at rest

theorem foldl_report (tells : tally.Tells blanks passed) (log : Log) :
    (log.entries.foldl report tally).Tells blanks (passed ++ log.shared) := by
  rw [Log.shared]
  induction log.entries generalizing tally passed with
  | nil => simpa using tells
  | cons entry rest induction =>
      have reported : (tally.report entry).Tells blanks
          (passed ++ if entry.code = .blankNodeScope then entry.subject.toList else []) := by
        refine ⟨tells.owned, fun label => ?_⟩
        rw [report, List.mem_append, List.mem_append, tells.shared, or_right_comm]
      have rest := induction reported
      rwa [List.append_assoc] at rest

theorem visit (tells : tally.Tells blanks passed) (visit : Visit) :
    (tally.visit false visit).Tells (blanks ++ visit.blanks) (passed ++ visit.passed) := by
  cases visit with
  | triple t owner =>
      rw [Visit.passed, List.append_nil]
      exact tells.foldl_own owner t.blankLabels
  | bind target before =>
      rw [Visit.passed, Visit.blanks, List.append_nil, List.append_nil, Tally.visit]
      split
      · refine ⟨tells.owned, fun label => ?_⟩
        simp [report, Problem.toDiagnostic, tells.shared]
      · exact tells
  | subquery id sub =>
      have reported := tells.foldl_report sub.afterCheck.log
      exact reported.foldl_own id sub.afterCheck.blankLabels

end Tells

end Tally

namespace Query

theorem tells_tallied {query : Query} (distinct : query.mayShare = false) (visits : List Visit)
    {tally : Tally} {blanks : List (String × PatternId)} {passed : List String}
    (tells : tally.Tells blanks passed) :
    (query.tallied visits tally).Tells (blanks ++ visits.flatMap Visit.blanks)
      (passed ++ visits.flatMap Visit.passed) := by
  induction visits generalizing tally blanks passed with
  | nil => simpa [tallied] using tells
  | cons visit rest induction =>
      rw [List.flatMap_cons, List.flatMap_cons, ← List.append_assoc, ← List.append_assoc]
      have next := induction (tells.visit visit)
      rwa [← distinct] at next

theorem mem_blanks {query : Query} (ready : query.Ready)
    (nested : ∀ id sub, query.arena.get? id = some (.subquery sub) → ∀ label,
      label ∈ sub.afterCheck.blankLabels ↔ ∃ path, sub.Occurs label path)
    {label : String} {id : PatternId} :
    (label, id) ∈ query.visits.flatMap Visit.blanks ↔ ∃ rest, query.Occurs label (id :: rest) := by
  constructor
  · intro member
    rcases List.mem_flatMap.mp member with ⟨visit, visited, blank⟩
    rcases cases_of_mem_visits visited with ⟨target, before, rfl⟩ |
      ⟨root, matched, id', enters, makes⟩ | ⟨template, member, owner, cell, t, rfl, owns, new⟩
    · cases blank
    · cases makes with
      | triple owns =>
          rcases List.mem_map.mp blank with ⟨_, here, equal⟩
          cases equal
          exact ⟨[], .matched matched enters owns here⟩
      | subquery found =>
          rcases List.mem_map.mp blank with ⟨_, key, equal⟩
          cases equal
          rcases (nested _ _ found label).mp key with ⟨path, within⟩
          exact ⟨path, .nested matched enters found within⟩
    · rcases List.mem_map.mp blank with ⟨_, here, equal⟩
      cases equal
      exact ⟨[], .template member owns new here⟩
  · intro holds
    rcases holds with ⟨rest, occurs⟩
    apply List.mem_flatMap.mpr
    cases occurs with
    | matched matched enters owns blank =>
        refine ⟨_, mem_visits_of_matched ready matched enters (.triple owns), ?_⟩
        exact List.mem_map.mpr ⟨label, blank, rfl⟩
    | template member owns new blank =>
        refine ⟨_, mem_visits_of_template ready member owns new, ?_⟩
        exact List.mem_map.mpr ⟨label, blank, rfl⟩
    | nested matched enters found within =>
        refine ⟨_, mem_visits_of_matched ready matched enters (.subquery found), ?_⟩
        exact List.mem_map.mpr ⟨label, (nested _ _ found label).mpr ⟨rest, within⟩, rfl⟩

theorem mem_passed {query : Query} (ready : query.Ready) {label : String} :
    label ∈ query.visits.flatMap Visit.passed ↔
      ∃ root ∈ query.matched, ∃ id sub, query.arena.Enters root id ∧
        query.arena.get? id = some (.subquery sub) ∧ label ∈ sub.afterCheck.log.shared := by
  constructor
  · intro member
    rcases List.mem_flatMap.mp member with ⟨visit, visited, passed⟩
    rcases cases_of_mem_visits visited with ⟨target, before, rfl⟩ |
      ⟨root, matched, id, enters, makes⟩ | ⟨template, member, owner, cell, t, rfl, owns, new⟩
    · cases passed
    · cases makes with
      | triple _ => cases passed
      | subquery found => exact ⟨root, matched, id, _, enters, found, passed⟩
    · cases passed
  · intro holds
    rcases holds with ⟨root, matched, id, sub, enters, found, shared⟩
    have visited := mem_visits_of_matched ready matched enters (.subquery found)
    exact List.mem_flatMap.mpr ⟨_, visited, shared⟩

/-! ## The law -/

/-- After a check, a query owns the labels that occur in it, and those are reported as shared that
occur with different owners. -/
structure BlankLaw (query : Query) : Prop where
  owned : ∀ label, label ∈ query.afterCheck.blankLabels ↔
    ∃ path, query.Occurs label path
  shared : ∀ label, label ∈ query.afterCheck.log.shared ↔
    ∃ path path', path ≠ path' ∧ query.Occurs label path ∧ query.Occurs label path'

theorem shares_iff {query : Query} (ready : query.Ready)
    (nested : ∀ id sub, query.arena.get? id = some (.subquery sub) → sub.BlankLaw)
    {label : String} :
    (label ∈ query.visits.flatMap Visit.passed ∨
        Conflicts (query.visits.flatMap Visit.blanks) label) ↔
      ∃ path path', path ≠ path' ∧ query.Occurs label path ∧ query.Occurs label path' := by
  have blanks {id : PatternId} : (label, id) ∈ query.visits.flatMap Visit.blanks ↔
      ∃ rest, query.Occurs label (id :: rest) :=
    mem_blanks ready fun id sub found => (nested id sub found).owned
  constructor
  · intro either
    rcases either with passed | ⟨owner, member, other⟩
    · rcases (mem_passed ready).mp passed with ⟨root, matched, id, sub, enters, found, shared⟩
      rcases ((nested id sub found).shared label).mp shared with
        ⟨path, path', differ, occurs, occurs'⟩
      refine ⟨id :: path, id :: path', fun equal => differ (List.tail_eq_of_cons_eq equal), ?_, ?_⟩
      · exact .nested matched enters found occurs
      · exact .nested matched enters found occurs'
    · obtain ⟨first, known⟩ := Option.ne_none_iff_exists'.mp fun unknown =>
        lookup_eq_none_iff.mp unknown owner member
      rcases blanks.mp member with ⟨rest, occurs⟩
      rcases blanks.mp (mem_of_lookup known) with ⟨rest', occurs'⟩
      refine ⟨_, _, fun equal => other ?_, occurs, occurs'⟩
      rw [known, List.head_eq_of_cons_eq equal]
  · intro holds
    rcases holds with ⟨path, path', differ, occurs, occurs'⟩
    rcases occurs.nonempty with ⟨id, rest, rfl⟩
    rcases occurs'.nonempty with ⟨id', rest', rfl⟩
    by_cases same : id = id'
    · subst same
      -- An owner that is no subquery ends both paths.
      cases occurs with
      | nested matched enters found within =>
          have within' := occurs'.inside found
          refine .inl ((mem_passed ready).mpr ⟨_, matched, _, _, enters, found, ?_⟩)
          have apart : rest ≠ rest' := fun equal => differ (congrArg _ equal)
          exact ((nested _ _ found).shared label).mpr ⟨rest, rest', apart, within, within'⟩
      | matched _ _ owns _ =>
          cases occurs' with
          | nested _ _ found _ => exact (owns.not_subquery found).elim
          | _ => exact (differ rfl).elim
      | template _ owns _ _ =>
          cases occurs' with
          | nested _ _ found _ => exact (owns.not_subquery found).elim
          | _ => exact (differ rfl).elim
    · refine .inr ?_
      have member := blanks.mpr ⟨rest, occurs⟩
      have member' := blanks.mpr ⟨rest', occurs'⟩
      by_cases first : (query.visits.flatMap Visit.blanks).lookup label = some id
      · refine ⟨id', member', fun first' => same ?_⟩
        exact Option.some.inj (first.symm.trans first')
      · exact ⟨id, member, first⟩

theorem Fresh.shared_eq_nil {query : Query} (fresh : query.Fresh) : query.log.shared = [] :=
  List.flatMap_eq_nil_iff.mpr fun entry member => if_neg (fresh.unshared entry member)

theorem blankLaw_of_parts {query : Query} (ready : query.Ready) (lenient : query.Lenient)
    (fresh : query.Fresh) (distinct : query.mayShare = false)
    (nested : ∀ id sub, query.arena.get? id = some (.subquery sub) → sub.BlankLaw) :
    query.BlankLaw := by
  have begun : { query.tally with owners := [] }.Tells [] [] := by
    refine ⟨fun _ => rfl, fun label => ?_⟩
    simp [Conflicts, tally, fresh.shared_eq_nil]
  have tells := tells_tallied distinct query.visits begun
  rw [List.nil_append, List.nil_append, ← ready.tally_afterCheck lenient fresh.unchecked] at tells
  constructor
  · intro label
    have known : (∃ owner, (label, owner) ∈ query.afterCheck.blankOwners) ↔
        ∃ owner, (label, owner) ∈ query.visits.flatMap Visit.blanks := by
      rw [← not_iff_not, not_exists, not_exists, ← lookup_eq_none_iff, ← lookup_eq_none_iff,
        ← tells.owned]
      rfl
    calc label ∈ query.afterCheck.blankLabels
        ↔ ∃ owner, (label, owner) ∈ query.afterCheck.blankOwners := by simp [mem_blankLabels]
      _ ↔ ∃ owner rest, query.Occurs label (owner :: rest) := by
          rw [known]
          refine exists_congr fun owner => mem_blanks ready fun id sub found => ?_
          exact (nested id sub found).owned
      _ ↔ ∃ path, query.Occurs label path := by
          refine ⟨fun ⟨_, _, occurs⟩ => ⟨_, occurs⟩, fun ⟨path, occurs⟩ => ?_⟩
          rcases occurs.nonempty with ⟨owner, rest, rfl⟩
          exact ⟨owner, rest, occurs⟩
  · intro label
    exact (tells.shared label).trans (shares_iff ready nested)

/-- The law holds throughout a tree of queries that are not strict, whose patterns are sound, that
nothing checked before, and that insert no data. -/
theorem Everywhere.blankLaw {query : Query} (checkable : query.Everywhere Checkable)
    (cells : query.Everywhere (·.arena.CellsAreTriples)) (fresh : query.Everywhere Fresh)
    (distinct : query.Everywhere (·.mayShare = false)) : query.Everywhere BlankLaw := by
  have rest := fresh.and distinct
  clear fresh distinct
  induction rest with
  | intro here _ induction =>
      have parts sub part := induction sub part (checkable.part part) (cells.part part)
      have lenient := checkable.here.lenient
      refine .intro (blankLaw_of_parts (checkable.ready cells) lenient here.1 here.2 ?_) parts
      exact fun id sub found => (parts sub ⟨id, found⟩).here

end Query

theorem Log.mem_shared {log : Log} {label : String} :
    label ∈ log.shared ↔
      ∃ entry ∈ log.entries, entry.code = .blankNodeScope ∧ entry.subject = some label := by
  rw [shared, List.mem_flatMap]
  refine exists_congr fun entry => and_congr_right fun _ => ?_
  by_cases code : entry.code = .blankNodeScope <;> simp [code]

namespace Build

theorem check_blankLaw {query : Query} (unchecked : query.Unchecked)
    (checkable : query.Everywhere Query.Checkable)
    (distinct : query.Everywhere (·.clauses.dataUpdate ≠ .insertion)) :
    (∃ correct, check.run query = .ok correct query.afterCheck) ∧ query.BlankLaw := by
  have cells := unchecked.reachable.cellsAreTriples
  rcases (checkable.ready cells).checks checkable.here.lenient with ⟨correct, run, _⟩
  have law := checkable.blankLaw cells unchecked.fresh
    (distinct.imp fun query other => decide_eq_false other)
  exact ⟨⟨correct, run⟩, law.here⟩

/-- The blank node law of a whole tree of queries: a check returns, and reports exactly the labels
that occur with different owners. -/
theorem check_shared_iff {query : Query} (unchecked : query.Unchecked)
    (checkable : query.Everywhere Query.Checkable)
    (distinct : query.Everywhere (·.clauses.dataUpdate ≠ .insertion)) :
    ∃ correct query', check.run query = .ok correct query' ∧
      ∀ label,
        (∃ entry ∈ query'.log.entries,
          entry.code = .blankNodeScope ∧ entry.subject = some label) ↔
        ∃ path path', path ≠ path' ∧ query.Occurs label path ∧ query.Occurs label path' := by
  rcases check_blankLaw unchecked checkable distinct with ⟨⟨correct, run⟩, law⟩
  refine ⟨correct, query.afterCheck, run, fun label => ?_⟩
  rw [← Log.mem_shared, law.shared]

def aboutBlank : Query :=
  (Operation.group [0]).run.after
    ((Operation.triple (.var (.ofBlank "b")) { node := .const (.iri "p") }
      (.var (.ofName "x"))).run.after {})

def aboutBlankTwice : Query :=
  (Operation.setBody 3).run.after
    ((Operation.group [1, 2]).run.after
      ((Operation.subquery ((Operation.setBody 1).run.after aboutBlank)).run.after aboutBlank))

theorem aboutBlank_unchecked : aboutBlank.Unchecked := by
  have empty : Query.Unchecked {} := .empty {} _ _ _
  exact .step _ (.step _ empty nofun nofun) nofun nofun

theorem aboutBlankTwice_unchecked : aboutBlankTwice.Unchecked := by
  have inner : ((Operation.setBody 1).run.after aboutBlank).Unchecked :=
    .step _ aboutBlank_unchecked nofun nofun
  refine .step _ (.step _ (.step _ aboutBlank_unchecked nofun ?_) nofun nofun) nofun nofun
  intro sub equal
  cases equal
  exact inner

theorem aboutBlankTwice_checkable : aboutBlankTwice.Everywhere Query.Checkable := by
  have inner : ((Operation.setBody 1).run.after aboutBlank).Everywhere Query.Checkable :=
    .alone ⟨rfl, Query.sound_of_descends (by decide) (by decide)⟩ rfl
  exact .of_subqueries ⟨rfl, Query.sound_of_descends (by decide) (by decide)⟩
    (List.forall_mem_singleton.mpr inner)

theorem aboutBlankTwice_shared_iff :
    ∃ correct query', check.run aboutBlankTwice = .ok correct query' ∧
      ∀ label,
        (∃ entry ∈ query'.log.entries,
          entry.code = .blankNodeScope ∧ entry.subject = some label) ↔
        ∃ path path', path ≠ path' ∧ aboutBlankTwice.Occurs label path ∧
          aboutBlankTwice.Occurs label path' := by
  apply check_shared_iff aboutBlankTwice_unchecked aboutBlankTwice_checkable
  exact .of_subqueries nofun (List.forall_mem_singleton.mpr (.alone nofun rfl))

end Build

end Sparql
