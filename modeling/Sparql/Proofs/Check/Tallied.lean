import Sparql.Proofs.Check.Written

/-!
What shows of the notes of a check in its tally. Most reports do not, and the other notes are those
of the visits, one by one: `Query.accounted`. Therefore a check leaves the tally of its visits.
-/

namespace Sparql

/-! ## Tallies of ledgers -/

def Ledger.tally (ledger : Ledger) : Tally :=
  { rebound := ledger.log.rebound, shared := ledger.log.shared, owners := ledger.owners }

def Tally.note (mayShare : Bool) (tally : Tally) : Note → Tally
  | .told report => tally.report report
  | .owned label owner => tally.own mayShare owner label

theorem Build.isReported_iff {log : Log} {label : String} :
    isReported log label = true ↔ label ∈ log.shared := by
  simp only [isReported, Log.shared, List.any_eq_true, List.mem_flatMap, Bool.and_eq_true,
    beq_iff_eq]
  refine exists_congr fun entry => and_congr_right fun _ => ?_
  by_cases shared : entry.code = .blankNodeScope <;> simp [shared]

namespace Ledger

theorem tally_report (ledger : Ledger) (report : Diagnostic) :
    { ledger with log := ledger.log.add report }.tally = ledger.tally.report report := by
  unfold tally Tally.report Log.rebound Log.shared Log.add
  rw [List.filter_append, List.flatMap_append]
  congr 2
  · by_cases rebound : report.code = .bindScope <;> simp [rebound]
  · simp

theorem tally_take (mayShare : Bool) (ledger : Ledger) (note : Note) :
    (ledger.take mayShare note).tally = ledger.tally.note mayShare note := by
  cases note with
  | told report => exact ledger.tally_report report
  | owned label owner =>
      rw [Tally.note]
      cases known : ledger.owners.lookup label with
      | none =>
          have known' : ledger.tally.owners.lookup label = none := known
          rw [take_of_none known, Tally.own_of_none known']
          rfl
      | some first =>
          have known' : ledger.tally.owners.lookup label = some first := known
          have excused : (first = owner ∨ mayShare = true ∨
              Build.isReported ledger.log label = true) ↔
              first = owner ∨ mayShare = true ∨ label ∈ ledger.tally.shared := by
            rw [Build.isReported_iff]
            rfl
          rw [take_of_some known, Tally.own_of_some known']
          simp only [excused]
          split
          · rfl
          · rw [tally_report]
            simp [Tally.report, Problem.toDiagnostic]

theorem tally_taking (mayShare : Bool) (notes : List Note) (ledger : Ledger) :
    (ledger.taking mayShare notes).tally = notes.foldl (Tally.note mayShare) ledger.tally :=
  (List.foldl_hom tally fun ledger note => (tally_take mayShare ledger note).symm).symm

end Ledger

/-! ## Notes that show -/

namespace Note

def shows : Note → Bool
  | told report => report.code == .bindScope || report.code == .blankNodeScope
  | owned _ _ => true

theorem tally_of_hidden {note : Note} (hidden : note.shows = false) (mayShare : Bool)
    (tally : Tally) : tally.note mayShare note = tally := by
  cases note with
  | told report =>
      rcases Bool.or_eq_false_iff.mp hidden with ⟨bound, shared⟩
      simp [Tally.note, Tally.report, beq_eq_false_iff_ne.mp bound, beq_eq_false_iff_ne.mp shared]
  | owned _ _ => cases hidden

theorem foldl_shows (mayShare : Bool) (notes : List Note) (tally : Tally) :
    (notes.filter shows).foldl (Tally.note mayShare) tally =
      notes.foldl (Tally.note mayShare) tally := by
  rw [List.foldl_filter]
  congr
  funext tally note
  split
  · rfl
  · next hidden => rw [tally_of_hidden (Bool.eq_false_iff.mpr hidden)]

end Note

theorem Tally.visit_eq (tally : Tally) (mayShare : Bool) (visit : Visit) :
    tally.visit mayShare visit = visit.notes.foldl (Tally.note mayShare) tally := by
  cases visit with
  | triple t owner =>
      rw [Visit.notes, Triple.notes, List.foldl_map]
      rfl
  | bind target before =>
      rw [Visit.notes, targetNotes, Tally.visit]
      split <;> rfl
  | subquery id sub =>
      simp only [Visit.notes, Query.relayed, Tally.visit, List.foldl_append, List.foldl_map]
      rfl

theorem Query.tallied_eq (query : Query) (visits : List Visit) (tally : Tally) :
    query.tallied visits tally =
      (visits.flatMap Visit.notes).foldl (Tally.note query.mayShare) tally := by
  rw [List.foldl_flatMap, tallied]
  congr
  funext tally visit
  exact tally.visit_eq query.mayShare visit

def Accounted (notes : List Note) (visits : List Visit) : Prop :=
  notes.filter Note.shows = (visits.flatMap Visit.notes).filter Note.shows

namespace Accounted

variable {α : Type} {notes notes' : List Note} {visits visits' : List Visit}

theorem tally_taking (accounted : Accounted notes visits) (query : Query) (ledger : Ledger) :
    (ledger.taking query.mayShare notes).tally = query.tallied visits ledger.tally := by
  rw [ledger.tally_taking, query.tallied_eq, ← Note.foldl_shows, accounted, Note.foldl_shows]

theorem of_visits (visits : List Visit) : Accounted (visits.flatMap Visit.notes) visits := rfl

theorem of_visit (visit : Visit) : Accounted visit.notes [visit] := by
  rw [Accounted, List.flatMap_singleton]

theorem of_hidden (hidden : ∀ note ∈ notes, note.shows = false) : Accounted notes [] :=
  List.filter_eq_nil_iff.mpr fun note member => Bool.eq_false_iff.mp (hidden note member)

theorem append (first : Accounted notes visits) (second : Accounted notes' visits') :
    Accounted (notes ++ notes') (visits ++ visits') := by
  rw [Accounted, List.filter_append, List.flatMap_append, List.filter_append, first, second]

theorem flatMap {values : List α} {notes : α → List Note} {visits : α → List Visit}
    (accounted : ∀ value ∈ values, Accounted (notes value) (visits value)) :
    Accounted (values.flatMap notes) (values.flatMap visits) := by
  rw [Accounted, List.filter_flatMap, List.flatMap_assoc, List.filter_flatMap]
  exact List.flatMap_congr accounted

theorem inOrder {values : List α} {visible : α → List Variable} {notes : Scope → α → List Note}
    {visits : Scope → α → List Visit}
    (accounted : ∀ value ∈ values, ∀ before, Accounted (notes before value) (visits before value))
    (before : Scope) :
    Accounted (Note.inOrder visible notes before values)
      (Visit.inOrder visible visits before values) := by
  induction values generalizing before with
  | nil => rfl
  | cons value rest induction =>
      exact (accounted value (List.mem_cons_self ..) before).append
        (induction (fun value member => accounted value (List.mem_cons_of_mem _ member)) _)

end Accounted

/-! ## Patterns -/

theorem hidden_rowNotes {width row : Nat} {rows : List (List (Option Expr))} {note : Note}
    (member : note ∈ rowNotes width row rows) : note.shows = false := by
  induction rows generalizing row with
  | nil => cases member
  | cons cells rest induction =>
      rcases List.mem_append.mp member with here | later
      · split at here
        · cases here
        · cases List.mem_singleton.mp here
          rfl
      · exact induction later

namespace Arena

variable {arena : Arena Query} {levels : Nat}

theorem notesAt_cells {cells : List PatternId} (triples : ∀ cell ∈ cells, arena.HoldsTriple cell)
    (fits : ∀ cell ∈ cells, arena.Fits levels cell) (owner : PatternId) (before : Scope) :
    cells.flatMap (arena.notesAt levels (some owner) before) =
      (arena.cellVisits owner cells).flatMap Visit.notes := by
  rw [cellVisits, List.filterMap_eq_flatMap_toList, List.flatMap_assoc]
  refine List.flatMap_congr fun cell member => ?_
  rcases triples cell member with ⟨t, found⟩
  rw [notesAt_triple (fits cell member) found, Option.getD_some, found]
  simp [Pattern.triple?, Visit.notes]

theorem accounted_child (cells : arena.CellsAreTriples) {child : PatternId}
    (fits : arena.Fits levels child) (owner : PatternId) {before : Scope}
    (whole : Accounted (arena.notesAt levels none before child)
      (arena.visitsAt levels before child)) :
    Accounted (arena.notesAt levels (some owner) before child)
      (arena.childVisits owner (arena.visitsAt levels before) child) := by
  cases levels with
  | zero => exact fits.elim
  | succ levels =>
      rcases fits with ⟨p, found, fit⟩
      rw [notesAt, found] at whole ⊢
      rw [childVisits, found]
      cases p with
      | triple t => exact .of_visit (.triple t owner)
      | collection head ids =>
          dsimp only [Pattern.notes, Option.getD_some]
          rw [notesAt_cells (cells child head ids found)
            (fun cell member => fit cell (List.mem_append_left _ member)) owner before]
          exact .of_visits _
      | _ => exact whole

theorem accounted_notesAt (cells : arena.CellsAreTriples) {id : PatternId}
    (fits : arena.Fits levels id) (before : Scope) :
    Accounted (arena.notesAt levels none before id) (arena.visitsAt levels before id) := by
  induction levels generalizing before id with
  | zero => exact fits.elim
  | succ levels induction =>
      rcases fits with ⟨p, found, fit⟩
      have part (next : PatternId) (member : next ∈ p.children) (before : Scope) :=
        induction (fit next (List.mem_append_left _ member)) before
      have tested : Accounted (p.tested.flatMap (arena.notesAt levels none before))
          (p.tested.flatMap (arena.visitsAt levels before)) :=
        .flatMap fun next member => induction (fit next (List.mem_append_right _ member)) before
      rw [notesAt, visitsAt, found]
      cases p with
      | triple t => exact .of_visit (.triple t id)
      | group children =>
          refine Accounted.inOrder (fun child member before => ?_) before
          exact accounted_child cells (fit child (List.mem_append_left _ member)) id
            (part child member before)
      | collection head ids =>
          dsimp only [Pattern.notes, Option.getD_none]
          rw [notesAt_cells (cells id head ids found)
            (fun cell member => fit cell (List.mem_append_left _ member)) id before]
          exact .of_visits _
      | union left right =>
          exact (part left (by simp [Pattern.children]) before).append
            (part right (by simp [Pattern.children]) before)
      | optional body | minus body => exact part body (List.mem_singleton_self body) before
      | filter condition => exact tested
      | bind value target => exact tested.append (.of_visit (.bind target before))
      | values table => exact .of_hidden fun note member => hidden_rowNotes member
      | service _ _ body | graph _ body => exact part body (List.mem_singleton_self body) _
      | subquery sub => exact .of_visit (.subquery id sub)

end Arena

/-! ## Queries -/

theorem hidden_groundNotes {dataUpdate : DataUpdate} {context : String} {node : Expr} {note : Note}
    (member : note ∈ groundNotes dataUpdate context node) : note.shows = false := by
  unfold groundNotes at member
  split at member
  · split at member
    · cases List.mem_singleton.mp member
      rfl
    · cases member
  · split at member
    · cases List.mem_singleton.mp member
      rfl
    · cases member

theorem hidden_groupingNotes {clauses : Clauses} {note : Note}
    (member : note ∈ clauses.groupingNotes) : note.shows = false := by
  unfold Clauses.groupingNotes at member
  split at member
  · cases member
  · rcases List.mem_map.mp member with ⟨v, _, rfl⟩
    rfl

namespace Query

variable {query : Query}

theorem hidden_groundNotes {note : Note} (member : note ∈ query.groundNotes) :
    note.shows = false := by
  unfold groundNotes at member
  split at member
  · cases member
  · rcases List.mem_flatMap.mp member with ⟨id, _, inside⟩
    rcases List.mem_flatMap.mp inside with ⟨node, _, here⟩
    exact Sparql.hidden_groundNotes here

theorem accounted_itemNotes (ready : query.Ready) {item : Projection}
    (member : item ∈ query.clauses.select) (before : Scope) :
    Accounted (query.itemNotes before item)
      ((item.value.toList.flatMap Expr.patterns).flatMap (query.arena.visits before)) := by
  rw [itemNotes]
  cases here : item.value with
  | some value =>
      have tested : Accounted (value.patterns.flatMap (query.arena.notes before))
          (value.patterns.flatMap (query.arena.visits before)) :=
        .flatMap fun id tested =>
          Arena.accounted_notesAt ready.cells (ready.tested member here tested).fits before
      have target : Accounted (targetNotes .selectTargetBound before item.target) [] := by
        refine .of_hidden fun note member => ?_
        unfold targetNotes at member
        split at member
        · cases List.mem_singleton.mp member
          rfl
        · cases member
      simpa using tested.append target
  | none =>
      refine .of_hidden fun note member => ?_
      dsimp only at member
      split at member
      · cases member
      · cases List.mem_singleton.mp member
        rfl

theorem accounted (ready : query.Ready) : Accounted query.notes query.visits := by
  have body : Accounted query.bodyNotes query.bodyVisits :=
    .flatMap fun body member =>
      Arena.accounted_notesAt ready.cells (ready.body (Option.mem_toList.mp member)).fits []
  have ground : Accounted query.groundNotes [] := .of_hidden fun _ => hidden_groundNotes
  have templates : Accounted query.templateNotes query.templateVisits := .of_visits _
  have table : Accounted (query.clauses.values.toList.flatMap InlineData.notes) [] := by
    refine .of_hidden fun note member => ?_
    rcases List.mem_flatMap.mp member with ⟨table, _, inside⟩
    exact hidden_rowNotes inside
  have items : Accounted _ query.selectVisits :=
    .inOrder (fun item member => accounted_itemNotes ready member) query.scopeOfBody
  have grouping : Accounted query.completed.groupingNotes [] :=
    .of_hidden fun _ => hidden_groupingNotes
  have all := (((body.append ground).append templates).append (table.append items)).append grouping
  rwa [List.append_nil, List.append_nil, List.nil_append] at all

end Query

end Sparql
