import Sparql.Proofs.Check.Written
import Sparql.Proofs.Pattern.Gathered
import Sparql.Proofs.Union.Alike

/-!
Patterns that are turned: the branches of their unions are in either order. They make the same
variables visible, bind the same ones, and have the same notes, all up to their order.
-/

namespace Sparql

/-- From outside the queries look the same: in what they project so far, and in what a check makes
of that, of their reports and of their labels. -/
structure Query.Agrees (query query' : Query) : Prop where
  selected : Scope.Alike query.clauses.selected query'.clauses.selected
  projected : Scope.Alike query.afterCheck.clauses.selected query'.afterCheck.clauses.selected
  ledger : query.afterCheck.ledger.Alike query'.afterCheck.ledger

theorem Pattern.mem_children_union (left right child : PatternId) :
    child ∈ (union left right : Pattern Query).children ↔
      child ∈ (union right left : Pattern Query).children := by
  simp [children, or_comm]

theorem Query.Agrees.mem_relayed {sub sub' : Query} (agrees : sub.Agrees sub') (id : PatternId)
    (note : Note) : note ∈ sub.relayed id ↔ note ∈ sub'.relayed id := by
  have entries (report : Diagnostic) : report ∈ sub.afterCheck.log.entries ↔
      report ∈ sub'.afterCheck.log.entries := agrees.ledger.entries report
  have labels (label : String) : label ∈ sub.afterCheck.blankLabels ↔
      label ∈ sub'.afterCheck.blankLabels := by
    rw [mem_blankLabels, mem_blankLabels]
    exact agrees.ledger.labels label
  rw [relayed, relayed, List.mem_append, List.mem_append, List.mem_map, List.mem_map,
    List.mem_map, List.mem_map]
  simp only [entries, labels]

theorem Pattern.mem_notes_congr {p : Pattern Query} (plain : p.isSubquery = false)
    {visibleOf visibleOf' : PatternId → List Variable}
    {notesOf notesOf' : Option PatternId → Scope → PatternId → List Note}
    (visible : ∀ part ∈ p.parts, Scope.Alike (visibleOf part) (visibleOf' part))
    (notes : ∀ part ∈ p.parts, ∀ given before before', Scope.Same before before' →
      ∀ note, note ∈ notesOf given before part ↔ note ∈ notesOf' given before' part)
    (owner : PatternId) {before before' : Scope} (same : Scope.Same before before')
    (id : PatternId) (note : Note) :
    note ∈ p.notes visibleOf notesOf owner before id ↔
      note ∈ p.notes visibleOf' notesOf' owner before' id := by
  have child (part : PatternId) (member : part ∈ p.children) : part ∈ p.parts :=
    List.mem_append_left _ member
  have tested : note ∈ p.tested.flatMap (notesOf none before) ↔
      note ∈ p.tested.flatMap (notesOf' none before') :=
    mem_flatMap_congr (fun _ => .rfl)
      (fun next member => notes next (List.mem_append_right _ member) none _ _ same) note
  cases p with
  | triple _ | values _ => exact .rfl
  | group children =>
      refine Note.mem_inOrder_congr same (fun part member => visible part (child part member)) ?_ _
      exact fun part member => notes part (child part member) (some id)
  | collection head cells =>
      refine mem_flatMap_congr (fun _ => .rfl) (fun cell member => ?_) note
      exact notes cell (child cell member) (some owner) _ _ same
  | union left right =>
      dsimp only [Pattern.notes]
      rw [List.mem_append, List.mem_append]
      exact or_congr (notes left (child left (List.mem_cons_self ..)) none _ _ same note)
        (notes right (child right (List.mem_cons_of_mem _ (List.mem_cons_self ..))) none _ _ same
          note)
  | optional body | minus body =>
      exact notes body (child body (List.mem_cons_self ..)) none _ _ same note
  | filter condition => exact tested
  | bind value target =>
      dsimp only [Pattern.notes]
      rw [List.mem_append, List.mem_append, targetNotes, targetNotes, same target]
      exact or_congr_left tested
  | service _ _ body | graph _ body =>
      exact notes body (child body (List.mem_cons_self ..)) none _ _ (same.append fun _ => rfl) note
  | subquery sub => cases plain

namespace Arena

/-! ## Triples below patterns -/

def Yields (arena : Arena Query) (id cell : PatternId) : Prop :=
  arena.Contains id cell ∧ arena.HoldsTriple cell

section

variable {arena : Arena Query} {id cell : PatternId}

theorem yields_iff {p : Pattern Query} (found : arena.get? id = some p)
    (other : p.isTriple = false) :
    arena.Yields id cell ↔ ∃ child ∈ p.children, arena.Yields child cell := by
  constructor
  · rintro ⟨contains, triple⟩
    rcases contains.cases_head with rfl | ⟨child, ⟨p', found', member⟩, below⟩
    · rcases triple with ⟨t, here⟩
      cases found.symm.trans here
      cases other
    · cases found.symm.trans found'
      exact ⟨child, member, below, triple⟩
  · rintro ⟨child, member, below, triple⟩
    exact ⟨.head ⟨p, found, member⟩ below, triple⟩

theorem yields_triple {t : Triple} (found : arena.get? id = some (.triple t)) :
    arena.Yields id cell ↔ cell = id := by
  constructor
  · rintro ⟨contains, _⟩
    rcases contains.cases_head with rfl | ⟨_, ⟨p, here, child⟩, _⟩
    · rfl
    · cases found.symm.trans here
      cases child
  · rintro rfl
    exact ⟨.refl, t, found⟩

theorem mem_triplesUnder (fits : arena.Fits arena.levels id) :
    cell ∈ arena.triplesUnder id ↔ arena.Yields id cell := by
  rcases triplesBelow_ok fits with ⟨ids, collected, _⟩
  rw [triplesUnder, collected]
  refine (gathers_of_triplesBelow collected).mem_iff.trans ?_
  simp [Yields]

theorem notesAt_triple_congr {t : Triple} (found : arena.get? id = some (.triple t)) (levels : Nat)
    (given : Option PatternId) (before before' : Scope) :
    arena.notesAt levels given before id = arena.notesAt levels given before' id := by
  cases levels with
  | zero => rfl
  | succ levels =>
      rw [notesAt, notesAt, found]
      rfl

end

/-! ## Turned patterns -/

def Quiet (arena : Arena Query) (id : PatternId) : Prop :=
  ∀ levels before, arena.notesAt levels none before id = []

/-- From here on the arenas differ only in the order of the branches of unions, in that of the
triples of groups of nothing else, and in subqueries that agree. If that is allowed, they may differ
inside of optional parts of which no notes are taken, too. -/
inductive Turned (hides : Prop) (arena arena' : Arena Query) : PatternId → Prop
  | same {id : PatternId} {p : Pattern Query} (found : arena.get? id = some p)
      (found' : arena'.get? id = some p) (plain : p.isSubquery = false)
      (parts : ∀ part ∈ p.parts, Turned hides arena arena' part) : Turned hides arena arena' id
  | union {id left right : PatternId} (found : arena.get? id = some (.union left right))
      (found' : arena'.get? id = some (.union right left))
      (first : Turned hides arena arena' left) (second : Turned hides arena arena' right) :
      Turned hides arena arena' id
  | triples {id : PatternId} {cells cells' : List PatternId}
      (found : arena.get? id = some (.group cells)) (found' : arena'.get? id = some (.group cells'))
      (members : ∀ cell, cell ∈ cells ↔ cell ∈ cells')
      (triples : ∀ cell ∈ cells, ∃ t, arena.get? cell = some (.triple t) ∧
        arena'.get? cell = some (.triple t)) : Turned hides arena arena' id
  | subquery {id : PatternId} {sub sub' : Query} (found : arena.get? id = some (.subquery sub))
      (found' : arena'.get? id = some (.subquery sub')) (agrees : sub.Agrees sub') :
      Turned hides arena arena' id
  | hidden {id body : PatternId} (allowed : hides) (found : arena.get? id = some (.optional body))
      (found' : arena'.get? id = some (.optional body)) (quiet : arena.Quiet body)
      (quiet' : arena'.Quiet body)
      (below : ∀ cell, arena.Yields body cell ↔ arena'.Yields body cell) :
      Turned hides arena arena' id

namespace Turned

variable {hides : Prop} {arena arena' : Arena Query} {id : PatternId}

theorem triple {t : Triple} (found : arena.get? id = some (.triple t))
    (found' : arena'.get? id = some (.triple t)) : Turned hides arena arena' id :=
  .same found found' rfl nofun

theorem mono {hides' : Prop} (turned : Turned hides arena arena' id) (weaker : hides → hides') :
    Turned hides' arena arena' id := by
  induction turned with
  | same found found' plain _ induction => exact .same found found' plain induction
  | union found found' _ _ first second => exact .union found found' first second
  | triples found found' members triples => exact .triples found found' members triples
  | subquery found found' agrees => exact .subquery found found' agrees
  | hidden allowed found found' quiet quiet' below =>
      exact .hidden (weaker allowed) found found' quiet quiet' below

theorem visibleAt (turned : Turned hides arena arena' id) (levels : Nat) :
    Scope.Alike (arena.visibleAt levels id) (arena'.visibleAt levels id) := by
  induction levels generalizing id with
  | zero => exact .refl _
  | succ levels induction =>
      rw [Arena.visibleAt, Arena.visibleAt]
      cases turned with
      | @same _ p found found' plain parts =>
          rw [found, found']
          cases p with
          | group children | collection _ children =>
              exact Scope.alike_flatMap (fun _ => .rfl) fun child member =>
                induction (parts child (List.mem_append_left _ member))
          | service _ _ body | graph _ body =>
              exact (Scope.Alike.refl _).append (induction (parts body (List.mem_cons_self ..)))
          | subquery sub => cases plain
          | _ => exact .refl _
      | triples found found' members triples =>
          rw [found, found']
          refine Scope.alike_flatMap members fun cell member => ?_
          rcases triples cell member with ⟨t, here, here'⟩
          exact induction (.triple here here')
      | subquery found found' agrees =>
          rw [found, found']
          exact agrees.projected
      | union found found' _ _ | hidden _ found found' _ _ _ =>
          rw [found, found']
          exact .refl _

theorem bindsAt (turned : Turned False arena arena' id) {offered : Query → List Variable}
    (offers : ∀ sub sub' : Query, sub.Agrees sub' → Scope.Alike (offered sub) (offered sub'))
    (levels : Nat) :
    Scope.Alike (arena.bindsAt offered levels id) (arena'.bindsAt offered levels id) := by
  induction levels generalizing id with
  | zero => exact .refl _
  | succ levels induction =>
      rw [Arena.bindsAt, Arena.bindsAt]
      cases turned with
      | @same _ p found found' plain parts =>
          rw [found, found']
          refine (Scope.Alike.refl _).append ?_
          refine Scope.alike_flatMap (fun _ => .rfl) fun child member => ?_
          exact induction (parts child (p.sources_subset_parts member))
      | @union _ left right found found' first second =>
          rw [found, found']
          refine (Scope.Alike.refl []).append ?_
          refine Scope.alike_flatMap (Pattern.mem_children_union left right) ?_
          exact List.forall_mem_cons.mpr ⟨induction first,
            List.forall_mem_singleton.mpr (induction second)⟩
      | triples found found' members triples =>
          rw [found, found']
          refine (Scope.Alike.refl []).append ?_
          refine Scope.alike_flatMap members fun cell member => ?_
          rcases triples cell member with ⟨t, here, here'⟩
          exact induction (.triple here here')
      | subquery found found' agrees =>
          rw [found, found']
          exact (offers _ _ agrees).append (.refl [])
      | hidden allowed => exact allowed.elim

theorem mem_notesAt (turned : Turned hides arena arena' id) (levels : Nat)
    (given : Option PatternId) {before before' : Scope} (same : Scope.Same before before')
    (note : Note) :
    note ∈ arena.notesAt levels given before id ↔
      note ∈ arena'.notesAt levels given before' id := by
  induction levels generalizing id given before before' note with
  | zero => exact .rfl
  | succ levels induction =>
      rw [Arena.notesAt, Arena.notesAt]
      cases turned with
      | same found found' plain parts =>
          rw [found, found']
          exact Pattern.mem_notes_congr plain (fun part member => (parts part member).visibleAt _)
            (fun part member given _ _ => induction (parts part member) given) _ same id note
      | union found found' first second =>
          rw [found, found']
          dsimp only [Pattern.notes]
          rw [List.mem_append, List.mem_append, or_comm]
          exact or_congr (induction second none same note) (induction first none same note)
      | @triples _ cells cells' found found' members triples =>
          rw [found, found']
          dsimp only [Pattern.notes]
          -- The notes of a triple do not depend on those before it, nor on their order therefore.
          have blind : ∀ cell ∈ cells, ∀ before before',
              arena.notesAt levels (some id) before cell =
                arena.notesAt levels (some id) before' cell := by
            intro cell member
            rcases triples cell member with ⟨t, here, _⟩
            exact notesAt_triple_congr here levels _
          have blind' : ∀ cell ∈ cells', ∀ before before',
              arena'.notesAt levels (some id) before cell =
                arena'.notesAt levels (some id) before' cell := by
            intro cell member
            rcases triples cell ((members cell).mpr member) with ⟨t, _, here⟩
            exact notesAt_triple_congr here levels _
          rw [Note.inOrder_eq_flatMap blind, Note.inOrder_eq_flatMap blind']
          refine mem_flatMap_congr members (fun cell member => ?_) note
          rcases triples cell member with ⟨t, here, here'⟩
          exact induction (.triple here here') (some id) same
      | subquery found found' agrees =>
          rw [found, found']
          exact agrees.mem_relayed id note
      | hidden _ found found' quiet quiet' _ =>
          rw [found, found']
          dsimp only [Pattern.notes]
          rw [quiet, quiet']

theorem yields_iff (turned : Turned hides arena arena' id) (cell : PatternId) :
    arena.Yields id cell ↔ arena'.Yields id cell := by
  induction turned with
  | @same id p found found' plain parts induction =>
      cases triple : p.isTriple with
      | true =>
          rcases holdsTriple_of_isTriple found triple with ⟨t, here⟩
          cases found.symm.trans here
          rw [yields_triple found, yields_triple found']
      | false =>
          rw [Arena.yields_iff found triple, Arena.yields_iff found' triple]
          refine exists_congr fun child => and_congr_right fun member => ?_
          exact induction child (List.mem_append_left _ member)
  | @union id left right found found' _ _ first second =>
      rw [Arena.yields_iff found rfl, Arena.yields_iff found' rfl]
      simp [Pattern.children, first, second, or_comm]
  | @triples id cells cells' found found' members triples =>
      rw [Arena.yields_iff found rfl, Arena.yields_iff found' rfl]
      refine exists_congr fun child => ?_
      rw [Pattern.children, Pattern.children, ← members child]
      refine and_congr_right fun member => ?_
      rcases triples child member with ⟨t, here, here'⟩
      rw [yields_triple here, yields_triple here']
  | subquery found found' _ =>
      rw [Arena.yields_iff found rfl, Arena.yields_iff found' rfl]
      simp [Pattern.children]
  | hidden _ found found' _ _ below =>
      rw [Arena.yields_iff found rfl, Arena.yields_iff found' rfl]
      simp [Pattern.children, below]

theorem mem_triplesUnder (turned : Turned hides arena arena' id)
    (fits : arena.Fits arena.levels id) (fits' : arena'.Fits arena'.levels id) (cell : PatternId) :
    cell ∈ arena.triplesUnder id ↔ cell ∈ arena'.triplesUnder id := by
  rw [Arena.mem_triplesUnder fits, Arena.mem_triplesUnder fits', turned.yields_iff]

theorem get?_below (turned : Turned False arena arena' id) {cell : PatternId}
    (below : arena.Yields id cell) : arena'.get? cell = arena.get? cell := by
  induction turned with
  | @same id p found found' plain parts induction =>
      cases triple : p.isTriple with
      | true =>
          rcases holdsTriple_of_isTriple found triple with ⟨t, here⟩
          rw [(yields_triple here).mp below, found, found']
      | false =>
          rcases (Arena.yields_iff found triple).mp below with ⟨child, member, below⟩
          exact induction child (List.mem_append_left _ member) below
  | @union id left right found found' _ _ first second =>
      rcases (Arena.yields_iff found rfl).mp below with ⟨child, member, below⟩
      rcases List.mem_pair.mp member with rfl | rfl
      · exact first below
      · exact second below
  | triples found found' members triples =>
      rcases (Arena.yields_iff found rfl).mp below with ⟨child, member, below⟩
      rcases triples child member with ⟨t, here, here'⟩
      rw [(yields_triple here).mp below, here, here']
  | subquery found found' _ =>
      rcases (Arena.yields_iff found rfl).mp below with ⟨child, member, _⟩
      cases member
  | hidden allowed => exact allowed.elim

theorem mem_templateVisitsAt (turned : Turned False arena arena' id) {ids ids' : List PatternId}
    (same : ∀ id, id ∈ ids ↔ id ∈ ids') (levels : Nat) (owner : PatternId) (visit : Visit) :
    visit ∈ arena.templateVisitsAt ids levels owner id ↔
      visit ∈ arena'.templateVisitsAt ids' levels owner id := by
  induction levels generalizing id owner visit with
  | zero => exact .rfl
  | succ levels induction =>
      rw [templateVisitsAt, templateVisitsAt]
      cases turned with
      | @same _ p found found' plain parts =>
          rw [found, found']
          have children (owner : PatternId) (visit : Visit) :
              visit ∈ p.children.flatMap (arena.templateVisitsAt ids levels owner) ↔
                visit ∈ p.children.flatMap (arena'.templateVisitsAt ids' levels owner) :=
            mem_flatMap_congr (fun _ => .rfl)
              (fun child member => induction (parts child (List.mem_append_left _ member)) owner)
              visit
          cases p with
          | triple t =>
              dsimp only
              simp only [same id]
          | _ => exact children _ visit
      | @union _ left right found found' first second =>
          rw [found, found']
          refine mem_flatMap_congr (Pattern.mem_children_union left right) ?_ visit
          exact List.forall_mem_cons.mpr ⟨induction first owner,
            List.forall_mem_singleton.mpr (induction second owner)⟩
      | triples found found' members triples =>
          rw [found, found']
          refine mem_flatMap_congr members (fun cell member => ?_) visit
          rcases triples cell member with ⟨t, here, here'⟩
          exact induction (.triple here here') id
      | subquery found found' _ =>
          rw [found, found']
          exact .rfl
      | hidden allowed => exact allowed.elim

theorem of_added (turned : Turned False arena arena' id) {more more' : Arena Query}
    (added : arena.patterns <+: more.patterns) (added' : arena'.patterns <+: more'.patterns) :
    Turned hides more more' id := by
  induction turned with
  | same found found' plain _ induction =>
      exact .same (get?_of_added added found) (get?_of_added added' found') plain induction
  | union found found' _ _ first second =>
      exact .union (get?_of_added added found) (get?_of_added added' found') first second
  | triples found found' members triples =>
      refine .triples (get?_of_added added found) (get?_of_added added' found') members ?_
      intro cell member
      rcases triples cell member with ⟨t, here, here'⟩
      exact ⟨t, get?_of_added added here, get?_of_added added' here'⟩
  | subquery found found' agrees =>
      exact .subquery (get?_of_added added found) (get?_of_added added' found') agrees
  | hidden allowed => exact allowed.elim

end Turned

/-! ## Arenas of turned patterns -/

end Arena

/-- The patterns are the same up to the order of the branches of a union, or are subqueries that are
related. -/
inductive Pattern.Turns (nested : Query → Query → Prop) : Pattern Query → Pattern Query → Prop
  | same {p : Pattern Query} (plain : p.isSubquery = false) : Turns nested p p
  | union (left right : PatternId) : Turns nested (.union left right) (.union right left)
  | subquery {sub sub' : Query} (inside : nested sub sub') :
      Turns nested (.subquery sub) (.subquery sub')

theorem Pattern.Turns.mem_parts {nested : Query → Query → Prop} {p p' : Pattern Query}
    (turns : Pattern.Turns nested p p') (part : PatternId) : part ∈ p'.parts ↔ part ∈ p.parts := by
  cases turns with
  | same _ => rfl
  | union left right => simp [Pattern.parts, Pattern.children, tested, or_comm]
  | subquery _ => rfl

def Arena.Turns (nested : Query → Query → Prop) (arena arena' : Arena Query) : Prop :=
  List.Forall₂ (Pattern.Turns nested) arena.patterns arena'.patterns

namespace Arena.Turns

variable {nested : Query → Query → Prop} {arena arena' : Arena Query}

theorem size_eq (turns : Turns nested arena arena') : arena'.size = arena.size :=
  turns.length_eq.symm

theorem exists_get? (turns : Turns nested arena arena') {id : PatternId} {p : Pattern Query}
    (found : arena.get? id = some p) :
    ∃ p', arena'.get? id = some p' ∧ Pattern.Turns nested p p' := by
  rcases List.getElem?_eq_some_iff.mp found with ⟨inside, equal⟩
  have inside' : id < arena'.patterns.length := turns.length_eq ▸ inside
  exact ⟨_, List.getElem?_eq_getElem inside', equal ▸ turns.get inside inside'⟩

theorem fits (turns : Turns nested arena arena') {levels : Nat} {id : PatternId}
    (fits : arena.Fits levels id) : arena'.Fits levels id := by
  induction levels generalizing id with
  | zero => exact fits.elim
  | succ levels induction =>
      rcases fits with ⟨p, found, fit⟩
      rcases turns.exists_get? found with ⟨p', found', turns'⟩
      exact ⟨p', found', fun part member =>
        induction (fit part ((turns'.mem_parts part).mp member))⟩

theorem turned {hides : Prop} (turns : Turns Query.Agrees arena arena') {levels : Nat}
    {id : PatternId} (fits : arena.Fits levels id) : Turned hides arena arena' id := by
  induction levels generalizing id with
  | zero => exact fits.elim
  | succ levels induction =>
      rcases fits with ⟨p, found, fit⟩
      have part (part : PatternId) (member : part ∈ p.parts) := induction (fit part member)
      rcases turns.exists_get? found with ⟨p', found', same | ⟨left, right⟩ | agrees⟩
      · exact .same found found' same part
      · exact .union found found' (part left (by simp [Pattern.parts, Pattern.children]))
          (part right (by simp [Pattern.parts, Pattern.children]))
      · exact .subquery found found' agrees

end Arena.Turns

end Sparql
