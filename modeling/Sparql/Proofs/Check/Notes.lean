import Sparql.Proofs.Check.Ledger
import Sparql.Proofs.Check.Stage

/-!
The notes that a check of a pattern takes, without the check, and the proof that a check of a sound
pattern takes just these: `writes_checkPattern`.
-/

namespace Sparql

/-! ## Notes of patterns -/

/-- The notes of values in order, where each value adds to the scope of those after it. -/
def Note.inOrder {α : Type} (visible : α → List Variable) (notes : Scope → α → List Note) :
    (before : Scope) → List α → List Note
  | _, [] => []
  | before, value :: rest =>
    notes before value ++ inOrder visible notes (before ++ Scope.ordinary (visible value)) rest

def Triple.notes (t : Triple) (owner : PatternId) : List Note :=
  t.blankLabels.map (.owned · owner)

def rowNotes (width : Nat) : (row : Nat) → List (List (Option Expr)) → List Note
  | _, [] => []
  | row, cells :: rest =>
    (if cells.length = width then []
      else [.told (Problem.rowWidth row cells.length width).toDiagnostic]) ++
      rowNotes width (row + 1) rest

def InlineData.notes (table : InlineData) : List Note := rowNotes table.vars.length 1 table.rows

/-- What is known of a subquery after its check is told again, and its labels belong to it as a
whole. -/
def Query.relayed (sub : Query) (id : PatternId) : List Note :=
  sub.afterCheck.log.entries.map .told ++ sub.afterCheck.blankLabels.map (.owned · id)

def targetNotes (problem : String → Problem) (before : Scope) (target : Variable) : List Note :=
  if target.occursIn before then [.told (problem target.text).toDiagnostic] else []

/-- The notes of a pattern where some variables are in scope, by those of its parts. The triples of
a group and of its collections belong to the group, and all others to the pattern around them. -/
def Pattern.notes (visibleOf : PatternId → List Variable)
    (notesOf : Option PatternId → Scope → PatternId → List Note) (owner : PatternId)
    (before : Scope) (id : PatternId) : Pattern Query → List Note
  | triple t => t.notes owner
  | group children => Note.inOrder visibleOf (notesOf (some id)) before children
  | collection _ cells => cells.flatMap (notesOf (some owner) before)
  | union left right => notesOf none before left ++ notesOf none before right
  | optional body => notesOf none before body
  | minus body => notesOf none before body
  | filter condition => condition.patterns.flatMap (notesOf none before)
  | bind value target =>
    value.patterns.flatMap (notesOf none before) ++ targetNotes .targetBound before target
  | values table => table.notes
  | service endpoint _ body =>
    notesOf none (before ++ Scope.ordinary endpoint.asVariable?.toList) body
  | graph name body => notesOf none (before ++ Scope.ordinary name.asVariable?.toList) body
  | subquery sub => sub.relayed id

/-- The notes of a pattern. A triple belongs to the owner that is given, or else to itself. -/
def Arena.notesAt (arena : Arena Query) :
    (levels : Nat) → (given : Option PatternId) → (before : Scope) → PatternId → List Note
  | 0, _, _, _ => []
  | levels + 1, given, before, id =>
    match arena.get? id with
    | some p =>
      p.notes (arena.visibleAt levels) (notesAt arena levels) (given.getD id) before id
    | none => []

namespace Arena

variable {arena : Arena Query} {levels : Nat} {id : PatternId} {t : Triple}

theorem visibleAt_triple (fits : arena.Fits levels id) (found : arena.get? id = some (.triple t)) :
    arena.visibleAt levels id = t.vars := by
  cases levels with
  | zero => exact fits.elim
  | succ levels =>
      rw [visibleAt, found]
      rfl

theorem notesAt_triple (fits : arena.Fits levels id) (found : arena.get? id = some (.triple t))
    (given : Option PatternId) (before : Scope) :
    arena.notesAt levels given before id = t.notes (given.getD id) := by
  cases levels with
  | zero => exact fits.elim
  | succ levels =>
      rw [notesAt, found]
      rfl

end Arena

namespace Build

variable {α β : Type} {start : Query}

/-! ## Writing notes -/

/-- In the middle of a check, the operation returns such a value and takes these notes. -/
def Writes (start : Query) (x : Build α) (returns : α → Prop) (notes : List Note) : Prop :=
  ∀ query, start.Stage query →
    Ends x query
      (fun value query' => returns value ∧ start.Stage query' ∧
        query'.ledger = query.ledger.taking start.mayShare notes)
      fun _ _ => False

theorem Writes.bind {x : Build α} {next : α → Build β} {between : α → Prop} {returns : β → Prop}
    {notes notes' : List Note} (first : Writes start x between notes)
    (second : ∀ value, between value → Writes start (next value) returns notes') :
    Writes start (x >>= next) returns (notes ++ notes') := by
  intro query stage
  apply (first query stage).bind
  rintro value query₁ ⟨holds, stage₁, ledger₁⟩
  refine (second value holds query₁ stage₁).imp ?_ fun _ _ => id
  rintro value' query₂ ⟨holds', stage₂, ledger₂⟩
  exact ⟨holds', stage₂, by rw [ledger₂, ledger₁, Ledger.taking_append]⟩

theorem writes_pure {returns : α → Prop} {value : α} (holds : returns value) :
    Writes start (pure value) returns [] :=
  fun _ stage => ⟨holds, stage, rfl⟩

theorem Writes.after {x : Build α} {next : α → Build β} {between : α → Prop}
    {returns : β → Prop} {notes : List Note} (first : Writes start x between [])
    (second : ∀ value, between value → Writes start (next value) returns notes) :
    Writes start (x >>= next) returns notes :=
  first.bind second

theorem Writes.returning {x : Build α} {value : β} {between : α → Prop} {returns : β → Prop}
    {notes : List Note} (first : Writes start x between notes) (holds : returns value) :
    Writes start (x >>= fun _ => pure value) returns notes := by
  rw [← List.append_nil notes]
  exact first.bind fun _ _ => writes_pure holds

theorem Writes.discard {x : Build α} {returns : α → Prop} {notes : List Note}
    (writes : Writes start x returns notes) :
    Writes start (discard x) (fun _ => True) notes := by
  intro query stage
  rw [ends_discard]
  exact (writes query stage).imp (fun _ _ holds => ⟨trivial, holds.2⟩) fun _ _ => id

theorem writes_forM {values : List α} {body : α → Build PUnit} {notes : α → List Note}
    (writes : ∀ value ∈ values, Writes start (body value) (fun _ => True) (notes value)) :
    Writes start (forM values body) (fun _ => True) (values.flatMap notes) := by
  induction values with
  | nil => exact writes_pure trivial
  | cons value rest induction =>
      rw [List.forM_cons, List.flatMap_cons]
      exact (writes value (List.mem_cons_self ..)).bind fun _ _ =>
        induction fun value member => writes value (List.mem_cons_of_mem _ member)

theorem writes_each {values : List α} {body : α → Build PUnit} {note : α → Note}
    (writes : ∀ value ∈ values, Writes start (body value) (fun _ => True) [note value]) :
    Writes start (forM values body) (fun _ => True) (values.map note) := by
  rw [List.map_eq_flatMap]
  exact writes_forM writes

theorem writes_inOrder {values : List α} {body : Scope → α → Build Scope}
    {visible : α → List Variable} {notes : Scope → α → List Note} {scope before : Scope}
    (same : Scope.Same scope before)
    (writes : ∀ value ∈ values, ∀ scope before, Scope.Same scope before →
      Writes start (body scope value) (· = (visible value).foldl Scope.bind scope)
        (notes before value)) :
    Writes start (values.foldlM body scope) (· = (values.flatMap visible).foldl Scope.bind scope)
      (Note.inOrder visible notes before values) := by
  induction values generalizing scope before with
  | nil => exact writes_pure rfl
  | cons value rest induction =>
      rw [List.foldlM_cons, List.flatMap_cons, List.foldl_append, Note.inOrder]
      apply (writes value (List.mem_cons_self ..) scope before same).bind
      rintro scope' rfl
      exact induction (same.foldl_bind _) fun value member =>
        writes value (List.mem_cons_of_mem _ member)

/-! ## Reports and blank nodes -/

theorem writes_report (diagnostic : Diagnostic) :
    Writes start (report diagnostic) (fun _ => True) [.told diagnostic] := by
  intro query stage
  rw [ends_report, stage.lenient, Bool.and_false, if_neg Bool.false_ne_true]
  exact ⟨trivial, ⟨stage.lenient, stage.clauses, stage.size, stage.settled⟩, rfl⟩

theorem writes_problem (p : Problem) :
    Writes start (problem p) (fun _ => True) [.told p.toDiagnostic] :=
  writes_report _

theorem writes_checkBlank (label : String) (owner : PatternId) :
    Writes start (checkBlank label owner) (fun _ => True) [.owned label owner] := by
  intro query stage
  have taken : query.ledger.taking start.mayShare [.owned label owner] =
      query.ledger.take start.mayShare (.owned label owner) := rfl
  rw [checkBlank, ends_bind, ends_get, taken]
  dsimp only
  split
  · next new =>
      have new' : query.ledger.owners.lookup label = none := new
      rw [Ledger.take_of_none new']
      exact ⟨trivial, ⟨stage.lenient, stage.clauses, stage.size, stage.settled⟩, rfl⟩
  · next first known =>
      have known' : query.ledger.owners.lookup label = some first := known
      have excused : (first = owner ∨ query.clauses.dataUpdate = .insertion ∨
          isReported query.log label = true) ↔
          first = owner ∨ start.mayShare = true ∨ isReported query.ledger.log label = true := by
        rw [stage.clauses, Query.mayShare, decide_eq_true_iff]
        rfl
      rw [Ledger.take_of_some known']
      split
      · next holds =>
          rw [if_pos (excused.mp holds)]
          exact ⟨trivial, stage, rfl⟩
      · next fails =>
          rw [if_neg (mt excused.mpr fails)]
          exact writes_problem _ query stage

theorem writes_labels (labels : List String) (owner : PatternId) :
    Writes start (labels.forM (checkBlank · owner)) (fun _ => True) (labels.map (.owned · owner)) :=
  writes_each fun label _ => writes_checkBlank label owner

theorem writes_checkTriple (scope : Scope) (t : Triple) (owner : PatternId) :
    Writes start (checkTriple scope t owner) (· = t.vars.foldl Scope.bind scope)
      (t.notes owner) :=
  (writes_labels t.blankLabels owner).returning rfl

/-! ## Tables -/

theorem writes_checkRows (width row : Nat) (rows : List (List (Option Expr))) :
    Writes start (checkRows width row rows) (fun _ => True) (rowNotes width row rows) := by
  induction rows generalizing row with
  | nil => exact writes_pure trivial
  | cons cells rest induction =>
      rw [checkRows, rowNotes]
      split
      · exact induction (row + 1)
      · exact (writes_problem _).bind fun _ _ => induction (row + 1)

theorem writes_checkTable (scope : Scope) (table : InlineData) :
    Writes start (checkTable scope table) (· = table.vars.foldl Scope.bind scope) table.notes :=
  (writes_checkRows _ _ _).returning rfl

/-! ## Patterns -/

theorem writes_triple {id : PatternId} {t : Triple}
    (found : start.arena.get? id = some (.triple t)) :
    Writes start (inspect (·.triple id)) (· = t) [] := by
  intro query stage
  have here := Arena.triple_eq_ok.mpr (stage.get?_eq found nofun)
  rw [ends_inspect, here]
  exact ⟨rfl, stage, rfl⟩

theorem writes_checkCells {cells : List PatternId} {levels : Nat}
    (triples : ∀ cell ∈ cells, start.arena.HoldsTriple cell)
    (fits : ∀ cell ∈ cells, start.arena.Fits levels cell) (scope before : Scope)
    (owner : PatternId) :
    Writes start (checkCells scope cells owner)
      (· = (cells.flatMap (start.arena.visibleAt levels)).foldl Scope.bind scope)
      (cells.flatMap (start.arena.notesAt levels (some owner) before)) := by
  induction cells generalizing scope with
  | nil => exact writes_pure rfl
  | cons cell rest induction =>
      rcases triples cell (List.mem_cons_self ..) with ⟨t, found⟩
      have fit := fits cell (List.mem_cons_self ..)
      rw [checkCells, List.foldlM_cons, List.flatMap_cons, List.flatMap_cons,
        Arena.notesAt_triple fit found, Arena.visibleAt_triple fit found, List.foldl_append]
      have first : Writes start (do checkTriple scope (← inspect (·.triple cell)) owner)
          (· = t.vars.foldl Scope.bind scope) (t.notes owner) := by
        refine (writes_triple found).after fun _ equal => ?_
        rw [equal]
        exact writes_checkTriple scope t owner
      apply first.bind
      rintro _ rfl
      exact induction (fun cell member => triples cell (List.mem_cons_of_mem _ member))
        (fun cell member => fits cell (List.mem_cons_of_mem _ member)) _

theorem writes_target {scope before : Scope} (same : Scope.Same scope before)
    (problem' : String → Problem) (target : Variable) :
    Writes start (do
        if target.occursIn scope then
          problem (problem' target.text)
        return scope.bind target)
      (· = scope.bind target) (targetNotes problem' before target) := by
  rw [targetNotes, ← same target]
  split
  · exact (writes_problem _).returning rfl
  · exact writes_pure rfl

theorem writes_pattern {id : PatternId} {p : Pattern Query}
    (found : start.arena.get? id = some p) :
    Writes start (pattern id)
      (fun p' => p' = p ∨ ∃ sub, p = .subquery sub ∧ p' = .subquery sub.afterCheck) [] := by
  intro query stage
  rw [ends_pattern]
  rcases stage.settled id p found with same | ⟨sub, equal, same⟩
  · rw [same]
    exact ⟨.inl rfl, stage, rfl⟩
  · rw [same]
    exact ⟨.inr ⟨sub, equal, rfl⟩, stage, rfl⟩

theorem writes_checkSubquery {id : PatternId} {sub sub' : Query} {correct : Bool}
    (found : start.arena.get? id = some (.subquery sub))
    (run : check.run sub' = .ok correct sub.afterCheck) (scope : Scope) :
    Writes start (checkSubquery check scope id sub')
      (· = sub.afterCheck.clauses.selected.foldl Scope.bind scope) (sub.relayed id) := by
  have replaced : Writes start (modify fun query =>
      { query with arena := query.arena.set id (.subquery sub.afterCheck) }) (fun _ => True) [] :=
    fun query stage => ⟨trivial, stage.replace found, rfl⟩
  unfold checkSubquery
  rw [run]
  refine replaced.after fun _ _ => ?_
  refine (writes_each fun diagnostic _ => writes_report diagnostic).bind fun _ _ => ?_
  exact (writes_labels _ id).returning rfl

theorem writes_checkChild (cells : start.arena.CellsAreTriples) {levels : Nat}
    {scope before : Scope} {child : PatternId} (opens : Opens start levels child)
    (inner : Writes start (checkPattern check levels scope child)
      (· = (start.arena.visibleAt levels child).foldl Scope.bind scope)
      (start.arena.notesAt levels none before child)) (owner : PatternId) :
    Writes start (checkChild check levels owner scope child)
      (· = (start.arena.visibleAt levels child).foldl Scope.bind scope)
      (start.arena.notesAt levels (some owner) before child) := by
  cases levels with
  | zero => exact opens.fits.elim
  | succ levels =>
      rcases opens.fits with ⟨p, found, fit⟩
      refine (writes_pattern found).after fun p' settled => ?_
      rw [Arena.notesAt, found] at inner ⊢
      rcases settled with rfl | ⟨sub, rfl, rfl⟩
      · cases p' with
        | triple t =>
            rw [Arena.visibleAt, found]
            exact writes_checkTriple scope t owner
        | collection head ids =>
            rw [Arena.visibleAt, found]
            exact writes_checkCells (cells child head ids found)
              (fun cell member => fit cell (List.mem_append_left _ member)) scope before owner
        | _ => exact inner
      · exact inner

theorem writes_checkPattern (cells : start.arena.CellsAreTriples) {levels : Nat}
    {scope before : Scope} {id : PatternId} (opens : Opens start levels id)
    (same : Scope.Same scope before) :
    Writes start (checkPattern check levels scope id)
      (· = (start.arena.visibleAt levels id).foldl Scope.bind scope)
      (start.arena.notesAt levels none before id) := by
  induction levels generalizing scope before id with
  | zero => exact opens.fits.elim
  | succ levels induction =>
      rcases opens.fits with ⟨p, found, _⟩
      have opened (part : PatternId) (member : part ∈ p.parts) := opens.part found member
      have tested {ids : List PatternId} (opened : ∀ id ∈ ids, Opens start levels id) :
          Writes start (ids.forM fun id => discard (checkPattern check levels scope id))
            (fun _ => True) (ids.flatMap (start.arena.notesAt levels none before)) :=
        writes_forM fun id member => (induction (opened id member) same).discard
      rw [checkPattern, Arena.visibleAt, Arena.notesAt, found]
      refine (writes_pattern found).after fun p' settled => ?_
      rcases settled with rfl | ⟨sub, rfl, rfl⟩
      · cases p' with
        | triple t => exact writes_checkTriple scope t id
        | group children =>
            refine writes_inOrder same fun child member scope before same => ?_
            have part := opened child (List.mem_append_left _ member)
            exact writes_checkChild cells part (induction part same) id
        | collection head ids =>
            exact writes_checkCells (cells id head ids found)
              (fun cell member => (opened cell (List.mem_append_left _ member)).fits) scope
              before id
        | union left right =>
            refine (induction (opened left ?_) same).discard.bind fun _ _ => ?_
            · simp [Pattern.parts, Pattern.children]
            · refine (induction (opened right ?_) same).discard.returning rfl
              simp [Pattern.parts, Pattern.children]
        | optional body | minus body =>
            refine (induction (opened body ?_) same).discard.returning rfl
            simp [Pattern.parts, Pattern.children]
        | filter condition =>
            exact (tested fun id member => opened id (List.mem_append_right _ member)).returning rfl
        | bind value target =>
            refine (tested fun id member => opened id (List.mem_append_right _ member)).bind
              fun _ _ => ?_
            dsimp only [Pattern.visible]
            rw [Scope.foldl_bind_ordinary]
            exact writes_target same .targetBound target
        | values table => exact writes_checkTable scope table
        | service endpoint silent body =>
            dsimp only [Pattern.visible]
            rw [List.foldl_append]
            refine induction (opened body ?_) (same.foldl_bind _)
            simp [Pattern.parts, Pattern.children]
        | graph name body =>
            dsimp only [Pattern.visible]
            rw [List.foldl_append]
            refine induction (opened body ?_) (same.foldl_bind _)
            simp [Pattern.parts, Pattern.children]
        | subquery sub =>
            rcases opens.parts id sub .refl found with ⟨correct, run, _⟩
            exact writes_checkSubquery found run scope
      · exact writes_checkSubquery found (opens.parts id sub .refl found).again scope

end Build

end Sparql
