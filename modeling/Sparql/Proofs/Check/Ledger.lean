import Mathlib.Data.Set.Insert
import Sparql.Proofs.Run
import Sparql.Query.Check

/-!
What a check writes down: reports, and the first owner of each blank label. It depends on the order
of its notes who is the first owner and where a shared label is reported. But the reports and the
labels that are in the ledger in the end do not: `alike_taking`.
-/

namespace Sparql

/-! ## Notes -/

inductive Note where
  | told (report : Diagnostic)
  | owned (label : String) (owner : PatternId)

def Diagnostic.IsSincere (report : Diagnostic) : Prop :=
  report.code = .blankNodeScope → ∃ label, report = (Problem.blankShared label).toDiagnostic

def Log.Sincere (log : Log) : Prop := ∀ report ∈ log.entries, report.IsSincere

theorem Problem.isSincere (p : Problem) : p.toDiagnostic.IsSincere := by
  intro shared
  cases p with
  | blankShared label => exact ⟨label, rfl⟩
  | _ => cases shared

theorem Log.mem_add {log : Log} {report report' : Diagnostic} :
    report ∈ (log.add report').entries ↔ report ∈ log.entries ∨ report = report' := by
  rw [add, List.mem_append, List.mem_singleton]

theorem Log.Sincere.isReported_iff {log : Log} (sincere : log.Sincere) (label : String) :
    Build.isReported log label = true ↔ (Problem.blankShared label).toDiagnostic ∈ log.entries := by
  rw [Build.isReported, List.any_eq_true]
  constructor
  · rintro ⟨entry, member, holds⟩
    rcases (Bool.and_eq_true _ _).mp holds with ⟨shared, subject⟩
    rcases sincere entry member (beq_iff_eq.mp shared) with ⟨label', rfl⟩
    have equal : label' = label := Option.some.inj (beq_iff_eq.mp subject)
    rwa [← equal]
  · intro member
    exact ⟨_, member, by simp [Problem.toDiagnostic]⟩

namespace Note

def IsSincere : Note → Prop
  | told report => report.IsSincere
  | owned _ _ => True

def Contested (notes : Set Note) (label : String) : Prop :=
  ∃ owner owner', owner ≠ owner' ∧ owned label owner ∈ notes ∧ owned label owner' ∈ notes

/-- The report is told, or is about a label that has different owners and may not be shared. -/
def Entails (mayShare : Bool) (notes : Set Note) (report : Diagnostic) : Prop :=
  told report ∈ notes ∨ mayShare = false ∧
    ∃ label, Contested notes label ∧ report = (Problem.blankShared label).toDiagnostic

variable {mayShare : Bool} {notes : Set Note} {report : Diagnostic} {label : String}
  {owner : PatternId}

theorem entails_insert_told {report' : Diagnostic} :
    Entails mayShare (insert (told report') notes) report ↔
      Entails mayShare notes report ∨ report = report' := by
  have contested (label : String) :
      Contested (insert (told report') notes) label ↔ Contested notes label := by
    simp [Contested]
  simp only [Entails, contested, Set.mem_insert_iff, told.injEq]
  rw [or_assoc, or_comm]

theorem contested_insert_owned {label' : String} :
    Contested (insert (owned label owner) notes) label' ↔
      Contested notes label' ∨
        label' = label ∧ ∃ other, other ≠ owner ∧ owned label other ∈ notes := by
  constructor
  · rintro ⟨first, second, differ, isFirst, isSecond⟩
    rcases isFirst with equal | old <;> rcases isSecond with equal' | old'
    · cases equal
      cases equal'
      exact absurd rfl differ
    · cases equal
      exact .inr ⟨rfl, second, differ.symm, old'⟩
    · cases equal'
      exact .inr ⟨rfl, first, differ, old⟩
    · exact .inl ⟨first, second, differ, old, old'⟩
  · rintro (⟨first, second, differ, old, old'⟩ | ⟨rfl, other, differ, old⟩)
    · exact ⟨first, second, differ, .inr old, .inr old'⟩
    · exact ⟨other, owner, differ, .inr old, .inl rfl⟩

theorem entails_insert_owned (alone : mayShare = false → ∀ other, owned label other ∈ notes →
      other = owner) :
    Entails mayShare (insert (owned label owner) notes) report ↔
      Entails mayShare notes report := by
  refine or_congr (or_iff_right nofun) (and_congr_right fun distinct => ?_)
  refine exists_congr fun label' => and_congr_left fun _ => ?_
  rw [contested_insert_owned]
  refine or_iff_left ?_
  rintro ⟨_, other, differ, member⟩
  exact differ (alone distinct other member)

theorem entails_insert_contested (distinct : mayShare = false) {first : PatternId}
    (differ : first ≠ owner) (member : owned label first ∈ notes) :
    Entails mayShare (insert (owned label owner) notes) report ↔
      Entails mayShare notes report ∨ report = (Problem.blankShared label).toDiagnostic := by
  have contested (label' : String) : Contested (insert (owned label owner) notes) label' ↔
      Contested notes label' ∨ label' = label := by
    rw [contested_insert_owned]
    exact or_congr_right ⟨And.left, fun equal => ⟨equal, first, differ, member⟩⟩
  have same : told report ∈ insert (owned label owner) notes ↔ told report ∈ notes :=
    or_iff_right nofun
  simp only [Entails, same, distinct, contested, true_and, or_and_right, exists_or,
    exists_eq_left, or_assoc]

end Note

/-! ## Ledgers -/

/-- What is written down of a query: its reports, and the first owner of each blank label. -/
structure Ledger where
  log : Log
  owners : List (String × PatternId)

def Query.ledger (query : Query) : Ledger := { log := query.log, owners := query.blankOwners }

namespace Ledger

/-- Write a note down. A label that has another owner is reported, once, unless it may be shared. -/
def take (mayShare : Bool) (ledger : Ledger) : Note → Ledger
  | .told report => { ledger with log := ledger.log.add report }
  | .owned label owner =>
    match ledger.owners.lookup label with
    | none => { ledger with owners := ledger.owners ++ [(label, owner)] }
    | some first =>
      if first = owner ∨ mayShare = true ∨ Build.isReported ledger.log label = true then ledger
      else { ledger with log := ledger.log.add (Problem.blankShared label).toDiagnostic }

theorem take_of_none {mayShare : Bool} {ledger : Ledger} {label : String} {owner : PatternId}
    (new : ledger.owners.lookup label = none) :
    ledger.take mayShare (.owned label owner) =
      { ledger with owners := ledger.owners ++ [(label, owner)] } := by
  rw [take, new]

theorem take_of_some {mayShare : Bool} {ledger : Ledger} {label : String}
    {owner first : PatternId} (known : ledger.owners.lookup label = some first) :
    ledger.take mayShare (.owned label owner) =
      if first = owner ∨ mayShare = true ∨ Build.isReported ledger.log label = true then ledger
      else { ledger with log := ledger.log.add (Problem.blankShared label).toDiagnostic } := by
  rw [take, known]

def taking (mayShare : Bool) (notes : List Note) (ledger : Ledger) : Ledger :=
  notes.foldl (take mayShare) ledger

theorem taking_append (mayShare : Bool) (notes notes' : List Note) (ledger : Ledger) :
    ledger.taking mayShare (notes ++ notes') =
      (ledger.taking mayShare notes).taking mayShare notes' :=
  List.foldl_append ..

/-- The ledger is one of these notes, in whatever order they were taken. -/
structure Holds (mayShare : Bool) (notes : Set Note) (ledger : Ledger) : Prop where
  entries : ∀ report, report ∈ ledger.log.entries ↔ Note.Entails mayShare notes report
  first : ∀ label owner, ledger.owners.lookup label = some owner → .owned label owner ∈ notes
  found : ∀ label owner, .owned label owner ∈ notes → ledger.owners.lookup label ≠ none
  sincere : ∀ note ∈ notes, note.IsSincere

namespace Holds

variable {mayShare : Bool} {notes : Set Note} {ledger : Ledger}

theorem sincere_log (holds : ledger.Holds mayShare notes) : ledger.log.Sincere := by
  intro report member
  rcases (holds.entries report).mp member with told | ⟨_, label, _, rfl⟩
  · exact holds.sincere _ told
  · exact Problem.isSincere _

theorem sincere_insert (holds : ledger.Holds mayShare notes) {note : Note}
    (sincere : note.IsSincere) : ∀ note' ∈ insert note notes, note'.IsSincere := by
  rintro note' (rfl | old)
  · exact sincere
  · exact holds.sincere note' old

variable {label : String} {owner first : PatternId}

theorem own_new (holds : ledger.Holds mayShare notes)
    (new : ledger.owners.lookup label = none) :
    Holds mayShare (insert (.owned label owner) notes)
      { ledger with owners := ledger.owners ++ [(label, owner)] } := by
  have alone (other : PatternId) (member : .owned label other ∈ notes) : other = owner :=
    absurd new (holds.found label other member)
  refine ⟨fun report => ?_, fun label' owner' here => ?_, fun label' owner' member => ?_,
    holds.sincere_insert trivial⟩
  · rw [Note.entails_insert_owned fun _ => alone, ← holds.entries]
  · rw [List.lookup_append, Option.or_eq_some_iff, List.lookup_cons] at here
    rcases here with old | ⟨_, here⟩
    · exact .inr (holds.first label' owner' old)
    · split at here
      · next equal =>
          rw [beq_iff_eq.mp equal, ← Option.some.inj here]
          exact .inl rfl
      · cases here
  · rw [List.lookup_append, Ne, Option.or_eq_none_iff, List.lookup_cons]
    rintro ⟨old, absent⟩
    rcases member with equal | member
    · cases equal
      simp at absent
    · exact holds.found label' owner' member old

theorem keep_first (holds : ledger.Holds mayShare notes)
    (known : ledger.owners.lookup label = some first) {log : Log}
    (entries : ∀ report, report ∈ log.entries ↔
      Note.Entails mayShare (insert (.owned label owner) notes) report) :
    Holds mayShare (insert (.owned label owner) notes) { ledger with log } := by
  refine ⟨entries, fun label' owner' here => .inr (holds.first label' owner' here),
    fun label' owner' member => ?_, holds.sincere_insert trivial⟩
  rcases member with equal | old
  · cases equal
    simp [known]
  · exact holds.found label' owner' old

theorem entries_excused (holds : ledger.Holds mayShare notes) (isFirst : .owned label first ∈ notes)
    (excused : first = owner ∨ mayShare = true ∨ Build.isReported ledger.log label = true)
    (report : Diagnostic) : report ∈ ledger.log.entries ↔
      Note.Entails mayShare (insert (.owned label owner) notes) report := by
  rw [holds.entries]
  by_cases same : first = owner
  · rw [same] at isFirst
    rw [Set.insert_eq_of_mem isFirst]
  · cases mayShare with
    | true =>
        refine (Note.entails_insert_owned fun distinct => ?_).symm
        cases distinct
    | false =>
        have reported := (excused.resolve_left same).resolve_left nofun
        rw [holds.sincere_log.isReported_iff, holds.entries] at reported
        rw [Note.entails_insert_contested rfl same isFirst, or_iff_left_of_imp]
        rintro rfl
        exact reported

theorem take_owned (holds : ledger.Holds mayShare notes) (label : String) (owner : PatternId) :
    (ledger.take mayShare (.owned label owner)).Holds mayShare
      (insert (.owned label owner) notes) := by
  cases known : ledger.owners.lookup label with
  | none =>
      rw [take_of_none known]
      exact holds.own_new known
  | some first =>
      have isFirst := holds.first label first known
      rw [take_of_some known]
      split
      · next excused => exact holds.keep_first known (holds.entries_excused isFirst excused)
      · next fresh =>
          rcases not_or.mp fresh with ⟨differ, fresh⟩
          have distinct := Bool.eq_false_iff.mpr (not_or.mp fresh).1
          refine holds.keep_first known fun report => ?_
          rw [Log.mem_add, holds.entries, Note.entails_insert_contested distinct differ isFirst]

theorem take (holds : ledger.Holds mayShare notes) {note : Note} (sincere : note.IsSincere) :
    (ledger.take mayShare note).Holds mayShare (insert note notes) := by
  cases note with
  | told report =>
      refine ⟨fun report' => ?_, fun label owner here => .inr (holds.first label owner here),
        fun label owner member => holds.found label owner (member.resolve_left nofun),
        holds.sincere_insert sincere⟩
      rw [Note.entails_insert_told, ← holds.entries]
      exact Log.mem_add
  | owned label owner => exact holds.take_owned label owner

theorem taking (holds : ledger.Holds mayShare notes) {more : List Note}
    (sincere : ∀ note ∈ more, note.IsSincere) :
    (ledger.taking mayShare more).Holds mayShare (notes ∪ { note | note ∈ more }) := by
  induction more generalizing ledger notes with
  | nil => simpa [Ledger.taking] using holds
  | cons note rest induction =>
      have first := holds.take (sincere note (List.mem_cons_self ..))
      have all := induction first fun note member => sincere note (List.mem_cons_of_mem _ member)
      have same : insert note notes ∪ { note | note ∈ rest } =
          notes ∪ { note' | note' ∈ note :: rest } := by
        ext note'
        simp [or_assoc, or_left_comm]
      rwa [same] at all

end Holds

/-! ## The order of notes -/

theorem holds_of_log {log : Log} (sincere : log.Sincere) (mayShare : Bool) :
    Holds mayShare (Note.told '' { report | report ∈ log.entries }) { log, owners := [] } where
  entries report := by
    simp [Note.Entails, Note.Contested]
  first _ _ := nofun
  found _ _ := by simp
  sincere := by
    rintro _ ⟨report, member, rfl⟩
    exact sincere report member

/-- The ledgers have the same reports, and owners of the same labels. -/
structure Alike (ledger ledger' : Ledger) : Prop where
  entries : ∀ report, report ∈ ledger.log.entries ↔ report ∈ ledger'.log.entries
  labels : ∀ label, label ∈ ledger.owners.map (·.1) ↔ label ∈ ledger'.owners.map (·.1)

theorem Holds.mem_labels {mayShare : Bool} {notes : Set Note} {ledger : Ledger}
    (holds : ledger.Holds mayShare notes) (label : String) :
    label ∈ ledger.owners.map (·.1) ↔ ∃ owner, .owned label owner ∈ notes := by
  constructor
  · intro member
    cases known : ledger.owners.lookup label with
    | none =>
        rcases List.mem_map.mp member with ⟨entry, here, rfl⟩
        exact absurd (List.lookup_eq_none_iff.mp known entry here) (by simp)
    | some owner => exact ⟨owner, holds.first label owner known⟩
  · rintro ⟨owner, member⟩
    obtain ⟨first, known⟩ := Option.ne_none_iff_exists'.mp (holds.found label owner member)
    rcases List.lookup_eq_some_iff.mp known with ⟨before, after, equal, _⟩
    simp [equal]

theorem Holds.alike {mayShare : Bool} {notes : Set Note} {ledger ledger' : Ledger}
    (holds : ledger.Holds mayShare notes) (holds' : ledger'.Holds mayShare notes) :
    ledger.Alike ledger' where
  entries report := (holds.entries report).trans (holds'.entries report).symm
  labels label := (holds.mem_labels label).trans (holds'.mem_labels label).symm

theorem entries_take (mayShare : Bool) (ledger : Ledger) (note : Note) :
    ledger.log.entries ⊆ (ledger.take mayShare note).log.entries := by
  intro report member
  unfold take
  split
  · exact Log.mem_add.mpr (.inl member)
  · split
    · exact member
    · split
      · exact member
      · exact Log.mem_add.mpr (.inl member)

theorem entries_taking (mayShare : Bool) (notes : List Note) (ledger : Ledger) :
    ledger.log.entries ⊆ (ledger.taking mayShare notes).log.entries := by
  induction notes generalizing ledger with
  | nil => exact List.Subset.refl _
  | cons note rest induction =>
      exact List.Subset.trans (entries_take mayShare ledger note) (induction _)

theorem mem_taking_of_told {mayShare : Bool} {notes : List Note} {report : Diagnostic}
    (told : .told report ∈ notes) (ledger : Ledger) :
    report ∈ (ledger.taking mayShare notes).log.entries := by
  induction notes generalizing ledger with
  | nil => cases told
  | cons note rest induction =>
      rcases List.mem_cons.mp told with rfl | later
      · exact entries_taking mayShare rest _ (Log.mem_add.mpr (.inr rfl))
      · exact induction later _

theorem alike_taking {mayShare : Bool} {log : Log} {notes notes' : List Note}
    (sincere : (taking mayShare notes { log, owners := [] }).log.Sincere)
    (same : ∀ note, note ∈ notes ↔ note ∈ notes') :
    (taking mayShare notes { log, owners := [] }).Alike
      (taking mayShare notes' { log, owners := [] }) := by
  have before : log.Sincere := fun report member =>
    sincere report (entries_taking mayShare notes { log, owners := [] } member)
  have sincereNotes : ∀ note ∈ notes, note.IsSincere := by
    intro note member
    cases note with
    | told report => exact sincere report (mem_taking_of_told member _)
    | owned label owner => trivial
  have holds := (holds_of_log before mayShare).taking sincereNotes
  have holds' := (holds_of_log before mayShare).taking fun note member =>
    sincereNotes note ((same note).mpr member)
  simp only [← same] at holds'
  exact holds.alike holds'

end Ledger

end Sparql
