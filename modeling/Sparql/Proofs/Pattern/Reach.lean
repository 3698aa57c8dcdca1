import Mathlib.Data.Finset.Card
import Mathlib.Data.Finset.Range
import Mathlib.Logic.Relation
import Sparql.Pattern.Triples
import Sparql.Expr.Mentions

/-!
Which patterns a pattern leads to. A pattern refers to its parts and to the patterns whose existence
its expressions test. From a sound pattern no reference is missing from the arena and none leads
back to where it came from, so that a descent never runs out of levels: `Sound.fits`.
-/

namespace Sparql

variable {Sub : Type}

namespace Pattern

def tested : Pattern Sub → List PatternId
  | filter condition => condition.patterns
  | bind value _ => value.patterns
  | _ => []

def parts (p : Pattern Sub) : List PatternId := p.children ++ p.tested

@[simp] theorem parts_group (children : List PatternId) :
    (group children : Pattern Sub).parts = children :=
  List.append_nil _

end Pattern

namespace Arena

/-! ## References -/

def Refers (arena : Arena Sub) (id next : PatternId) : Prop :=
  ∃ p, arena.get? id = some p ∧ next ∈ p.parts

def Reaches (arena : Arena Sub) : PatternId → PatternId → Prop :=
  Relation.ReflTransGen arena.Refers

/-- Every pattern that the root leads to is there, and does not lead back to itself. -/
structure Sound (arena : Arena Sub) (root : PatternId) : Prop where
  allocated : ∀ id, arena.Reaches root id → id < arena.size
  acyclic : ∀ id, arena.Reaches root id → ¬ Relation.TransGen arena.Refers id id

theorem Sound.of_reaches {arena : Arena Sub} {root id : PatternId} (sound : arena.Sound root)
    (reaches : arena.Reaches root id) : arena.Sound id where
  allocated next onward := sound.allocated next (reaches.trans onward)
  acyclic next onward := sound.acyclic next (reaches.trans onward)

def partsAt (arena : Arena Sub) (id : PatternId) : List PatternId :=
  (arena.get? id).elim [] Pattern.parts

def Descends (arena : Arena Sub) : Prop :=
  ∀ id < arena.size, ∀ part ∈ arena.partsAt id, part < id

instance (arena : Arena Sub) : Decidable arena.Descends :=
  inferInstanceAs (Decidable (∀ id < arena.size, ∀ part ∈ arena.partsAt id, part < id))

theorem Descends.lt_of_refers {arena : Arena Sub} (descends : arena.Descends)
    {id next : PatternId} (refers : arena.Refers id next) : next < id := by
  rcases refers with ⟨p, found, member⟩
  refine descends id (List.getElem?_eq_some_iff.mp found).1 next ?_
  rwa [partsAt, found]

theorem Descends.lt_of_transGen {arena : Arena Sub} (descends : arena.Descends)
    {id next : PatternId} (onward : Relation.TransGen arena.Refers id next) : next < id := by
  induction onward with
  | single refers => exact descends.lt_of_refers refers
  | tail _ refers induction => exact Nat.lt_trans (descends.lt_of_refers refers) induction

theorem Descends.sound {arena : Arena Sub} (descends : arena.Descends) {root : PatternId}
    (inside : root < arena.size) : arena.Sound root where
  allocated id reaches := by
    rcases Relation.reflTransGen_iff_eq_or_transGen.mp reaches with rfl | onward
    · exact inside
    · exact Nat.lt_trans (descends.lt_of_transGen onward) inside
  acyclic _ _ onward := Nat.lt_irrefl _ (descends.lt_of_transGen onward)

/-! ## Levels -/

/-- A descent from the pattern needs no more levels than these, and misses no pattern. -/
def Fits (arena : Arena Sub) : (levels : Nat) → PatternId → Prop
  | 0, _ => False
  | levels + 1, id => ∃ p, arena.get? id = some p ∧ ∀ part ∈ p.parts, arena.Fits levels part

section

open Classical

noncomputable def reach (arena : Arena Sub) (id : PatternId) : Finset PatternId :=
  (Finset.range arena.size).filter (arena.Reaches id)

theorem mem_reach {arena : Arena Sub} {id next : PatternId} :
    next ∈ arena.reach id ↔ next < arena.size ∧ arena.Reaches id next := by
  rw [reach, Finset.mem_filter, Finset.mem_range]

theorem card_reach_le (arena : Arena Sub) (id : PatternId) :
    (arena.reach id).card ≤ arena.size := by
  have bound := Finset.card_filter_le (Finset.range arena.size) (arena.Reaches id)
  rwa [Finset.card_range] at bound

theorem Sound.card_reach_lt {arena : Arena Sub} {id part : PatternId} (sound : arena.Sound id)
    (refers : arena.Refers id part) : (arena.reach part).card < (arena.reach id).card := by
  refine Finset.card_lt_card ((Finset.ssubset_iff_of_subset ?_).mpr ⟨id, ?_, ?_⟩)
  · intro next member
    rcases mem_reach.mp member with ⟨allocated, reaches⟩
    exact mem_reach.mpr ⟨allocated, .head refers reaches⟩
  · exact mem_reach.mpr ⟨sound.allocated id .refl, .refl⟩
  · intro member
    exact sound.acyclic id .refl (.head' refers (mem_reach.mp member).2)

theorem Sound.fits_of_card {arena : Arena Sub} {levels : Nat} {id : PatternId}
    (sound : arena.Sound id) (enough : (arena.reach id).card ≤ levels) :
    arena.Fits levels id := by
  induction levels generalizing id with
  | zero =>
      have here : id ∈ arena.reach id := mem_reach.mpr ⟨sound.allocated id .refl, .refl⟩
      rw [Finset.card_eq_zero.mp (Nat.le_zero.mp enough)] at here
      exact absurd here (Finset.notMem_empty id)
  | succ levels induction =>
      have allocated := sound.allocated id .refl
      refine ⟨arena.patterns[id], List.getElem?_eq_getElem allocated, fun part member => ?_⟩
      have refers : arena.Refers id part := ⟨_, List.getElem?_eq_getElem allocated, member⟩
      apply induction (sound.of_reaches (.single refers))
      exact Nat.le_of_lt_succ (Nat.lt_of_lt_of_le (sound.card_reach_lt refers) enough)

end

theorem Sound.fits {arena : Arena Sub} {id : PatternId} (sound : arena.Sound id) :
    arena.Fits arena.levels id :=
  sound.fits_of_card (Nat.le_succ_of_le (arena.card_reach_le id))

theorem Fits.of_refers {arena : Arena Sub} {levels : Nat} {id part : PatternId}
    (fits : arena.Fits levels id) (refers : arena.Refers id part) :
    ∃ fewer < levels, arena.Fits fewer part := by
  rcases refers with ⟨p, found, member⟩
  cases levels with
  | zero => exact fits.elim
  | succ levels =>
      rcases fits with ⟨p', found', fit⟩
      rw [found] at found'
      cases found'
      exact ⟨levels, Nat.lt_succ_self levels, fit part member⟩

theorem Fits.of_transGen {arena : Arena Sub} {levels : Nat} {id next : PatternId}
    (fits : arena.Fits levels id) (onward : Relation.TransGen arena.Refers id next) :
    ∃ fewer < levels, arena.Fits fewer next := by
  induction onward with
  | single refers => exact fits.of_refers refers
  | tail _ refers induction =>
      rcases induction with ⟨fewer, less, fit⟩
      rcases fit.of_refers refers with ⟨fewer', less', fit'⟩
      exact ⟨fewer', less'.trans less, fit'⟩

/-- Where a descent comes to an end, the pattern is sound: one that led back to itself would need
fewer levels than it needs. -/
theorem sound_of_fits {arena : Arena Sub} {levels : Nat} {root : PatternId}
    (fits : arena.Fits levels root) : arena.Sound root := by
  have reached {id : PatternId} (reaches : arena.Reaches root id) :
      ∃ levels, arena.Fits levels id := by
    rcases Relation.reflTransGen_iff_eq_or_transGen.mp reaches with rfl | onward
    · exact ⟨levels, fits⟩
    · rcases fits.of_transGen onward with ⟨fewer, _, fit⟩
      exact ⟨fewer, fit⟩
  constructor
  · intro id reaches
    rcases reached reaches with ⟨_ | levels, fit⟩
    · exact fit.elim
    · rcases fit with ⟨p, found, _⟩
      exact (List.getElem?_eq_some_iff.mp found).1
  · intro id reaches cycle
    rcases reached reaches with ⟨levels, fit⟩
    induction levels using Nat.strong_induction_on with
    | h levels induction =>
        rcases fit.of_transGen cycle with ⟨fewer, less, fit'⟩
        exact induction fewer less fit'

theorem sound_of_parts {arena : Arena Sub} {id : PatternId} {p : Pattern Sub}
    (found : arena.get? id = some p) (sound : ∀ part ∈ p.parts, arena.Sound part) :
    arena.Sound id := by
  have fits : arena.Fits (arena.levels + 1) id :=
    ⟨p, found, fun part member => (sound part member).fits⟩
  exact sound_of_fits fits

theorem Sound.of_mem_parts {arena : Arena Sub} {id part : PatternId} {p : Pattern Sub}
    (sound : arena.Sound id) (found : arena.get? id = some p) (member : part ∈ p.parts) :
    arena.Sound part :=
  sound.of_reaches (.single ⟨p, found, member⟩)

def KeepsParts (arena arena' : Arena Sub) : Prop :=
  ∀ id p, arena.get? id = some p → ∃ p', arena'.get? id = some p' ∧ p'.parts = p.parts

section

variable {arena arena' : Arena Sub} {α : Type} {tell : Pattern Sub → α}

theorem size_of_map (same : arena'.patterns.map tell = arena.patterns.map tell) :
    arena'.size = arena.size := by
  have lengths := congrArg List.length same
  rwa [List.length_map, List.length_map] at lengths

theorem exists_get?_of_map (same : arena'.patterns.map tell = arena.patterns.map tell)
    {id : PatternId} {p : Pattern Sub} (found : arena.get? id = some p) :
    ∃ p', arena'.get? id = some p' ∧ tell p' = tell p := by
  have here : (arena'.patterns.map tell)[id]? = some (tell p) := by
    rw [same, List.getElem?_map]
    exact congrArg (Option.map tell) found
  rw [List.getElem?_map] at here
  exact Option.map_eq_some_iff.mp here

theorem map_set {id : PatternId} {p p' : Pattern Sub} (found : arena.get? id = some p)
    (same : tell p' = tell p) :
    (arena.set id p').patterns.map tell = arena.patterns.map tell := by
  have here : (arena.patterns.map tell)[id]? = some (tell p') := by
    rw [List.getElem?_map, same]
    exact congrArg (Option.map tell) found
  rcases List.getElem?_eq_some_iff.mp here with ⟨inside, equal⟩
  rw [Arena.set, List.map_set, ← equal]
  exact List.set_getElem_self inside

end

theorem keepsParts_of_map {arena arena' : Arena Sub}
    (parts : arena'.patterns.map Pattern.parts = arena.patterns.map Pattern.parts) :
    arena.KeepsParts arena' :=
  fun _ _ => exists_get?_of_map parts

theorem get?_of_added {arena arena' : Arena Sub} (added : arena.patterns <+: arena'.patterns)
    {id : PatternId} {p : Pattern Sub} (found : arena.get? id = some p) :
    arena'.get? id = some p := by
  rcases added with ⟨others, equal⟩
  rw [get?, ← equal]
  exact (List.getElem?_append_left (List.getElem?_eq_some_iff.mp found).1).trans found

theorem keepsParts_of_added {arena arena' : Arena Sub}
    (added : arena.patterns <+: arena'.patterns) : arena.KeepsParts arena' :=
  fun _ p found => ⟨p, get?_of_added added found, rfl⟩

theorem KeepsParts.reaches {arena arena' : Arena Sub} {id next : PatternId}
    (kept : arena.KeepsParts arena') (reaches : arena.Reaches id next) :
    arena'.Reaches id next := by
  induction reaches with
  | refl => exact .refl
  | tail _ refers induction =>
      rcases refers with ⟨p, found, member⟩
      rcases kept _ p found with ⟨p', found', parts⟩
      exact induction.tail ⟨p', found', parts ▸ member⟩

theorem Sound.of_keepsParts {arena arena' : Arena Sub} {root : PatternId}
    (sound : arena.Sound root) (kept : arena.KeepsParts arena') : arena'.Sound root := by
  have fits {levels : Nat} {id : PatternId} (fits : arena.Fits levels id) :
      arena'.Fits levels id := by
    induction levels generalizing id with
    | zero => exact fits
    | succ levels induction =>
        rcases fits with ⟨p, found, fit⟩
        rcases kept id p found with ⟨p', found', parts⟩
        exact ⟨p', found', fun part member => induction (fit part (parts ▸ member))⟩
  exact sound_of_fits (fits sound.fits)

/-! ## Triples -/

def HoldsTriple (arena : Arena Sub) (id : PatternId) : Prop :=
  ∃ t, arena.get? id = some (.triple t)

def CellsAreTriples (arena : Arena Sub) : Prop :=
  ∀ id head cells, arena.get? id = some (.collection head cells) →
    ∀ cell ∈ cells, arena.HoldsTriple cell

theorem HoldsTriple.sound {arena : Arena Sub} {id : PatternId} (holds : arena.HoldsTriple id) :
    arena.Sound id := by
  rcases holds with ⟨t, found⟩
  exact sound_of_parts found nofun

theorem holdsTriple_of_isTriple {arena : Arena Sub} {id : PatternId} {p : Pattern Sub}
    (found : arena.get? id = some p) (isTriple : p.isTriple = true) : arena.HoldsTriple id := by
  cases p with
  | triple t => exact ⟨t, found⟩
  | _ => cases isTriple

theorem triple_eq_ok {arena : Arena Sub} {id : PatternId} {t : Triple} :
    arena.triple id = .ok t ↔ arena.get? id = some (.triple t) := by
  simp only [triple, get]
  cases arena.get? id with
  | none => simp [bind, Except.bind]
  | some p => cases p <;> simp [bind, Except.bind, pure, Except.pure, throw, throwThe,
      MonadExceptOf.throw]

theorem group_eq_ok {arena : Arena Sub} {id : PatternId} {children : List PatternId} :
    arena.group id = .ok children ↔ arena.get? id = some (.group children) := by
  simp only [group, get]
  cases arena.get? id with
  | none => simp [bind, Except.bind]
  | some p => cases p <;> simp [bind, Except.bind, pure, Except.pure, throw, throwThe,
      MonadExceptOf.throw]

theorem collectTriples_ok {arena : Arena Sub} (found : List PatternId)
    (pending : List (Nat × PatternId)) (fits : ∀ next ∈ pending, arena.Fits next.1 next.2)
    (triples : ∀ id ∈ found, arena.HoldsTriple id) :
    ∃ ids, arena.collectTriples found pending = .ok ids ∧ ∀ id ∈ ids, arena.HoldsTriple id := by
  induction found, pending using collectTriples.induct arena with
  | case1 found =>
      refine ⟨found.reverse, by rw [collectTriples], fun id member => ?_⟩
      exact triples id (List.mem_reverse.mp member)
  | case2 found id pending => exact (fits _ (List.mem_cons_self ..)).elim
  | case3 found levels id pending missing =>
      rcases fits _ (List.mem_cons_self ..) with ⟨p, known, _⟩
      rw [missing] at known
      cases known
  | case4 found levels id pending p known isTriple induction =>
      rw [collectTriples_cons known, if_pos isTriple]
      apply induction (fun next member => fits next (List.mem_cons_of_mem _ member))
      intro next member
      rcases List.mem_cons.mp member with rfl | member
      · exact holdsTriple_of_isTriple known isTriple
      · exact triples next member
  | case5 found levels id pending p known other induction =>
      rw [collectTriples_cons known, if_neg other]
      refine induction (fun next member => ?_) triples
      rcases List.mem_append.mp member with member | member
      · rcases List.mem_map.mp member with ⟨child, isChild, rfl⟩
        rcases fits _ (List.mem_cons_self ..) with ⟨p', known', parts⟩
        rw [known] at known'
        cases known'
        exact parts child (List.mem_append_left _ isChild)
      · exact fits next (List.mem_cons_of_mem _ member)

theorem triplesBelow_ok {arena : Arena Sub} {root : PatternId}
    (fits : arena.Fits arena.levels root) :
    ∃ ids, arena.triplesBelow root = .ok ids ∧ ∀ id ∈ ids, arena.HoldsTriple id := by
  refine collectTriples_ok [] _ (fun next member => ?_) fun id member => nomatch member
  rw [List.mem_singleton.mp member]
  exact fits

end Arena

end Sparql
