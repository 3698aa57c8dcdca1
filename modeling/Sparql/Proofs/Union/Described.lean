import Sparql.Proofs.Describe.Numbered
import Sparql.Proofs.Describe.Returns
import Sparql.Proofs.Describe.Unlabelled
import Sparql.Proofs.Union.Checked

/-!
Descriptions of queries whose patterns are turned. If all that the body binds is described, then the
descriptions are in the order of the variables, which is another one: `Query.Turns.describes`.
-/

namespace Sparql

namespace Arena

/-! ## Descriptions -/

variable {arena arena' : Arena Query}

theorem quiet_of_holdsUnlabelled {id : PatternId} (holds : arena.HoldsUnlabelled id) :
    arena.Quiet id := by
  intro levels before
  rcases holds with ⟨cell, t, group, triple, none⟩
  match levels with
  | 0 => rfl
  | 1 => simp [notesAt, group, Pattern.notes, Note.inOrder]
  | levels + 2 => simp [notesAt, group, triple, Pattern.notes, Note.inOrder, Triple.notes, none]

theorem quiet_union {id left right : PatternId} (found : arena.get? id = some (.union left right))
    (first : arena.Quiet left) (second : arena.Quiet right) : arena.Quiet id := by
  intro levels before
  cases levels with
  | zero => rfl
  | succ levels =>
      rw [notesAt, found]
      dsimp only [Pattern.notes]
      rw [first, second, List.append_nil]

namespace DescribesFrom

variable {start : Nat} {term : Expr} (describes : arena.DescribesFrom start term)

include describes

theorem optional : arena.get? (start + 5) = some (.optional (start + 4)) := by
  rcases describes with ⟨_, _, found⟩
  exact found 5 _ rfl

theorem quiet (plain : term.blankLabel? = none) : arena.Quiet (start + 4) := by
  rcases describes with ⟨vars, triples, found⟩
  refine quiet_union (found 4 _ rfl) (quiet_of_holdsUnlabelled ?_) (quiet_of_holdsUnlabelled ?_)
  · exact ⟨start, _, found 2 _ rfl, found 0 _ rfl, by simp [Triple.blankLabels, plain]; rfl⟩
  · exact ⟨start + 1, _, found 3 _ rfl, found 1 _ rfl, by simp [Triple.blankLabels, plain]; rfl⟩

theorem yields_iff (cell : PatternId) :
    arena.Yields (start + 4) cell ↔ cell = start ∨ cell = start + 1 := by
  rcases describes with ⟨vars, triples, found⟩
  have group {id cell' : PatternId} {t : Triple} (here : arena.get? id = some (.group [cell']))
      (there : arena.get? cell' = some (.triple t)) : arena.Yields id cell ↔ cell = cell' := by
    rw [Arena.yields_iff here rfl, ← yields_triple there]
    simp [Pattern.children]
  rw [Arena.yields_iff (found 4 _ rfl) rfl, ← group (found 2 _ rfl) (found 0 _ rfl),
    ← group (found 3 _ rfl) (found 1 _ rfl)]
  simp [Pattern.children]

theorem turned {hides : Prop} (allowed : hides) {term' : Expr}
    (describes' : arena'.DescribesFrom start term') (plain : term.blankLabel? = none)
    (plain' : term'.blankLabel? = none) : Turned hides arena arena' (start + 5) :=
  .hidden allowed describes.optional describes'.optional (describes.quiet plain)
    (describes'.quiet plain') fun cell =>
      (describes.yields_iff cell).trans (describes'.yields_iff cell).symm

end DescribesFrom

end Arena

namespace Query

/-! ## Bound variables -/

/-- The queries differ only in their arenas, whose patterns are turned. -/
structure Turns (nested : Query → Query → Prop) (query query' : Query) : Prop where
  rest : query' = { query with arena := query'.arena }
  patterns : query.arena.Turns nested query'.arena

theorem visible_of_mem_bound {query : Query} {v : Variable} (member : v ∈ query.bound) :
    v.isVisible = true := by
  rcases List.mem_flatMap.mp member with ⟨body, _, inside⟩
  exact (List.mem_filter.mp ((Variable.unseen_sublist _ _).subset inside)).2

theorem blankLabel?_of_mem_bound {query : Query} {term : Expr}
    (member : term ∈ query.bound.map .var) : term.blankLabel? = none := by
  rcases List.mem_map.mp member with ⟨v, bound, rfl⟩
  have visible := visible_of_mem_bound bound
  have unmarked : v.blank = false :=
    (Bool.or_eq_false_iff.mp (Bool.not_eq_true' _ ▸ visible)).1
  rw [Expr.blankLabel?, unmarked]
  rfl

namespace Turns

variable {query query' : Query}

theorem clauses {nested : Query → Query → Prop} (turns : query.Turns nested query') :
    query'.clauses = query.clauses := by
  rw [turns.rest]

theorem sound {nested : Query → Query → Prop} (turns : query.Turns nested query')
    (sound : query.Sound) : query'.Sound := by
  intro root member
  have member' : root ∈ query.roots := roots_of_clauses turns.clauses ▸ member
  exact Arena.sound_of_fits (turns.patterns.fits (sound root member').fits)

theorem bodyPartIds_eq {nested : Query → Query → Prop} (turns : query.Turns nested query')
    (sound : query.Sound) : query'.bodyPartIds = query.bodyPartIds := by
  rw [bodyPartIds, bodyPartIds, turns.clauses]
  refine List.flatMap_congr fun body member => ?_
  rcases (sound.body (Option.mem_toList.mp member)).fits with ⟨p, found, _⟩
  rcases turns.patterns.exists_get? found with ⟨p', found', same | _ | _⟩ <;> rw [found, found']
  · rfl
  · rfl

theorem alike_bound (turns : query.Turns Query.Agrees query') (sound : query.Sound) :
    Scope.Alike query.bound query'.bound := by
  have levels : query'.arena.levels = query.arena.levels :=
    congrArg (· + 1) turns.patterns.size_eq
  rw [bound, bound, bodyBinds, bodyBinds, turns.clauses]
  refine Scope.alike_flatMap (fun _ => .rfl) fun body member => ?_
  have fits := (sound.body (Option.mem_toList.mp member)).fits
  rw [Arena.binds, Arena.binds, levels]
  have turned : Arena.Turned False query.arena query'.arena body := turns.patterns.turned fits
  exact (turned.bindsAt (fun _ _ agrees => agrees.selected) _).seen

theorem alike_missing (turns : query.Turns Query.Agrees query') (sound : query.Sound) :
    Scope.Alike (query.missing query.bound) (query'.missing query'.bound) := by
  rw [missing, missing, turns.clauses]
  split
  · exact (turns.alike_bound sound).unseen (fun _ => rfl) (query.nodup_bodyBinds _)
      (query'.nodup_bodyBinds _)
  · exact .refl _

/-! ## Described queries -/

section

variable {start start' : Query} (turns : start.Turns Query.Agrees start') (sound : start.Sound)

include turns sound

/-- As long as the same number of terms is described, the queries may differ in the descriptions. -/
theorem turned_described
    (rebuilt : start.Rebuilt (start.missing start.bound) (start.named start.bound) query)
    (rebuilt' : start'.Rebuilt (start'.missing start'.bound) (start'.named start'.bound) query')
    {terms terms' : List Expr} (arranges : start.Arranges terms query)
    (arranges' : start'.Arranges terms' query') (rest : query.rest = start.rest)
    (rest' : query'.rest = start'.rest) (count : terms'.length = terms.length)
    (form : start.clauses.form = .describe)
    (places : ∀ place ∈ Description.places start.arena.size terms.length,
      Arena.Turned (start.clauses.selectAll = true) query.arena query'.arena place.2) :
    Query.Turned { query.clauses with select := start.clauses.select }
      (start.missing start.bound) (start'.missing start'.bound) query query' := by
  have size := turns.patterns.size_eq
  have clauses := turns.clauses
  have distinct (query : Query) : ((query.missing query.bound).map (·.name)).Nodup := by
    rw [missing]
    split
    · exact (Variable.nodup_unseen _ _).1
    · exact List.nodup_nil
  have rests : query'.rest = query.rest := by
    rw [rest, rest', turns.rest]
    rfl
  have ledger : query'.rest.ledger = query.rest.ledger := by rw [rests]
  have checked : query'.rest.checked = query.rest.checked := by rw [rests]
  have base : { query.clauses with select := start.clauses.select } =
      { start.clauses with
        describe := query.clauses.describe
        body := some (start.arena.size + 6 * terms.length)
        construct := some (start.arena.size + 6 * terms.length + 1) } := by
    rw [← arranges.body, ← arranges.template, rebuilt.clauses]
    rfl
  have old {id : PatternId} (sound : start.arena.Sound id) :
      Arena.Turned False start.arena start'.arena id := turns.patterns.turned sound.fits
  have kept {hides : Prop} {id : PatternId} (sound : start.arena.Sound id) :
      Arena.Turned hides query.arena query'.arena id :=
    (old sound).of_added rebuilt.patterns rebuilt'.patterns
  have describes : ({ query.clauses with select := start.clauses.select } : Clauses).describesAll =
      start.clauses.selectAll := by
    rw [base, Clauses.describesAll, form]
    exact Bool.and_true _
  constructor
  · have select : query.clauses.select = start.clauses.select ++
        (start.missing start.bound).map fun v => { target := v } := by
      rw [rebuilt.clauses]
      rfl
    rw [Clauses.selecting, ← select]
  · rw [base, rebuilt'.clauses, arranges'.body, arranges'.template, size, count, clauses]
    rfl
  · exact turns.alike_missing sound
  · exact distinct start
  · exact distinct start'
  · rw [describes, missing, missing, clauses]
    intro explicit
    rw [explicit]
    exact ⟨rfl, rfl⟩
  · rw [arranges.size_eq, arranges'.size_eq, size, count]
  · exact ledger
  · exact checked
  · intro body here
    cases arranges.body.symm.trans here
    have found' := arranges'.get?_body
    rw [size, count, turns.bodyPartIds_eq sound] at found'
    refine .same arranges.get?_body found' rfl fun part member => ?_
    rw [Pattern.parts_group] at member
    rw [describes]
    rcases List.mem_append.mp member with part' | described
    · exact kept (Build.sound_of_mem_bodyPartIds sound part part')
    · rcases List.mem_map.mp described with ⟨place, isPlace, rfl⟩
      exact places place isPlace
  · intro root member
    have tested : query.selectTested = start.selectTested := by
      rw [selectTested, rebuilt.clauses]
      simp [Clauses.selecting, selectTested, List.flatMap_map]
    have templates : query.templates = start.templates := by
      rw [Query.templates, rebuilt.clauses]
      rfl
    rw [tested, templates] at member
    refine kept (sound root ?_)
    rw [matched, List.append_assoc]
    exact List.mem_append_right _ member

theorem turns_arranged {terms : List Expr} (arranges : start.Arranges terms query)
    (arranges' : start'.Arranges terms query') : query.arena.Turns Query.Agrees query'.arena := by
  have supply : start'.supply = start.supply := by rw [turns.rest]
  have same (patterns : List (Pattern Query)) (plain : ∀ p ∈ patterns, p.isSubquery = false) :
      List.Forall₂ (Pattern.Turns Query.Agrees) patterns patterns :=
    List.forall₂_same.mpr fun p member => .same (plain p member)
  rw [Arena.Turns, arranges.patterns, arranges'.patterns, turns.patterns.size_eq, supply,
    turns.bodyPartIds_eq sound]
  refine List.rel_append (List.rel_append turns.patterns (same _ ?_)) (same _ ?_)
  · exact fun p => Description.isSubquery_of_mem_allPatterns
  · simp [Pattern.isSubquery]

omit sound in
/-- Where all that the body binds is described, each description hides which variable it is of. -/
theorem turned_place_of_all (arranges : start.Arranges (start.bound.map .var) query)
    (arranges' : start'.Arranges (start'.bound.map .var) query')
    (count : (start'.bound.map Expr.var).length = (start.bound.map Expr.var).length)
    (all : start.clauses.selectAll = true) {place : PatternId × PatternId}
    (member : place ∈ Description.places start.arena.size (start.bound.map Expr.var).length) :
    Arena.Turned (start.clauses.selectAll = true) query.arena query'.arena place.2 := by
  have member' : place ∈ Description.places start'.arena.size
      (start'.bound.map Expr.var).length := by rwa [turns.patterns.size_eq, count]
  rcases Description.exists_of_mem_places arranges.patterns member with
    ⟨first, rfl, term, isTerm, describes⟩
  rcases Description.exists_of_mem_places arranges'.patterns member' with
    ⟨first', equal, term', isTerm', describes'⟩
  cases Nat.add_right_cancel (Prod.mk.inj equal).1
  exact describes.turned all describes' (blankLabel?_of_mem_bound isTerm)
    (blankLabel?_of_mem_bound isTerm')

theorem described_naming (explicit : (start.clauses.selectAll && start.clauses.describe.isEmpty) =
    false) : Build.described start'.naming = Build.described start.naming := by
  have selected (query : Query) : query.naming.selected =
      query.clauses.selected ++ query.missing query.bound := Clauses.selected_selecting ..
  have same : Scope.Same start'.naming.selected start.naming.selected := by
    rw [selected, selected, turns.clauses]
    exact ((Scope.Alike.refl _).append (turns.alike_missing sound)).symm.same
  have describe : start'.naming.describe = start.naming.describe := by
    simp [naming, named, turns.clauses, explicit]
  rw [Build.described, Build.described, describe]
  refine List.filter_congr fun term _ => ?_
  cases term.asVariable? with
  | none => rfl
  | some v => exact same v

end

theorem described_naming_of_all {query : Query}
    (all : (query.clauses.selectAll && query.clauses.describe.isEmpty) = true) :
    Build.described query.naming = query.bound.map .var := by
  have selected : query.naming.selected = query.clauses.selected ++
      Variable.unseen query.clauses.selected query.bound := by
    rw [naming, missing, if_pos ((Bool.and_eq_true _ _).mp all).1]
    exact Clauses.selected_selecting ..
  have describe : query.naming.describe = query.bound.map .var := by
    rw [naming, named, if_pos all]
  rw [Build.described, describe, List.filter_eq_self]
  intro term member
  rcases List.mem_map.mp member with ⟨v, bound, rfl⟩
  have occurs : v.occursIn query.bound = true :=
    Variable.occursIn_iff.mpr (List.mem_map_of_mem bound)
  rw [Expr.asVariable?, Option.all_some, selected, Variable.occursIn_unseen, occurs, Bool.or_true]

theorem describes {start start' : Query} (turns : start.Turns Query.Agrees start')
    (sound : start.Sound) (form : start.clauses.form = .describe)
    (run : Build.normalizeDescribe.run start = .ok () query)
    (run' : Build.normalizeDescribe.run start' = .ok () query') :
    ∃ base added added', Query.Turned base added added' query query' := by
  rcases (Build.ends_normalizeDescribe start).of_ok run with ⟨_, rebuilt⟩
  rcases (Build.ends_normalizeDescribe start').of_ok run' with ⟨_, rebuilt'⟩
  have arranges := (Build.ends_arrange start).of_ok run
  have arranges' := (Build.ends_arrange start').of_ok run'
  have rest := (Build.keepsRest_normalizeDescribe start rfl).of_ok run
  have rest' := (Build.keepsRest_normalizeDescribe start' rfl).of_ok run'
  cases all : start.clauses.selectAll && start.clauses.describe.isEmpty with
  | true =>
      have all' : (start'.clauses.selectAll && start'.clauses.describe.isEmpty) = true := by
        rwa [turns.clauses]
      rw [described_naming_of_all all] at arranges
      rw [described_naming_of_all all'] at arranges'
      have length := (turns.alike_bound sound).length_eq (start.nodup_bodyBinds _)
        (start'.nodup_bodyBinds _)
      have count : (start'.bound.map Expr.var).length = (start.bound.map Expr.var).length := by
        rw [List.length_map, List.length_map, length]
      exact ⟨_, _, _, turns.turned_described sound rebuilt rebuilt' arranges arranges' rest rest'
        count form fun place => turns.turned_place_of_all arranges arranges' count
          ((Bool.and_eq_true _ _).mp all).1⟩
  | false =>
      rw [turns.described_naming sound all] at arranges'
      refine ⟨_, _, _, turns.turned_described sound rebuilt rebuilt' arranges arranges' rest rest'
        rfl form fun place member => ?_⟩
      have sound' : query.Sound := (Build.ends_sound_normalizeDescribe sound).of_ok run
      have here : query.arena.Sound place.2 := by
        refine (sound'.body arranges.body).of_mem_parts arranges.get?_body ?_
        rw [Pattern.parts_group]
        exact List.mem_append_right _ (List.mem_map_of_mem member)
      exact (turns.turns_arranged sound arranges arranges').turned here.fits

end Turns

end Query

end Sparql
