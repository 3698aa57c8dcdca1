import Mathlib.Data.List.Basic
import Mathlib.Data.Set.Basic
import Mathlib.Logic.Relation
import Sparql.Proofs.Check.Levels
import Sparql.Proofs.Check.Scope
import Sparql.Proofs.Pattern.Reach

/-!
What a pattern can bind, by what it binds itself and by what its parts do. The collection of
variables finds just that: `addBindable_eq`. What a query offers to the query around it is its
projection, and where it projects all, what its own body can bind too: `offered_eq`.
-/

namespace Sparql

namespace Variable

/-! ## First occurrences -/

def isVisible (v : Variable) : Bool := !(v.blank || v.path)

def unseen (known : List Variable) : List Variable → List Variable
  | [] => []
  | v :: rest => if v.occursIn known then unseen known rest else v :: unseen (known ++ [v]) rest

theorem foldl_addTo (found vars : List Variable) :
    vars.foldl (fun found v => v.addTo found) found = found ++ unseen found vars := by
  induction vars generalizing found with
  | nil => exact (List.append_nil found).symm
  | cons v rest induction =>
      rw [List.foldl_cons, induction, unseen, addTo]
      split
      · rfl
      · rw [List.append_assoc, List.singleton_append]

theorem foldl_addVisible (found vars : List Variable) :
    vars.foldl addVisible found = found ++ unseen found (vars.filter isVisible) := by
  rw [← foldl_addTo]
  induction vars generalizing found with
  | nil => rfl
  | cons v rest induction =>
      rw [List.foldl_cons, induction, List.filter_cons, addVisible]
      by_cases hidden : (v.blank || v.path) = true <;> simp [isVisible, hidden]

theorem unseen_append (known left right : List Variable) :
    unseen known (left ++ right) =
      unseen known left ++ unseen (known ++ unseen known left) right := by
  have found := foldl_addTo known (left ++ right)
  rw [List.foldl_append, foldl_addTo, foldl_addTo, List.append_assoc] at found
  exact (List.append_cancel_left found).symm

theorem unseen_unseen {known known' : List Variable}
    (covers : ∀ v : Variable, v.occursIn known' = true → v.occursIn known = true)
    (vars : List Variable) : unseen known (unseen known' vars) = unseen known vars := by
  induction vars generalizing known known' with
  | nil => rfl
  | cons v rest induction =>
      have grown {more : List Variable} (here : v.occursIn more = true)
          (covers : ∀ w : Variable, w.occursIn known' = true → w.occursIn more = true)
          (w : Variable) (occurs : w.occursIn (known' ++ [v]) = true) :
          w.occursIn more = true := by
        rw [occursIn_append, Bool.or_eq_true] at occurs
        rcases occurs with old | new
        · exact covers w old
        · rw [occursIn_iff] at here new ⊢
          rwa [List.mem_singleton.mp new]
      rw [unseen, unseen]
      by_cases old : v.occursIn known' = true
      · rw [if_pos old, if_pos (covers v old)]
        exact induction covers
      · rw [if_neg old, unseen]
        split
        · next here => exact induction (grown here covers)
        · congr 1
          refine induction (grown ?_ fun w occurs => ?_)
          · simp [occursIn, same]
          · rw [occursIn_append, covers w occurs, Bool.true_or]

theorem occursIn_unseen (v : Variable) (known vars : List Variable) :
    v.occursIn (known ++ unseen known vars) = (v.occursIn known || v.occursIn vars) := by
  induction vars generalizing known with
  | nil => rw [unseen, List.append_nil, occursIn, occursIn, List.any_nil, Bool.or_false]
  | cons w rest induction =>
      have apart : v.occursIn (w :: rest) = (v.same w || v.occursIn rest) := List.any_cons
      have together : v.occursIn (w.addTo known ++ unseen (w.addTo known) rest) = _ :=
        induction (w.addTo known)
      rw [occursIn_addTo] at together
      rw [apart, ← Bool.or_assoc, ← together, unseen, addTo]
      split
      · rfl
      · rw [List.append_assoc, List.singleton_append]

theorem unseen_sublist (known vars : List Variable) : (unseen known vars).Sublist vars := by
  induction vars generalizing known with
  | nil => exact .slnil
  | cons v rest induction =>
      rw [unseen]
      split
      · exact (induction known).cons v
      · exact (induction (known ++ [v])).cons_cons v

theorem nodup_unseen (known vars : List Variable) :
    ((unseen known vars).map (·.name)).Nodup ∧
      ∀ v ∈ unseen known vars, v.occursIn known = false := by
  induction vars generalizing known with
  | nil => exact ⟨List.nodup_nil, nofun⟩
  | cons v rest induction =>
      rw [unseen]
      split
      · exact induction known
      · next new =>
          rcases induction (known ++ [v]) with ⟨distinct, others⟩
          have apart (w : Variable) (member : w ∈ unseen (known ++ [v]) rest) :
              w.occursIn known = false ∧ w.name ≠ v.name := by
            have other := others w member
            rw [occursIn_append, Bool.or_eq_false_iff] at other
            exact ⟨other.1, by simpa [occursIn, same] using other.2⟩
          refine ⟨List.nodup_cons.mpr ⟨fun repeated => ?_, distinct⟩, fun w member => ?_⟩
          · rcases List.mem_map.mp repeated with ⟨w, member, equal⟩
            exact (apart w member).2 equal
          · rcases List.mem_cons.mp member with rfl | member
            · exact Bool.eq_false_iff.mpr new
            · exact (apart w member).1

end Variable

/-! ## Patterns -/

namespace Pattern

def own (offered : Query → List Variable) : Pattern Query → List Variable
  | triple t => t.vars
  | bind _ target => [target]
  | values table => table.vars
  | graph name _ => name.asVariable?.toList
  | subquery sub => offered sub
  | group _ | union _ _ | optional _ | minus _ | filter _ | collection _ _ | service _ _ _ => []

/-- The parts whose variables are those of the pattern too: all but an excluded one. -/
def sources {Sub : Type} : Pattern Sub → List PatternId
  | minus _ => []
  | p => p.children

theorem sources_subset_parts {Sub : Type} (p : Pattern Sub) : p.sources ⊆ p.parts := by
  cases p with
  | minus _ => exact List.nil_subset _
  | _ => exact List.subset_append_left _ _

def outline (offered : Query → List Variable) (p : Pattern Query) :
    List Variable × List PatternId :=
  (p.own offered, p.sources)

end Pattern

namespace Arena

/-- The pattern takes variables from the other, through any number of others. -/
def Draws {Sub : Type} (arena : Arena Sub) : PatternId → PatternId → Prop :=
  Relation.ReflTransGen fun id next => ∃ p, arena.get? id = some p ∧ next ∈ p.sources

theorem Draws.reaches {Sub : Type} {arena : Arena Sub} {id next : PatternId}
    (draws : arena.Draws id next) : arena.Reaches id next := by
  induction draws with
  | refl => exact .refl
  | tail _ draws induction =>
      rcases draws with ⟨p, found, member⟩
      exact induction.tail ⟨p, found, p.sources_subset_parts member⟩

def drawn (arena : Arena Query) (ids : List PatternId) : Set PatternId :=
  { next | (∃ id ∈ ids, arena.Draws id next) ∧ ∃ sub, arena.get? next = some (.subquery sub) }

section

variable (offered : Query → List Variable) (arena : Arena Query)

def bindsAt : (levels : Nat) → PatternId → List Variable
  | 0, _ => []
  | levels + 1, id =>
    match arena.get? id with
    | some p => p.own offered ++ p.sources.flatMap (bindsAt levels)
    | none => []

def binds (root : PatternId) : List Variable :=
  Variable.unseen [] ((arena.bindsAt offered arena.levels root).filter Variable.isVisible)

end

variable {offered offered' : Query → List Variable} {arena arena' : Arena Query}

theorem bindsAt_congr {levels : Nat} {id : PatternId}
    (same : ∀ next, arena.Draws id next →
      (arena.get? next).map (Pattern.outline offered) =
        (arena'.get? next).map (Pattern.outline offered')) :
    arena.bindsAt offered levels id = arena'.bindsAt offered' levels id := by
  induction levels generalizing id with
  | zero => rfl
  | succ levels induction =>
      have here := same id .refl
      rw [bindsAt, bindsAt]
      cases found : arena.get? id with
      | none =>
          rw [found, Option.map_none] at here
          rw [Option.map_eq_none_iff.mp here.symm]
      | some p =>
          rw [found, Option.map_some] at here
          rcases Option.map_eq_some_iff.mp here.symm with ⟨p', found', alike⟩
          rcases Prod.mk.inj alike with ⟨own, sources⟩
          rw [found']
          dsimp only
          rw [own, sources]
          refine congrArg _ (List.flatMap_congr fun next member => induction fun next' onward => ?_)
          exact same next' (.head ⟨p, found, member⟩ onward)

theorem binds_congr {root : PatternId} (size : arena.size = arena'.size)
    (same : ∀ next, arena.Draws root next →
      (arena.get? next).map (Pattern.outline offered) =
        (arena'.get? next).map (Pattern.outline offered')) :
    arena.binds offered root = arena'.binds offered' root := by
  have levels : arena.levels = arena'.levels := congrArg (· + 1) size
  rw [binds, binds, levels, bindsAt_congr same]

/-! ## The collection -/

theorem foldlM_unseen {α : Type} {look : List Variable → α → Except Failure (List Variable)}
    {binds : α → List Variable}
    (looks : ∀ {found value vars}, look found value = .ok vars →
      vars = found ++ Variable.unseen found (binds value))
    {values : List α} {found vars : List Variable} (looked : values.foldlM look found = .ok vars) :
    vars = found ++ Variable.unseen found (values.flatMap binds) := by
  induction values generalizing found with
  | nil =>
      cases looked
      exact (List.append_nil _).symm
  | cons value rest induction =>
      rw [List.foldlM_cons] at looked
      cases first : look found value with
      | error failure =>
          rw [first] at looked
          cases looked
      | ok between =>
          rw [first] at looked
          rw [induction looked, looks first, List.flatMap_cons, Variable.unseen_append,
            List.append_assoc]

theorem addBindable_eq {levels : Nat} {found vars : List Variable} {id : PatternId}
    (looked : arena.addBindable levels found id = .ok vars) :
    vars = found ++ Variable.unseen found
      ((arena.bindsAt (·.clauses.selected) levels id).filter Variable.isVisible) := by
  induction levels generalizing found vars id with
  | zero => cases looked
  | succ levels induction =>
      rw [addBindable, get] at looked
      rw [bindsAt]
      cases known : arena.get? id with
      | none =>
          rw [known] at looked
          cases looked
      | some p =>
          have children (looked : p.children.foldlM (arena.addBindable levels) found = .ok vars) :
              vars = found ++ Variable.unseen found (p.children.flatMap fun child =>
                (arena.bindsAt (·.clauses.selected) levels child).filter Variable.isVisible) :=
            foldlM_unseen (fun looked => induction looked) looked
          have itself (own : List Variable)
              (equal : own.foldl Variable.addVisible found = vars) :
              vars = found ++ Variable.unseen found ((own ++ []).filter Variable.isVisible) := by
            rw [← equal, Variable.foldl_addVisible, List.append_nil]
          rw [known] at looked
          dsimp only
          cases p with
          | triple _ | values _ | subquery _ => exact itself _ (Except.ok.inj looked)
          | bind value target => exact itself [target] (Except.ok.inj looked)
          | minus _ | filter _ => exact itself [] (Except.ok.inj looked)
          | graph name body =>
              rw [induction looked, Variable.foldl_addVisible, List.append_assoc,
                ← Variable.unseen_append, ← List.filter_append]
              simp [Pattern.own, Pattern.sources, Pattern.children]
          | group _ | union _ _ | optional _ | collection _ _ | service _ _ _ =>
              rw [children looked, ← List.filter_flatMap]
              rfl

theorem bindable_eq {root : PatternId} {vars : List Variable}
    (looked : arena.bindable root = .ok vars) : vars = arena.binds (·.clauses.selected) root := by
  rw [addBindable_eq looked]
  rfl

theorem found_of_bindable {root : PatternId} {vars : List Variable}
    (looked : arena.bindable root = .ok vars) : ∃ p, arena.get? root = some p := by
  rw [bindable, levels, addBindable, get] at looked
  cases found : arena.get? root with
  | none =>
      rw [found] at looked
      cases looked
  | some p => exact ⟨p, rfl⟩

end Arena

/-! ## Queries -/

def Clauses.projectsAll (clauses : Clauses) : Bool :=
  clauses.selectAll && clauses.form != .describe

namespace Query

def tableVars (query : Query) : List Variable := query.clauses.values.toList.flatMap (·.vars)

def bodyBinds (offered : Query → List Variable) (query : Query) : List Variable :=
  query.clauses.body.toList.flatMap (query.arena.binds offered)

def offering (offered : Query → List Variable) (query : Query) : List Variable :=
  query.clauses.selected ++
    if query.clauses.projectsAll then
      Variable.unseen query.clauses.selected (query.bodyBinds offered ++ query.tableVars)
    else []

def offeredAt : (level : Nat) → Query → List Variable
  | 0 => offering fun _ => []
  | level + 1 => offering (offeredAt level)

/-- The projection of the query, with all that its body and its table bind if it projects all. -/
def offered (query : Query) : List Variable := query.offeredAt query.level

theorem offering_congr {offered offered' : Query → List Variable} {query : Query}
    (same : ∀ id sub, query.arena.get? id = some (.subquery sub) → offered sub = offered' sub) :
    query.offering offered = query.offering offered' := by
  have outline (next : PatternId) : (query.arena.get? next).map (Pattern.outline offered) =
      (query.arena.get? next).map (Pattern.outline offered') := by
    cases found : query.arena.get? next with
    | none => rfl
    | some p =>
        cases p with
        | subquery sub => simp [Pattern.outline, Pattern.own, same next sub found]
        | _ => rfl
  have binds : query.arena.binds offered = query.arena.binds offered' :=
    funext fun root => Arena.binds_congr rfl fun next _ => outline next
  rw [offering, offering, bodyBinds, bodyBinds, binds]

theorem offeredAt_eq {level level' : Nat} {query : Query} (le : query.level ≤ level)
    (le' : query.level ≤ level') : query.offeredAt level = query.offeredAt level' := by
  induction level generalizing level' query with
  | zero =>
      have none (id : PatternId) (sub : Query) :
          query.arena.get? id ≠ some (.subquery sub) := fun found =>
        absurd (level_lt_of_get? found) (Nat.le_zero.mp le ▸ Nat.not_lt_zero _)
      cases level' with
      | zero => rfl
      | succ level' => exact offering_congr fun id sub found => absurd found (none id sub)
  | succ level induction =>
      cases level' with
      | zero =>
          refine offering_congr fun id sub found => ?_
          exact absurd (level_lt_of_get? found) (Nat.le_zero.mp le' ▸ Nat.not_lt_zero _)
      | succ level' =>
          refine offering_congr fun id sub found => ?_
          have below := level_lt_of_get? found
          exact induction (by omega) (by omega)

theorem offered_eq (query : Query) : query.offered = query.offering offered := by
  rw [offered, offeredAt_eq (Nat.le_refl _) (Nat.le_succ _), offeredAt]
  exact offering_congr fun id sub found =>
    offeredAt_eq (Nat.le_of_lt (level_lt_of_get? found)) (Nat.le_refl _)

end Query

/-! ## Completed projections -/

namespace Build

theorem items_projectAll (items : List Projection) (vars : List Variable) :
    vars.foldl
        (fun items v =>
          if v.occursIn (items.map (·.target)) then items else items ++ [{ target := v }])
        items =
      items ++ (Variable.unseen (items.map (·.target)) vars).map ({ target := · }) := by
  induction vars generalizing items with
  | nil => exact (List.append_nil _).symm
  | cons v rest induction =>
      rw [List.foldl_cons, induction, Variable.unseen]
      split
      · rfl
      · rw [List.map_append, List.append_assoc]
        rfl

theorem targets_projectAll (items : List Projection) (vars : List Variable) :
    (vars.foldl
        (fun items v =>
          if v.occursIn (items.map (·.target)) then items else items ++ [{ target := v }])
        items).map (·.target) =
      items.map (·.target) ++ Variable.unseen (items.map (·.target)) vars := by
  rw [items_projectAll, List.map_append, List.map_map]
  exact congrArg _ (List.map_id _)

theorem values_projectAll (items : List Projection) (vars : List Variable) :
    (vars.foldl
        (fun items v =>
          if v.occursIn (items.map (·.target)) then items else items ++ [{ target := v }])
        items).filterMap (·.value) =
      items.filterMap (·.value) := by
  have none (vars : List Variable) :
      vars.filterMap ((·.value) ∘ fun v => ({ target := v } : Projection)) = [] :=
    List.filterMap_eq_nil_iff.mpr fun _ _ => rfl
  rw [items_projectAll, List.filterMap_append, List.filterMap_map, none, List.append_nil]

end Build

end Sparql
