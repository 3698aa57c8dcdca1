import Sparql.Proofs.Bindable.Basic
import Sparql.Proofs.Check.Notes

/-!
Variables and notes in any order. Lists of variables are alike if they have the same ones as far as
a check can tell them apart, and then they are so after anything that is done to both.
-/

namespace Sparql

theorem mem_flatMap_congr {α β : Type} {values values' : List α} {each each' : α → List β}
    (members : ∀ value, value ∈ values ↔ value ∈ values')
    (same : ∀ value ∈ values, ∀ member, member ∈ each value ↔ member ∈ each' value) (member : β) :
    member ∈ values.flatMap each ↔ member ∈ values'.flatMap each' := by
  rw [List.mem_flatMap, List.mem_flatMap]
  constructor
  · rintro ⟨value, here, inside⟩
    exact ⟨value, (members value).mp here, (same value here member).mp inside⟩
  · rintro ⟨value, here', inside⟩
    have here := (members value).mpr here'
    exact ⟨value, here, (same value here member).mpr inside⟩

/-! ## Variables -/

def Variable.traits (v : Variable) : String × Bool × Bool := (v.name, v.blank, v.path)

theorem Variable.occursIn_of_traits {v w : Variable} (same : v.traits = w.traits)
    (vars : List Variable) : v.occursIn vars = w.occursIn vars := by
  have name : v.name = w.name := congrArg Prod.fst same
  rw [Bool.eq_iff_iff, occursIn_iff, occursIn_iff, name]

namespace Scope

/-- The lists have the same variables, as far as that shows, in any order. -/
def Alike (vars vars' : List Variable) : Prop :=
  ∀ traits, traits ∈ vars.map Variable.traits ↔ traits ∈ vars'.map Variable.traits

variable {vars vars' : List Variable}

theorem Alike.refl (vars : List Variable) : Alike vars vars := fun _ => .rfl

theorem Alike.symm (alike : Alike vars vars') : Alike vars' vars :=
  fun traits => (alike traits).symm

theorem Alike.append {more more' : List Variable} (first : Alike vars vars')
    (second : Alike more more') : Alike (vars ++ more) (vars' ++ more') := by
  intro traits
  rw [List.map_append, List.map_append, List.mem_append, List.mem_append, first, second]

theorem Alike.exists_mem (alike : Alike vars vars') {v : Variable} (member : v ∈ vars) :
    ∃ v' ∈ vars', v'.traits = v.traits :=
  List.mem_map.mp ((alike v.traits).mp (List.mem_map.mpr ⟨v, member, rfl⟩))

theorem alike_of_exists (forth : ∀ v ∈ vars, ∃ v' ∈ vars', v'.traits = v.traits)
    (back : ∀ v' ∈ vars', ∃ v ∈ vars, v.traits = v'.traits) : Alike vars vars' := by
  intro traits
  rw [List.mem_map, List.mem_map]
  constructor
  · rintro ⟨v, member, rfl⟩
    exact forth v member
  · rintro ⟨v, member, rfl⟩
    exact back v member

theorem Alike.filter (alike : Alike vars vars') {keep : Variable → Bool}
    (told : ∀ v w : Variable, v.traits = w.traits → keep v = keep w) :
    Alike (vars.filter keep) (vars'.filter keep) := by
  have picks {vars vars' : List Variable} (alike : Alike vars vars') :
      ∀ v ∈ vars.filter keep, ∃ v' ∈ vars'.filter keep, v'.traits = v.traits := by
    intro v member
    rcases List.mem_filter.mp member with ⟨member, kept⟩
    rcases alike.exists_mem member with ⟨v', member', same⟩
    exact ⟨v', List.mem_filter.mpr ⟨member', (told v' v same).trans kept⟩, same⟩
  exact alike_of_exists (picks alike) (picks alike.symm)

theorem Alike.same (alike : Alike vars vars') : Same vars vars' := by
  have occurs {vars vars' : List Variable} (alike : Alike vars vars') {v : Variable}
      (here : v.occursIn vars = true) : v.occursIn vars' = true := by
    rw [Variable.occursIn_iff, List.mem_map] at here ⊢
    rcases here with ⟨w, member, equal⟩
    rcases alike.exists_mem member with ⟨w', member', same⟩
    exact ⟨w', member', (congrArg Prod.fst same).trans equal⟩
  exact fun v => Bool.eq_iff_iff.mpr ⟨occurs alike, occurs alike.symm⟩

theorem Alike.mem_map {α : Type} (alike : Alike vars vars') {tell : Variable → α}
    (told : ∀ v w : Variable, v.traits = w.traits → tell v = tell w) (value : α) :
    value ∈ vars.map tell ↔ value ∈ vars'.map tell := by
  have forth {vars vars' : List Variable} (alike : Alike vars vars')
      (member : value ∈ vars.map tell) : value ∈ vars'.map tell := by
    rcases List.mem_map.mp member with ⟨v, here, rfl⟩
    rcases alike.exists_mem here with ⟨v', here', same⟩
    exact List.mem_map.mpr ⟨v', here', told v' v same⟩
  exact ⟨forth alike, forth alike.symm⟩

theorem Alike.ordinary (alike : Alike vars vars') :
    Same (Scope.ordinary vars) (Scope.ordinary vars') := by
  refine (alike.filter fun v w same => ?_).same
  rw [(Prod.mk.inj (Prod.mk.inj same).2).2]

theorem Alike.visible (alike : Alike vars vars') :
    Alike (vars.filter Variable.isVisible) (vars'.filter Variable.isVisible) := by
  refine alike.filter fun v w same => ?_
  rcases Prod.mk.inj (Prod.mk.inj same).2 with ⟨blank, path⟩
  rw [Variable.isVisible, Variable.isVisible, blank, path]

theorem alike_flatMap {α : Type} {values values' : List α} {varsOf varsOf' : α → List Variable}
    (members : ∀ value, value ∈ values ↔ value ∈ values')
    (alike : ∀ value ∈ values, Alike (varsOf value) (varsOf' value)) :
    Alike (values.flatMap varsOf) (values'.flatMap varsOf') := by
  intro traits
  rw [List.map_flatMap, List.map_flatMap]
  exact mem_flatMap_congr members alike traits

theorem Same.append {scope scope' more more' : Scope} (first : Same scope scope')
    (second : Same more more') : Same (scope ++ more) (scope' ++ more') := by
  intro v
  rw [Variable.occursIn_append, Variable.occursIn_append, first v, second v]

/-! ## Names that are met once -/

theorem unseen_congr {known known' : List Variable} (same : Same known known')
    (vars : List Variable) : Variable.unseen known vars = Variable.unseen known' vars := by
  induction vars generalizing known known' with
  | nil => rfl
  | cons v rest induction =>
      rw [Variable.unseen, Variable.unseen, same v, induction same,
        induction (same.append fun _ => rfl)]

theorem unseen_eq_filter (known : List Variable) {vars : List Variable}
    (distinct : (vars.map (·.name)).Nodup) :
    Variable.unseen known vars = vars.filter (!·.occursIn known) := by
  induction vars generalizing known with
  | nil => rfl
  | cons v rest induction =>
      rcases List.nodup_cons.mp distinct with ⟨new, distinct⟩
      rw [Variable.unseen, List.filter_cons, induction known distinct]
      cases v.occursIn known with
      | true => rfl
      | false =>
          rw [Bool.not_false, if_pos rfl, if_neg Bool.false_ne_true, induction _ distinct]
          refine congrArg _ (List.filter_congr fun w member => ?_)
          have apart : w.occursIn [v] = false := by
            refine Bool.eq_false_iff.mpr fun occurs => new ?_
            rw [Variable.occursIn_iff, List.map_singleton, List.mem_singleton] at occurs
            exact List.mem_map.mpr ⟨w, member, occurs⟩
          rw [Variable.occursIn_append, apart, Bool.or_false]

theorem Alike.unseen (alike : Alike vars vars') {known known' : List Variable}
    (same : Same known known') (distinct : (vars.map (·.name)).Nodup)
    (distinct' : (vars'.map (·.name)).Nodup) :
    Alike (Variable.unseen known vars) (Variable.unseen known' vars') := by
  rw [unseen_congr same, unseen_eq_filter known' distinct, unseen_eq_filter known' distinct']
  exact alike.filter fun v w traits => congrArg Bool.not (Variable.occursIn_of_traits traits _)

theorem Same.alike (same : Same vars vars') (visible : ∀ v ∈ vars, v.isVisible = true)
    (visible' : ∀ v ∈ vars', v.isVisible = true) : Alike vars vars' := by
  have meets {vars vars' : List Variable} (same : Same vars vars')
      (visible : ∀ v ∈ vars, v.isVisible = true) (visible' : ∀ v ∈ vars', v.isVisible = true) :
      ∀ v ∈ vars, ∃ v' ∈ vars', v'.traits = v.traits := by
    intro v member
    have occurs : v.occursIn vars' = true := by
      rw [← same v, Variable.occursIn_iff]
      exact List.mem_map_of_mem member
    rcases List.mem_map.mp (Variable.occursIn_iff.mp occurs) with ⟨w, member', name⟩
    have plain {v : Variable} (visible : v.isVisible = true) :
        v.traits = (v.name, false, false) := by
      rcases Bool.or_eq_false_iff.mp (Bool.not_eq_true' _ ▸ visible) with ⟨blank, path⟩
      rw [Variable.traits, blank, path]
    refine ⟨w, member', ?_⟩
    rw [plain (visible v member), plain (visible' w member'), name]
  exact alike_of_exists (meets same visible visible')
    (meets (fun v => (same v).symm) visible' visible)

theorem Alike.seen (alike : Alike vars vars') :
    Alike (Variable.unseen [] (vars.filter Variable.isVisible))
      (Variable.unseen [] (vars'.filter Variable.isVisible)) := by
  have visible (vars : List Variable) :
      ∀ v ∈ Variable.unseen [] (vars.filter Variable.isVisible), v.isVisible = true :=
    fun v member => (List.mem_filter.mp ((Variable.unseen_sublist _ _).subset member)).2
  refine Same.alike (fun v => ?_) (visible vars) (visible vars')
  have occurs (vars : List Variable) : v.occursIn (Variable.unseen [] vars) = v.occursIn vars :=
    Variable.occursIn_unseen v [] vars
  rw [occurs, occurs]
  exact alike.visible.same v

theorem Alike.length_eq (alike : Alike vars vars') (distinct : (vars.map (·.name)).Nodup)
    (distinct' : (vars'.map (·.name)).Nodup) : vars.length = vars'.length := by
  have nodup {vars : List Variable} (distinct : (vars.map (·.name)).Nodup) :
      (vars.map Variable.traits).Nodup := by
    have names : (vars.map Variable.traits).map (·.1) = vars.map (·.name) := by
      rw [List.map_map]
      rfl
    rw [← names] at distinct
    exact distinct.of_map _
  have perm := (List.perm_ext_iff_of_nodup (nodup distinct) (nodup distinct')).mpr alike
  simpa using perm.length_eq

end Scope

/-! ## Notes -/

namespace Note

variable {α : Type} {visible visible' : α → List Variable} {notes notes' : Scope → α → List Note}

theorem mem_inOrder_congr {values : List α} {before before' : Scope}
    (same : Scope.Same before before')
    (alike : ∀ value ∈ values, Scope.Alike (visible value) (visible' value))
    (each : ∀ value ∈ values, ∀ before before', Scope.Same before before' →
      ∀ note, note ∈ notes before value ↔ note ∈ notes' before' value) (note : Note) :
    note ∈ inOrder visible notes before values ↔ note ∈ inOrder visible' notes' before' values := by
  induction values generalizing before before' with
  | nil => rfl
  | cons value rest induction =>
      have here := List.mem_cons_self (a := value) (l := rest)
      rw [inOrder, inOrder, List.mem_append, List.mem_append]
      refine or_congr (each value here before before' same note) ?_
      refine induction (same.append (alike value here).ordinary) ?_ ?_
      · exact fun value member => alike value (List.mem_cons_of_mem _ member)
      · exact fun value member => each value (List.mem_cons_of_mem _ member)

theorem inOrder_eq_flatMap {values : List α}
    (blind : ∀ value ∈ values, ∀ before before', notes before value = notes before' value)
    (before : Scope) : inOrder visible notes before values = values.flatMap (notes before) := by
  induction values generalizing before with
  | nil => rfl
  | cons value rest induction =>
      have blind' (value : α) (member : value ∈ rest) := blind value (List.mem_cons_of_mem _ member)
      rw [inOrder, List.flatMap_cons, induction blind']
      exact congrArg _ (List.flatMap_congr fun value member => blind' value member _ _)

theorem inOrder_append_quiet {values more : List α} (before : Scope)
    (quiet : ∀ value ∈ more, ∀ before, notes before value = []) :
    inOrder visible notes before (values ++ more) = inOrder visible notes before values := by
  induction values generalizing before with
  | nil =>
      have blind (value : α) (member : value ∈ more) (before before' : Scope) :
          notes before value = notes before' value := by
        rw [quiet value member, quiet value member]
      rw [List.nil_append, inOrder_eq_flatMap blind, inOrder]
      exact List.flatMap_eq_nil_iff.mpr fun value member => quiet value member before
  | cons value rest induction => rw [List.cons_append, inOrder, inOrder, induction]

end Note

end Sparql
