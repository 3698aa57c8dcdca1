import Mathlib.Data.Finset.Card
import Mathlib.Data.Finset.Dedup
import Sparql.Extension
import Sparql.Proofs.Calls.Waiting

/-!
Functions from outside are found by the names that call them. A name is cut at its last point, and
what is found is what was registered last for both of its parts: `Registry.resolves_calls`.
-/

namespace Sparql

namespace Extension

/-! ## Targets -/

namespace Target

def IsScheme (scheme : String) : Prop :=
  scheme.toList.map Char.toLower = "function://".toList

theorem text_toList (target : Target) :
    target.text.toList = target.library.toList ++ '.' :: target.member.toList := by
  simp [text, toString]

theorem ofName?_eq_some_iff_cut {name : String} {target : Target} :
    ofName? name = some target ↔
      ∃ rest, Text.dropStart? Vocabulary.extensions.toList name.toList = some rest ∧
        Text.cutLast? '.' rest = some (target.library.toList, target.member.toList) ∧
          target.library ≠ "" ∧ target.member ≠ "" := by
  rw [ofName?]
  simp only [Option.bind_eq_bind, Option.bind_eq_some_iff]
  constructor
  · rintro ⟨rest, dropped, ⟨library, member⟩, cut, made⟩
    dsimp only at made
    split at made
    · cases made
    · next filled =>
        cases made
        rw [Bool.or_eq_true, List.isEmpty_iff, List.isEmpty_iff, not_or] at filled
        refine ⟨rest, dropped, ?_, ?_, ?_⟩
        · rw [cut, String.toList_ofList, String.toList_ofList]
        · simpa using filled.1
        · simpa using filled.2
  · rintro ⟨rest, dropped, cut, library, member⟩
    refine ⟨rest, dropped, _, cut, ?_⟩
    simp [library, member]

/-- The targets that have a name are those with two parts, the second of them without a point. The
name is a scheme followed by the text of the target. -/
theorem ofName?_eq_some_iff {name : String} {target : Target} :
    ofName? name = some target ↔
      (∃ scheme, IsScheme scheme ∧ name = scheme ++ target.text) ∧
        target.library ≠ "" ∧ target.member ≠ "" ∧ '.' ∉ target.member.toList := by
  rw [ofName?_eq_some_iff_cut]
  constructor
  · rintro ⟨rest, dropped, cut, library, member⟩
    obtain rfl := Text.append_of_cutLast? cut
    have clean := Text.not_mem_of_cutLast? cut
    obtain ⟨head, whole, same⟩ := Text.dropStart?_eq_some_iff.mp dropped
    refine ⟨⟨String.ofList head, ?_, ?_⟩, library, member, clean⟩
    · rw [IsScheme, String.toList_ofList, same]
      decide
    · rw [← String.toList_inj, String.toList_append, text_toList, String.toList_ofList, whole]
  · rintro ⟨⟨scheme, isScheme, rfl⟩, library, member, clean⟩
    refine ⟨target.text.toList, ?_, ?_, library, member⟩
    · rw [Text.dropStart?_eq_some_iff]
      refine ⟨scheme.toList, String.toList_append .., isScheme.trans ?_⟩
      decide
    · rw [text_toList]
      exact Text.cutLast?_append clean _

theorem ofName?_append_iff {scheme : String} (isScheme : IsScheme scheme)
    (library member : String) :
    ofName? (scheme ++ library ++ "." ++ member) = some ⟨library, member⟩ ↔
      library ≠ "" ∧ member ≠ "" ∧ '.' ∉ member.toList := by
  have whole :
      scheme ++ library ++ "." ++ member = scheme ++ (⟨library, member⟩ : Target).text := by
    simp [text, toString, String.append_assoc]
  rw [ofName?_eq_some_iff, and_iff_right ⟨scheme, isScheme, whole⟩]

end Target

/-! ## Registrations -/

namespace Registry

variable {α : Type} {registry : Registry α}

theorem resolve?_register (registry : Registry α) (target other : Target) (value : α) :
    (registry.register target value).resolve? other =
      if other = target then some value else registry.resolve? other := by
  rw [resolve?, register, List.lookup_cons]
  by_cases equal : other = target
  · simp [equal]
  · rw [beq_eq_false_iff_ne.mpr equal, if_neg equal]
    have kept := lookup_filter registry.entries (fun key => key ≠ target) other
    simpa [equal, resolve?] using kept

def targets (registry : Registry α) : List Target := registry.entries.map (·.1)

theorem targets_register (registry : Registry α) (target : Target) (value : α) :
    (registry.register target value).targets = target :: registry.targets.filter (· ≠ target) := by
  simp [targets, register, List.filter_map, Function.comp_def]

def registerAll (registrations : List (Target × α)) : Registry α :=
  registrations.foldl (fun registry entry => registry.register entry.1 entry.2) {}

@[simp] theorem registerAll_concat (registrations : List (Target × α)) (entry : Target × α) :
    registerAll (registrations ++ [entry]) =
      (registerAll registrations).register entry.1 entry.2 := by
  simp [registerAll]

theorem resolve?_registerAll (registrations : List (Target × α)) (target : Target) :
    (registerAll registrations).resolve? target =
      ((registrations.filter (·.1 = target)).getLast?).map (·.2) := by
  induction registrations using List.reverseRecOn with
  | nil => rfl
  | append_singleton registrations entry induction =>
      rw [registerAll_concat, resolve?_register, List.filter_append, induction]
      by_cases equal : target = entry.1
      · simp [equal]
      · simp [equal, Ne.symm equal]

theorem nodup_targets_registerAll (registrations : List (Target × α)) :
    (registerAll registrations).targets.Nodup := by
  induction registrations using List.reverseRecOn with
  | nil => exact .nil
  | append_singleton registrations entry induction =>
      rw [registerAll_concat, targets_register, List.nodup_cons]
      exact ⟨by simp, induction.filter _⟩

theorem mem_targets_registerAll {registrations : List (Target × α)} {target : Target} :
    target ∈ (registerAll registrations).targets ↔ target ∈ registrations.map (·.1) := by
  induction registrations using List.reverseRecOn with
  | nil => rfl
  | append_singleton registrations entry induction =>
      rw [registerAll_concat, targets_register, List.map_append, List.mem_append, List.mem_cons,
        List.mem_filter, induction]
      by_cases equal : target = entry.1 <;> simp [equal]

theorem size_registerAll (registrations : List (Target × α)) :
    (registerAll registrations).size = (registrations.map (·.1)).toFinset.card := by
  have same : (registerAll registrations).targets.toFinset =
      (registrations.map (·.1)).toFinset := by
    ext target
    rw [List.mem_toFinset, List.mem_toFinset, mem_targets_registerAll]
  rw [← same, List.toFinset_card_of_nodup (nodup_targets_registerAll registrations), targets,
    List.length_map, size]

/-- The name of a library and a member stands for just these if both are there and no point is in
the member, and then for what was registered last for both. Every name that has a target is a scheme
followed by the text of the target. There are as many entries as there are different targets. -/
theorem resolves_calls (registrations : List (Target × α)) :
    (∀ scheme library member, Target.IsScheme scheme →
      (Target.ofName? (scheme ++ library ++ "." ++ member) = some ⟨library, member⟩ ↔
        library ≠ "" ∧ member ≠ "" ∧ '.' ∉ member.toList)) ∧
    (∀ target, (registerAll registrations).resolve? target =
      ((registrations.filter (·.1 = target)).getLast?).map (·.2)) ∧
    (∀ name target, Target.ofName? name = some target →
      ∃ scheme, Target.IsScheme scheme ∧ name = scheme ++ target.text) ∧
    (registerAll registrations).size = (registrations.map (·.1)).toFinset.card :=
  ⟨fun _ library member isScheme => Target.ofName?_append_iff isScheme library member,
    resolve?_registerAll registrations,
    fun _ _ found => (Target.ofName?_eq_some_iff.mp found).1,
    size_registerAll registrations⟩

theorem resolves_calls_distance :
    let registrations : List (Target × String) :=
      [(⟨"org.Geo", "distance"⟩, "first"), (⟨"org", "Geo.distance"⟩, "other"),
        (⟨"org.Geo", "distance"⟩, "second")]
    Target.IsScheme "Function://" ∧
      Target.ofName? ("Function://" ++ "org.Geo" ++ "." ++ "distance") =
        some ⟨"org.Geo", "distance"⟩ ∧
      (registerAll registrations).resolve? ⟨"org.Geo", "distance"⟩ = some "second" ∧
      (registerAll registrations).size = 2 := by
  intro registrations
  obtain ⟨names, resolves, _, size⟩ := resolves_calls registrations
  have scheme : Target.IsScheme "Function://" := by
    rw [Target.IsScheme]
    decide
  exact ⟨scheme, (names _ _ _ scheme).mpr (by decide), (resolves _).trans (by decide),
    size.trans (by decide)⟩

end Registry

end Extension

end Sparql
