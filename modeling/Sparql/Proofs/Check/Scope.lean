import Sparql.Query.Check

/-!
Scopes grow at the end. Binding variables one after the other adds each name that is new, except for
the variables that stand for paths.
-/

namespace Sparql

namespace Variable

theorem occursIn_append (v : Variable) (left right : List Variable) :
    v.occursIn (left ++ right) = (v.occursIn left || v.occursIn right) :=
  List.any_append

theorem occursIn_addTo (v w : Variable) (found : List Variable) :
    v.occursIn (w.addTo found) = (v.occursIn found || v.same w) := by
  unfold addTo
  split
  · next known =>
      by_cases equal : v.same w = true
      · have same : v.name = w.name := by simpa [same] using equal
        have here : v.occursIn found = true := by
          rw [occursIn_iff] at known ⊢
          rwa [same]
        rw [here, Bool.true_or]
      · rw [Bool.eq_false_iff.mpr equal, Bool.or_false]
  · rw [occursIn_append]
    simp [occursIn]

end Variable

namespace Scope

def ordinary (vars : List Variable) : Scope := vars.filter (!·.path)

theorem ordinary_append (left right : List Variable) :
    ordinary (left ++ right) = ordinary left ++ ordinary right :=
  List.filter_append ..

theorem occursIn_bind (v w : Variable) (scope : Scope) :
    v.occursIn (scope.bind w) = (v.occursIn scope || v.occursIn (ordinary [w])) := by
  unfold bind ordinary
  by_cases path : w.path = true
  · simp [path, Variable.occursIn]
  · rw [if_neg path, Variable.occursIn_addTo]
    simp [path, Variable.occursIn]

theorem foldl_bind_ordinary (v : Variable) (scope : Scope) :
    (ordinary [v]).foldl bind scope = scope.bind v := by
  unfold ordinary bind
  by_cases path : v.path = true <;> simp [path]

theorem occursIn_foldl_bind (v : Variable) (vars : List Variable) (scope : Scope) :
    v.occursIn (vars.foldl bind scope) = (v.occursIn scope || v.occursIn (ordinary vars)) := by
  induction vars generalizing scope with
  | nil => simp [ordinary, Variable.occursIn]
  | cons w rest induction =>
      rw [List.foldl_cons, induction, occursIn_bind, Bool.or_assoc, ← Variable.occursIn_append,
        ← ordinary_append]
      rfl

def Same (scope scope' : Scope) : Prop :=
  ∀ v : Variable, v.occursIn scope = v.occursIn scope'

theorem Same.foldl_bind {scope scope' : Scope} (same : Same scope scope') (vars : List Variable) :
    Same (vars.foldl bind scope) (scope' ++ ordinary vars) := by
  intro v
  rw [occursIn_foldl_bind, Variable.occursIn_append, same v]

theorem foldl_bind_grows (vars : List Variable) {scope : Scope}
    (distinct : (scope.map (·.name)).Nodup) :
    ∃ gained, vars.foldl bind scope = scope ++ gained ∧
      ((scope ++ gained).map (·.name)).Nodup ∧ ∀ v ∈ gained, v.path = false := by
  induction vars generalizing scope with
  | nil => exact ⟨[], by simp, by simpa using distinct, nofun⟩
  | cons w rest induction =>
      rw [List.foldl_cons]
      by_cases skipped : w.path = true ∨ w.occursIn scope = true
      · have same : scope.bind w = scope := by
          unfold bind Variable.addTo
          rcases skipped with path | known <;> simp [*]
        rw [same]
        exact induction distinct
      · rcases not_or.mp skipped with ⟨ordinary, new⟩
        have added : scope.bind w = scope ++ [w] := by
          unfold bind Variable.addTo
          rw [if_neg ordinary, if_neg new]
        have distinct' : ((scope ++ [w]).map (·.name)).Nodup := by
          rw [Variable.occursIn_iff] at new
          simpa [List.nodup_append, distinct] using new
        rcases induction distinct' with ⟨gained, equal, nodup, paths⟩
        rw [added, equal]
        refine ⟨w :: gained, by simp, by simpa using nodup, fun v member => ?_⟩
        rcases List.mem_cons.mp member with rfl | member
        · exact Bool.eq_false_iff.mpr ordinary
        · exact paths v member

end Scope

end Sparql
