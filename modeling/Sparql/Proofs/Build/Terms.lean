import Sparql.Proofs.Build.Steps
import Sparql.Proofs.Path.Faults

/-!
Making terms, calls and paths builds. It changes no patterns.
-/

namespace Sparql.Build

variable {α : Type} {rights : Rights} {may : Query → Prop} {start : Query}

/-! ## Terms -/

theorem builds_expand (name : String) : Builds rights may start (expand name) := by
  refine preserves_get_bind fun query changes => ?_
  dsimp only
  split
  · exact changes
  · split
    · exact changes
    · split
      · exact changes
      · exact ((builds_problem (by nofun)).bind fun _ => preserves_pure _) query changes

theorem builds_calledName (name : String) : Builds rights may start (calledName name) := by
  rw [calledName]
  split
  · exact preserves_get_bind fun _ => id
  · split
    · exact preserves_pure _
    · split
      · exact (builds_expand name).bind fun _ => preserves_pure _
      · exact preserves_pure _

theorem builds_freshVariable (names : rights.naming = true) :
    Builds rights may start freshVariable :=
  preserves_get_bind fun query changes => changes.trans (.name query names)

theorem builds_freshLabel (labels : rights.labelling = true) :
    Builds rights may start freshLabel :=
  preserves_get_bind fun query changes => changes.trans (.label query labels)

theorem builds_blank {label : Option String} (labels : label = none → rights.labelling = true) :
    Builds rights may start (blank label) := by
  cases label with
  | some label => exact preserves_pure _
  | none => exact (builds_freshLabel (labels rfl)).bind fun _ => preserves_pure _

theorem builds_blankConstant {label : Option String}
    (labels : label = none → rights.labelling = true) :
    Builds rights may start (blankConstant label) := by
  cases label with
  | some label => exact preserves_pure _
  | none => exact (builds_freshLabel (labels rfl)).bind fun _ => preserves_pure _

theorem builds_prefixedName (name : String) : Builds rights may start (prefixedName name) :=
  (builds_expand name).bind fun _ => preserves_pure _

theorem builds_literal (label : String) (datatype lang : Option String) :
    Builds rights may start (literal label datatype lang) := by
  unfold literal
  split
  · exact preserves_pure _
  · exact (builds_expand _).bind fun _ => preserves_pure _
  · exact preserves_pure _

theorem builds_number (label : String) : Builds rights may start (number label) := by
  rw [number]
  split
  · exact preserves_pure _
  · exact builds_throw rfl

/-! ## Calls -/

theorem builds_checkAggregate (call : Call) (args : List Expr) :
    Builds rights may start (checkAggregate call args) := by
  have nested : Builds rights may start (do
      if Expr.anyHasAggregate args then
        problem (.nestedAggregate call.name)) := by
    split
    · exact builds_problem (by nofun)
    · exact preserves_pure _
  exact builds_ite nested ((builds_problem (by nofun)).bind fun _ => nested)

theorem builds_checkArguments (call : Call) (args : List Expr) :
    Builds rights may start (checkArguments call args) := by
  rw [checkArguments]
  split
  · exact builds_checkAggregate call args
  · split
    · split
      · exact preserves_pure _
      · exact builds_problem (by nofun)
    · exact preserves_pure _

theorem builds_checkParameters (key : String) (params found : Nat) :
    Builds rights may start (checkParameters key params found) := by
  rw [checkParameters]
  split
  · exact preserves_pure _
  · exact builds_problem (by nofun)

theorem builds_prepareRegex (call : Call) (args : List Expr) (flagsAt : Nat) (widen : Bool) :
    Builds rights may start (prepareRegex call args flagsAt widen) := by
  refine preserves_get_bind fun query changes => ?_
  split
  · exact changes
  · dsimp only
    split
    · refine preserves_get_bind (fun query changes => ?_) query changes
      split
      · exact changes
      · exact ((builds_problem (by nofun)).bind fun _ => preserves_pure _) query changes
    · exact changes

theorem builds_linkExternal (call : Call) : Builds rights may start (linkExternal call) := by
  rw [linkExternal]
  split
  · exact preserves_pure _
  · exact (builds_problem (by nofun)).bind fun _ => preserves_pure _

theorem builds_resolveUser (call : Call) (args : List Expr) :
    Builds rights may start (resolveUser call args) := by
  refine preserves_get_bind fun query changes => ?_
  split
  · exact ((builds_checkParameters _ _ _).bind fun _ => preserves_pure _) query changes
  · exact changes.trans (.similar ⟨rfl, rfl, rfl, rfl, rfl⟩)

theorem builds_prepare (call : Call) (args : List Expr) :
    Builds rights may start (prepare call args) := by
  refine (builds_checkArguments call args).bind fun _ => ?_
  split
  · exact preserves_pure _
  · exact preserves_pure _
  · exact (builds_prepareRegex call args 2 true).bind fun _ => preserves_pure _
  · exact (builds_prepareRegex call args 3 false).bind fun _ => preserves_pure _
  · exact (builds_linkExternal call).bind fun _ => preserves_pure _
  · exact (builds_resolveUser call args).bind fun _ => preserves_pure _
  · exact preserves_pure _

theorem builds_aggregate (name : String) (args : List Expr) (distinct : Bool)
    (separator : Option String) :
    Builds rights may start (aggregate name args distinct separator) :=
  (builds_calledName name).bind fun _ => builds_prepare _ args

theorem builds_patternExists (id : PatternId) (negated : Bool) :
    Builds rights may start (patternExists id negated) := by
  refine (builds_known id).bind fun _ => ?_
  split <;> exact preserves_pure _

/-! ## Paths -/

theorem builds_pathOperator (symbol : String) (operand : Expr) :
    Builds rights may start (pathOperator symbol operand) := by
  rw [pathOperator]
  split
  · split
    · exact builds_throw rfl
    · exact preserves_pure _
  · exact builds_throw rfl

theorem builds_repeated (least most : Option String) (operand : Expr) :
    Builds rights may start (repeated least most operand) := by
  rw [repeated]
  split
  · exact preserves_pure _
  · next failed =>
    exact builds_throw (Failure.isStrict_of_isRefusal (isRefusal_of_countedBounds failed))

theorem builds_pathPair (symbol : String) (left right : Expr) :
    Builds rights may start (pathPair symbol left right) := by
  unfold pathPair
  split
  · exact preserves_pure _
  · exact preserves_pure _
  · exact builds_throw rfl

theorem builds_pathPredicate (path : Expr) : Builds rights may start (pathPredicate path) :=
  preserves_get_bind fun _ changes =>
    changes.trans (.similar ⟨rfl, rfl, rfl, rfl, rfl⟩)

end Sparql.Build
