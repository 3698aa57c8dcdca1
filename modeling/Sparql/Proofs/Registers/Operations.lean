import Sparql.Proofs.Check.Frame
import Sparql.Proofs.Describe.Shape
import Sparql.Proofs.Registers.Proceeds

/-!
The triples that operations make. All operations but the one that says whether triples are submitted
make their triples one at a time, normalizing and checking included: `proceedsTo_after`.
-/

namespace Sparql

namespace Build

variable {α : Type} {may : Query → Prop} {start : Query}

/-! ## Normalizing -/

theorem proceeds_settle (functions : Functions) (key : String) (counts : List Nat) :
    Proceeds may start (settle functions key counts) := by
  rw [settle]
  split
  · apply preserves_forM
    intro count _
    exact (takes_checkParameters complains_untold key _ count).proceeds
  · apply (proceeds_report _).bind
    intro _
    exact proceeds_modify fun _ => ⟨rfl, rfl, rfl, id⟩

theorem proceedsTo_mapValues (query : Query) (change : Expr → Expr) :
    query.ProceedsTo may (query.mapValues change) := by
  have slots : (⟨query.arena.patterns.map (Pattern.mapValues change)⟩ : Arena Query).slots =
      query.arena.slots := by
    rw [Arena.slots, Arena.slots, List.map_map]
    apply List.map_congr_left
    intro p _
    cases p <;> rfl
  have parts (sub : Query) (part : sub.IsPartOf { query with
      arena := ⟨query.arena.patterns.map (Pattern.mapValues change)⟩ }) : sub.IsPartOf query :=
    @Query.isPartOf_mapValues query change sub part
  exact (Query.ProceedsTo.rewrite query _ slots parts).trans (.aside ⟨rfl, rfl, rfl, id⟩)

theorem proceeds_settleCalls : Proceeds may start settleCalls := by
  apply preserves_get_bind
  intro query proceeds
  dsimp only
  split
  · exact proceeds
  · refine Preserves.bind (preserves_modify fun query proceeds => ?_) (fun _ => ?_) query proceeds
    · exact proceeds.trans (proceedsTo_mapValues query _)
    · refine Preserves.bind (proceeds_modify fun _ => ?_) fun _ => ?_
      · exact ⟨rfl, rfl, rfl, id⟩
      · exact preserves_forM fun call _ => proceeds_settle _ _ _

theorem proceedsTo_normalizePatterns {normalizeSub : Build Unit}
    (proceeds : ∀ sub, Proceeds may sub normalizeSub) (outer : List (String × Definition))
    (query : Query) :
    query.ProceedsTo may
      { query with arena := ⟨(normalizePatterns normalizeSub outer query.arena.patterns).1⟩ } := by
  refine (@chain_normalizePatterns normalizeSub outer (Query.ProceedsTo may) (fun _ => True)
    .refl .trans (fun query id sub found => ?_) query).1
  have inherited : sub.ProceedsTo may { sub with functions := sub.functions.inherit outer } :=
    .aside ⟨rfl, rfl, rfl, fun normalized => normalized⟩
  apply (proceeds sub _ inherited).imp
  · exact fun _ _ inner => .part query found inner
  · exact fun _ _ inner => ⟨.part query found inner, trivial⟩

theorem proceeds_normalizeSubqueries {normalizeSub : Build Unit}
    (proceeds : ∀ sub, Proceeds may sub normalizeSub) :
    Proceeds may start (normalizeSubqueries normalizeSub) := by
  rw [normalizeSubqueries_eq]
  apply preserves_get_bind
  intro query before
  have within := proceedsTo_normalizePatterns proceeds query.functions.definitions query
  dsimp only
  rw [ends_bind, ends_modify]
  have holds := before.trans within
  split
  · exact holds
  · exact ((proceeds_report _).bind fun _ => proceeds_throw _) _ holds
  · exact holds

theorem proceeds_templateOf (root : PatternId) : Proceeds may start (templateOf root) :=
  (proceeds_inspect _).bind fun children => proceeds_group children

theorem proceeds_normalizeConstruct : Proceeds may start normalizeConstruct := by
  apply preserves_get_bind
  intro query proceeds
  dsimp only
  split
  · exact proceeds
  · exact proceeds_modifyClauses _ query proceeds
  · exact ((proceeds_templateOf _).bind fun _ => proceeds_modifyClauses _) query proceeds
  · exact proceeds

theorem proceeds_normalizeDelete : Proceeds may start normalizeDelete := by
  apply preserves_get_bind
  intro query proceeds
  dsimp only
  split
  · exact ((proceeds_templateOf _).bind fun _ => proceeds_modifyClauses _) query proceeds
  · exact proceeds

theorem proceeds_describeAll (bound : List Variable) : Proceeds may start (describeAll bound) := by
  have projected : Proceeds may start (bound.forM fun v => select v none) :=
    preserves_forM fun v _ => proceeds_modifyClauses _
  apply preserves_get_bind
  intro query
  exact proceeds_ite ((proceeds_modifyClauses _).bind fun _ => projected) projected query

theorem proceeds_description (term : Expr) : Proceeds may start (description term) := by
  apply proceeds_freshVariable.bind
  intro p
  apply proceeds_freshVariable.bind
  intro v
  apply proceeds_freshVariable.bind
  intro p'
  apply proceeds_freshVariable.bind
  intro v'
  apply (proceeds_triple _ _ _).bind
  intro outgoing
  apply (proceeds_triple _ _ _).bind
  intro incoming
  apply (proceeds_group _).bind
  intro left
  apply (proceeds_group _).bind
  intro right
  apply (proceeds_union _ _).bind
  intro either
  exact (proceeds_optional either).bind fun _ => preserves_pure _

theorem proceeds_bodyParts : Proceeds may start bodyParts := by
  apply preserves_get_bind
  intro query proceeds
  split
  · exact proceeds
  · refine ((proceeds_inspect _).bind fun p => ?_) query proceeds
    split <;> exact preserves_pure _

theorem proceeds_bodyVariables : Proceeds may start bodyVariables := by
  apply preserves_get_bind
  intro query proceeds
  split
  · exact proceeds_inspect _ query proceeds
  · exact proceeds

theorem proceeds_placeDescriptions (ids : List (PatternId × PatternId)) :
    Proceeds may start (placeDescriptions ids) := by
  apply proceeds_bodyParts.bind
  intro parts
  apply (proceeds_group _).bind
  intro body
  apply (proceeds_modifyClauses _).bind
  intro _
  exact (proceeds_group _).bind fun template => proceeds_modifyClauses _

theorem proceeds_describeNamed : Proceeds may start describeNamed := by
  apply preserves_get_bind
  intro query
  apply Preserves.bind
  · exact preserves_mapM fun term _ => proceeds_description term
  · exact fun ids => (proceeds_modifyClauses _).bind fun _ => proceeds_placeDescriptions ids

theorem proceeds_normalizeDescribe : Proceeds may start normalizeDescribe := by
  rw [normalizeDescribe_eq]
  apply proceeds_bodyVariables.bind
  intro bound
  apply preserves_get_bind
  intro query
  have described : Proceeds may start describeNamed := proceeds_describeNamed
  exact proceeds_ite ((proceeds_describeAll bound).bind fun _ => described) described query

theorem proceeds_normalizeForm : Proceeds may start normalizeForm := by
  apply preserves_get_bind
  intro query proceeds
  split
  · exact proceeds
  · exact proceeds_modifyClauses _ query proceeds
  · exact proceeds_normalizeConstruct query proceeds
  · exact proceeds_normalizeDescribe query proceeds
  · exact proceeds_normalizeDelete query proceeds
  · exact proceeds_modifyClauses _ query proceeds

theorem proceeds_normalizeWith {normalizeSub : Build Unit}
    (proceeds : ∀ sub, Proceeds may sub normalizeSub) :
    Proceeds may start (normalizeWith normalizeSub) := by
  apply preserves_get_bind
  intro query
  apply proceeds_ite (preserves_pure _)
  apply (proceeds_normalizeSubqueries proceeds).bind
  intro _
  apply proceeds_settleCalls.bind
  intro _
  apply proceeds_normalizeForm.bind
  intro _
  exact proceeds_modify fun _ => ⟨rfl, rfl, rfl, fun _ => rfl⟩

theorem proceeds_normalizeAt (level : Nat) : Proceeds may start (normalizeAt level) := by
  induction level generalizing start with
  | zero => exact proceeds_normalizeWith fun _ => preserves_pure _
  | succ level induction => exact proceeds_normalizeWith fun _ => induction

theorem proceeds_normalize : Proceeds may start normalize :=
  preserves_get_bind fun query => proceeds_normalizeAt query.level query

/-! ## Checking -/

theorem closedUnderCheck_proceedsTo {checkSub : Build Bool}
    (keepsSub : ∀ sub, Proceeds may sub checkSub) (start : Query) :
    ClosedUnderCheck checkSub (start.ProceedsTo may) fun _ => start.ProceedsTo may where
  report diagnostic query proceeds _ := proceeds_report diagnostic query proceeds
  own query _ proceeds := proceeds.trans (.aside ⟨rfl, rfl, rfl, id⟩)
  project vars := proceeds_modifyClauses _
  done query proceeds := proceeds.trans (.aside ⟨rfl, rfl, rfl, id⟩)
  part query id sub proceeds found := by
    apply (keepsSub sub sub (.refl sub)).imp
    · exact fun _ _ inner => proceeds.trans (.part query found inner)
    · exact fun _ _ inner => proceeds.trans (.part query found inner)
  other _ _ proceeds _ := proceeds

theorem proceeds_checkAt (level : Nat) : Proceeds may start (checkAt level) := by
  induction level generalizing start with
  | zero =>
      have none (sub : Query) : Proceeds may sub (return true) := preserves_pure true
      exact preserves_checkWith (closedUnderCheck_proceedsTo none start)
  | succ level induction =>
      exact preserves_checkWith (closedUnderCheck_proceedsTo (fun _ => induction) start)

theorem proceeds_check : Proceeds may start check :=
  preserves_get_bind fun query => proceeds_checkAt query.level query

end Build

/-! ## Operations -/

namespace Operation

open Build

variable {may : Query → Prop} {operation : Operation}

theorem proceeds_run (other : ∀ submitting, operation ≠ .setSubmitting submitting)
    (part : ∀ sub, operation = .subquery sub → may sub) (start : Query) :
    Proceeds may start operation.run := by
  have complains := complains_untold
  have refuses := refuses_untold
  cases operation with
  | setNamespaces namespaces =>
      apply Preserves.map
      apply proceeds_modify
      exact fun _ => ⟨rfl, rfl, rfl, id⟩
  | freshVariable => exact proceeds_freshVariable.map _
  | blank label => exact (proceeds_blank label).map _
  | blankConstant label => exact (proceeds_blankConstant label).map _
  | prefixedName name => exact (takes_prefixedName complains name).proceeds.map _
  | literal label datatype lang =>
      exact (takes_literal complains label datatype lang).proceeds.map _
  | number label => exact (takes_number refuses label).proceeds.map _
  | call name args => exact (proceeds_aggregate name args false none).map _
  | aggregate name args distinct separator =>
      exact (proceeds_aggregate name args distinct separator).map _
  | patternExists id negated => exact (takes_patternExists refuses id negated).proceeds.map _
  | pathOperator symbol operand => exact (takes_pathOperator refuses symbol operand).proceeds.map _
  | repeated least most operand => exact (takes_repeated refuses least most operand).proceeds.map _
  | pathPair symbol left right => exact (takes_pathPair refuses symbol left right).proceeds.map _
  | pathPredicate path => exact (proceeds_pathPredicate path).map _
  | triple subject predicate object => exact (proceeds_triple subject predicate object).map _
  | setSubmitting submitting => exact absurd rfl (other submitting)
  | group children => exact (proceeds_group children).map _
  | addToGroup id child => exact (proceeds_addToGroup id child).map _
  | union left right => exact (proceeds_union left right).map _
  | optional body | minus body | service _ _ body | graph _ body =>
      exact (proceeds_around body rfl (by nofun)).map _
  | filter _ | bind _ _ | values _ => exact (proceeds_push rfl nofun).map _
  | subquery sub =>
      apply Preserves.map
      apply proceeds_push rfl
      rintro _ ⟨⟩
      exact part sub rfl
  | collection items => exact (proceeds_collection items).map _
  | collectionHead id => exact (takes_collectionHead refuses id).proceeds.map _
  | setBody id | setConstruct id | setInsert id | setDelete id =>
      exact ((proceeds_known id).bind fun _ => proceeds_modifyClauses _).map _
  | setForm _ | setDataUpdate _ | select _ _ | setSelectAll _ | setDistinct _ | setReduced _
  | describe _ | groupBy _ | having _ | orderBy _ _ | setLimit _ | setOffset _ | setValues _ =>
      exact (proceeds_modifyClauses _).map _
  | define name params body => exact (proceeds_define name params body).map _
  | normalize => exact proceeds_normalize.map _
  | check => exact proceeds_check.map _

theorem proceedsTo_after (other : ∀ submitting, operation ≠ .setSubmitting submitting)
    (part : ∀ sub, operation = .subquery sub → may sub) (query : Query) :
    query.ProceedsTo may (operation.run.after query) :=
  (proceeds_run other part query).after (.refl query)

end Operation

end Sparql
