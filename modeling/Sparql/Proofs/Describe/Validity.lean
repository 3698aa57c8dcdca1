import Mathlib.Logic.Equiv.Basic
import Sparql.Proofs.Check.Blanks
import Sparql.Proofs.Describe.Unlabelled
import Sparql.Proofs.Pattern.Tree

/-!
Whether a query is valid does not depend on what it describes. The new body stands in for the old
one as the owner of blank labels, and the descriptions in it report nothing: `described_errors`. The
tables of labels in the query may be in any order.
-/

namespace Sparql

open Build

namespace Query

variable {query query' : Query} {descriptions : List Description} {body' : PatternId}

/-! ## New bodies -/

def standIn (query : Query) (body' : PatternId) : Equiv.Perm PatternId :=
  match query.clauses.body with
  | none => .refl _
  | some body =>
    if (query.arena.get? body).any Pattern.ownsLabels then .swap body body' else .refl _

theorem standIn_of_owns {body : PatternId} {p : Pattern Query}
    (here : query.clauses.body = some body) (found : query.arena.get? body = some p)
    (owns : p.ownsLabels = true) : query.standIn body' body = body' := by
  have swapped : query.standIn body' = .swap body body' := by simp [standIn, here, found, owns]
  rw [swapped, Equiv.swap_apply_left]

theorem standIn_of_other {body : PatternId} {p : Pattern Query}
    (here : query.clauses.body = some body) (found : query.arena.get? body = some p)
    (other : p.ownsLabels = false) (id : PatternId) : query.standIn body' id = id := by
  simp [standIn, here, found, other]

theorem standIn_of_ne {id : PatternId} (new : id ≠ body')
    (old : query.clauses.body ≠ some id) : query.standIn body' id = id := by
  rw [standIn]
  split
  · rfl
  · next body here =>
      split
      · refine Equiv.swap_apply_of_ne_of_ne (fun equal => ?_) new
        rw [equal] at old
        exact old here
      · rfl

theorem gathers_bodyPartIds {body : PatternId} {ids : List PatternId}
    (here : query.clauses.body = some body) (gathers : query.arena.Gathers [body] ids) :
    query.arena.Gathers query.bodyPartIds ids := by
  rw [bodyPartIds, here, Option.toList_some, List.flatMap_singleton]
  cases grouped : (query.arena.get? body).filter Pattern.isGroup with
  | none => exact gathers
  | some p =>
      rcases Option.filter_eq_some_iff.mp grouped with ⟨found, isGroup⟩
      cases gathers with
      | triple here _ =>
          cases found.symm.trans here
          cases isGroup
      | parts here other inside onward =>
          cases found.symm.trans here
          cases onward
          rw [List.append_nil]
          exact inside

/-- The other query is this one in some form, with a new body of the parts of the old one and of
descriptions without labels. -/
structure Adjoins (query : Query) (descriptions : List Description) (body' : PatternId)
    (query' : Query) : Prop where
  patterns : query.arena.patterns <+: query'.arena.patterns
  clauses : query'.clauses = { query.clauses with
    form := query'.clauses.form
    describe := query'.clauses.describe
    body := some body'
    construct := query'.clauses.construct }
  fresh : query.arena.size ≤ body'
  sound : query'.arena.Sound body'
  group : query'.arena.get? body' =
    some (.group (query.bodyPartIds ++ descriptions.map (·.optional)))
  unlabelled : ∀ made ∈ descriptions, made.Unlabelled query'.arena
  log : query'.log = query.log
  options : query'.options = query.options
  checked : query'.checked = query.checked

namespace Adjoins

def comparison (adjoins : query.Adjoins descriptions body' query') : Comparison where
  arena := query.arena
  extra := query'.arena.patterns.drop query.arena.size
  clauses := query.clauses
  clauses' := query'.clauses
  owner := query.standIn body'
  counts diagnostic := diagnostic.isError || diagnostic.code == .blankNodeScope
  owner_injective := (query.standIn body').injective
  counts_of_isError diagnostic error := by rw [error, Bool.true_or]
  counts_of_shared diagnostic shared := by rw [shared, beq_self_eq_true, Bool.or_true]
  asks := by
    rw [adjoins.clauses]
    exact ⟨rfl, rfl, rfl, rfl⟩

variable (adjoins : query.Adjoins descriptions body' query')

theorem patterns_eq :
    query'.arena.patterns = query.arena.patterns ++ adjoins.comparison.extra := by
  rcases adjoins.patterns with ⟨others, equal⟩
  rw [comparison, ← equal]
  exact congrArg _ List.drop_left.symm

theorem whole_eq : adjoins.comparison.whole = query'.arena :=
  congrArg Arena.mk adjoins.patterns_eq.symm

include adjoins in
theorem body_eq : query'.clauses.body = some body' := by rw [adjoins.clauses]

theorem levels_le : query.arena.levels ≤ adjoins.comparison.whole.size := by
  have inside := adjoins.sound.allocated body' .refl
  rw [← adjoins.whole_eq] at inside
  exact Nat.succ_le_of_lt (Nat.lt_of_le_of_lt adjoins.fresh inside)

/-! ## Coverage -/

theorem covers {levels : Nat} {id : PatternId} (fits : query.arena.Fits levels id)
    (apart : ∀ body, query.clauses.body = some body → ¬ query.arena.Reaches id body) :
    adjoins.comparison.Covers levels id := by
  refine Comparison.covers_of_fits (c := adjoins.comparison) fits fun next reaches => ?_
  have inside := (Arena.sound_of_fits fits).allocated next reaches
  have new : next ≠ body' := Nat.ne_of_lt (Nat.lt_of_lt_of_le inside adjoins.fresh)
  exact standIn_of_ne new fun here => apart next here reaches

variable (tree : query.IsTree)

include tree

theorem covers_root {root : PatternId} (member : root ∈ query.selectTested ++ query.templates) :
    adjoins.comparison.Covers query.arena.levels root := by
  have split : query.roots = query.clauses.body.toList ++
      (query.selectTested ++ query.templates) := List.append_assoc ..
  have isRoot : root ∈ query.roots := split ▸ List.mem_append_right _ member
  refine adjoins.covers (tree.sound root isRoot).fits fun body here reaches => ?_
  have isBody : body ∈ query.clauses.body.toList := by simp [here]
  have equal := tree.eq_of_reaches (split ▸ List.mem_append_left _ isBody) reaches
  have unique := tree.nodup_roots
  rw [split] at unique
  exact (List.nodup_append'.mp unique).2.2 isBody (equal ▸ member)

theorem covers_part {body part : PatternId} {p : Pattern Query} {levels : Nat}
    (here : query.clauses.body = some body) (found : query.arena.get? body = some p)
    (member : part ∈ p.parts) (fits : query.arena.Fits levels part) :
    adjoins.comparison.Covers levels part := by
  refine adjoins.covers fits ?_
  rintro _ here' reaches
  rcases here.symm.trans here' with ⟨rfl⟩
  exact (tree.sound.body here).acyclic body .refl (.head' ⟨p, found, member⟩ reaches)

/-! ## The body -/

omit tree in
theorem parallel_parts {x : Build Scope} (checkSub : Build Bool)
    (parts : adjoins.comparison.Parallel x
      (query.bodyPartIds.foldlM
        (checkChild checkSub adjoins.comparison.whole.size body') []) (· = ·)) :
    adjoins.comparison.Parallel x
      (checkPattern checkSub adjoins.comparison.whole.levels [] body') (· = ·) := by
  have group := adjoins.group
  have fits := adjoins.sound.fits
  rw [← adjoins.whole_eq] at group fits
  rcases fits with ⟨p, found, fits⟩
  cases found.symm.trans group
  rw [Arena.levels, checkPattern]
  refine .idle_bind (Comparison.idle_pattern group rfl) ?_
  change adjoins.comparison.Parallel x (List.foldlM
    (checkChild checkSub adjoins.comparison.whole.size body') []
    (query.bodyPartIds ++ descriptions.map (·.optional))) (· = ·)
  rw [List.foldlM_append]
  refine parts.bind_idle fun scope => Comparison.idle_foldlM scope fun optional member => ?_
  rcases List.mem_map.mp member with ⟨made, isMade, rfl⟩
  have unlabelled := adjoins.unlabelled made isMade
  rw [← adjoins.whole_eq] at unlabelled
  refine Comparison.idle_checkDescription unlabelled (fits _ ?_) body' scope
  rw [Pattern.parts_group]
  exact List.mem_append_right _ member

theorem parallel_oldBody {body : PatternId} (here : query.clauses.body = some body)
    (checkSub : Build Bool) :
    adjoins.comparison.Parallel (checkPattern checkSub query.arena.levels [] body)
      (query.bodyPartIds.foldlM
        (checkChild checkSub adjoins.comparison.whole.size body') []) (· = ·) := by
  let c := adjoins.comparison
  have whole := (tree.sound.body here).fits
  rcases whole with ⟨p, found, fits⟩
  have cover {part : PatternId} (member : part ∈ p.parts) : c.Covers query.arena.size part :=
    adjoins.covers_part tree here found member (fits part member)
  have found' : c.whole.get? body = some p := Comparison.whole_get? found
  have alone (other : p.isGroup = false) : query.bodyPartIds = [body] := by
    simp [bodyPartIds, here, found, Option.filter, other]
  have single (scope : Scope) (check : Scope → PatternId → Build Scope) :
      [body].foldlM check scope = check scope body := by
    rw [List.foldlM_cons]
    exact bind_pure _
  cases owns : p.ownsLabels with
  | false =>
      have other : p.isGroup = false := by
        cases p <;> first | rfl | cases owns
      rw [alone other, single]
      refine .checkChild (c := c) found owns ?_
      refine c.parallel_checkPattern checkSub ?_ adjoins.levels_le []
      exact Comparison.covers_of_fits (c := c) (tree.sound.body here).fits fun next _ =>
        standIn_of_other here found owns next
  | true =>
      have stands : body' = c.owner body := (standIn_of_owns here found owns).symm
      rw [Arena.levels, checkPattern]
      refine .pattern_bind (c := c) found (Pattern.plain_of_ownsLabels owns) ?_
      cases p with
      | triple t =>
          rw [alone rfl, single]
          refine .idle_bind (c := c) (Comparison.idle_pattern found' rfl) ?_
          exact c.parallel_checkTriple [] t stands
      | group children =>
          have parts : query.bodyPartIds = children := by
            simp [bodyPartIds, here, found, Option.filter, Pattern.isGroup, Pattern.children]
          rw [parts]
          refine c.parallel_foldlM [] fun child member scope => ?_
          have cover := cover (List.mem_append_left _ member)
          refine c.parallel_checkChild cover scope ?_ stands
          refine c.parallel_checkPattern checkSub cover ?_ scope
          exact Nat.le_of_lt adjoins.levels_le
      | collection head cells =>
          rw [alone rfl, single]
          refine .idle_bind (c := c) (Comparison.idle_pattern found' rfl) ?_
          refine c.parallel_checkCells [] (fun cell member => ?_) stands
          exact (cover (List.mem_append_left _ member)).exists_get?
      | _ => cases owns

theorem parallel_checkBody :
    adjoins.comparison.Parallel (checkBody check) (checkBody check) (· = ·) := by
  let c := adjoins.comparison
  refine c.parallel_get_bind fun query₁ query₂ holds => ?_
  have body₂ : query₂.clauses.body = some body' := holds.body_eq.2.trans adjoins.body_eq
  have body₁ : query₁.clauses.body = query.clauses.body := holds.body_eq.1
  rw [body₁, body₂]
  cases here : query.clauses.body with
  | none =>
      have parts : query.bodyPartIds = [] := by simp [bodyPartIds, here]
      have nothing : c.Parallel (pure []) (query.bodyPartIds.foldlM
          (checkChild check c.whole.size body') []) (· = ·) := by
        rw [parts]
        exact c.parallel_pure rfl
      have checked := adjoins.parallel_parts check nothing query₁ query₂ holds
      rw [← holds.levels_eq.2] at checked
      exact checked
  | some body =>
      have old := adjoins.parallel_oldBody tree here check
      have checked := adjoins.parallel_parts check old query₁ query₂ holds
      have levels : query₁.arena.levels = query.arena.levels := holds.levels_eq.1
      rw [← holds.levels_eq.2, ← levels] at checked
      exact checked

/-! ## Templates -/

omit tree in
/-- The triples below the new body are those below the old one, and those of the descriptions, which
have no labels. -/
theorem skips {ids ids' : List PatternId} (old : query.arena.Gathers query.bodyPartIds ids)
    (gathers : query'.arena.Gathers [body'] ids') : adjoins.comparison.Skips ids ids' := by
  cases gathers with
  | triple here _ => cases here.symm.trans adjoins.group
  | parts here other inside onward =>
      cases here.symm.trans adjoins.group
      cases onward
      rw [List.append_nil]
      rcases Arena.Gathers.of_append inside with ⟨first, second, rfl, parts, optionals⟩
      rcases (old.of_added adjoins.patterns).unique parts with rfl
      refine ⟨fun id member => List.mem_append_left _ member, fun id member => ?_⟩
      refine (List.mem_append.mp member).imp_right fun described t found => ?_
      rcases optionals.mem_iff.mp described with ⟨_, isOptional, contains, triple⟩
      rcases List.mem_map.mp isOptional with ⟨made, isMade, rfl⟩
      rcases (adjoins.unlabelled made isMade).gathers with ⟨cells, gathers, unlabelled⟩
      have isCell := gathers.mem_iff.mpr ⟨_, List.mem_singleton_self _, contains, triple⟩
      rcases unlabelled id isCell with ⟨t', found', none⟩
      rw [adjoins.whole_eq] at found
      cases found.symm.trans found'
      exact none

theorem parallel_bodyTriples :
    ∃ ids ids', adjoins.comparison.Skips ids ids' ∧
      adjoins.comparison.Parallel bodyTriples bodyTriples
        fun found found' => found = ids ∧ found' = ids' := by
  let c := adjoins.comparison
  rcases Arena.triplesBelow_ok adjoins.sound.fits with ⟨ids', collected', _⟩
  have gathers' := Arena.gathers_of_triplesBelow collected'
  rw [← adjoins.whole_eq] at collected'
  have bodies {query₁ query₂ : Query} (holds : c.Holds query₁ query₂) :
      query₁.clauses.body = query.clauses.body ∧ query₂.clauses.body = some body' :=
    ⟨holds.body_eq.1, holds.body_eq.2.trans adjoins.body_eq⟩
  cases here : query.clauses.body with
  | none =>
      have parts : query.bodyPartIds = [] := by simp [bodyPartIds, here]
      have nothing : query.arena.Gathers query.bodyPartIds [] := by
        rw [parts]
        exact .nil
      refine ⟨[], ids', adjoins.skips nothing gathers', ?_⟩
      refine c.parallel_get_bind fun query₁ query₂ holds => ?_
      rw [(bodies holds).1, (bodies holds).2, here]
      have found : c.Idle (inspect (·.triplesBelow body')) ids' := c.idle_triplesBelow collected'
      exact found.parallel ⟨rfl, rfl⟩ query₁ query₂ holds
  | some body =>
      rcases Arena.triplesBelow_ok (tree.sound.body here).fits with ⟨ids, collected, _⟩
      have gathers := gathers_bodyPartIds here (Arena.gathers_of_triplesBelow collected)
      refine ⟨ids, ids', adjoins.skips gathers gathers', ?_⟩
      refine c.parallel_get_bind fun query₁ query₂ holds => ?_
      rw [(bodies holds).1, (bodies holds).2, here]
      exact c.parallel_triplesBelow collected collected' query₁ query₂ holds

/-! ## Projection -/

theorem parallel_bodyVariables (explicit : query.clauses.selectAll = false) :
    adjoins.comparison.Parallel bodyVariables bodyVariables adjoins.comparison.Binds := by
  let c := adjoins.comparison
  have agree (vars vars' : List Variable) : c.Binds vars vars' := .inr ⟨explicit, fun _ => rfl⟩
  refine c.parallel_get_bind fun query₁ query₂ holds => ?_
  have body₁ : query₁.clauses.body = query.clauses.body := holds.body_eq.1
  have body₂ : query₂.clauses.body = some body' := holds.body_eq.2.trans adjoins.body_eq
  have sound' : query₂.arena.Sound body' := by
    have sound := adjoins.sound
    rw [← adjoins.whole_eq] at sound
    exact sound.of_keepsParts holds.keepsParts.2
  rcases Arena.addBindable_ok sound'.fits [] with ⟨vars', found'⟩
  have found' : query₂.arena.bindable body' = .ok vars' := found'
  rw [body₁, body₂]
  cases here : query.clauses.body with
  | none =>
      dsimp only
      rw [Comparison.Agrees, run_inspect, found']
      exact ⟨agree [] vars', holds⟩
  | some body =>
      have sound := (tree.sound.body here).of_keepsParts holds.keepsParts.1
      rcases Arena.addBindable_ok sound.fits [] with ⟨vars, found⟩
      have found : query₁.arena.bindable body = .ok vars := found
      dsimp only
      rw [Comparison.Agrees, run_inspect, run_inspect, found, found']
      exact ⟨agree vars vars', holds⟩

/-! ## Checks -/

theorem parallel_checkRest (explicit : query.clauses.selectAll = false) :
    adjoins.comparison.Parallel (Comparison.checkRest check) (Comparison.checkRest check)
      (· = ·) := by
  let c := adjoins.comparison
  rcases adjoins.parallel_bodyTriples tree with ⟨ids, ids', skips, triples⟩
  have clauses := adjoins.clauses
  refine c.parallel_checkRest (adjoins.parallel_checkBody tree) ?_ ?_ fun scope => ?_
  · refine c.parallel_checkGroundData ?_ fun template context here => ?_
    · change groundTemplate? query'.clauses = groundTemplate? query.clauses
      rw [clauses]
      rfl
    · exact tree.sound template (List.mem_append_right _ (groundTemplate_mem here))
  · have same : query'.templates = query.templates ++ [] := by
      rw [Query.templates, Query.templates, clauses, List.append_nil]
    refine c.parallel_checkTemplates triples skips (fun template member => ?_) same
      (List.forall_mem_nil _)
    exact adjoins.covers_root tree (List.mem_append_right _ member)
  · refine c.parallel_checkSelect check scope (adjoins.parallel_bodyVariables tree explicit) ?_
    exact fun all => absurd all (Bool.eq_false_iff.mp explicit)

include adjoins in
theorem errors_check (explicit : query.clauses.selectAll = false) :
    (check.after query').log.entries.filter Diagnostic.isError =
        (check.after query).log.entries.filter Diagnostic.isError ∧
      (check.after query').log.correct = (check.after query).log.correct := by
  let c := adjoins.comparison
  have holds : c.Holds { query with blankOwners := [] } { query' with blankOwners := [] } := by
    refine ⟨rfl, adjoins.patterns_eq, rfl, ?_, ?_, ?_, ?_, adjoins.options, rfl⟩
    · have select : query'.clauses.select = query.clauses.select := by rw [adjoins.clauses]
      dsimp only
      rw [← select]
      rfl
    · exact fun id member => adjoins.covers_root tree (List.mem_append_left _ member)
    · rw [adjoins.log]
    · rw [adjoins.log]
  have resembles := c.resembles_check (adjoins.parallel_checkRest tree explicit) holds
    adjoins.checked
  have errors (diagnostics : List Diagnostic) :
      (diagnostics.filter c.counts).filter Diagnostic.isError =
        diagnostics.filter Diagnostic.isError := by
    rw [List.filter_filter]
    refine List.filter_congr fun diagnostic _ => ?_
    cases error : diagnostic.isError with
    | false => rfl
    | true => exact c.counts_of_isError diagnostic error
  refine ⟨?_, resembles.correct⟩
  rw [← errors, resembles.reports, errors]

end Adjoins

end Query

namespace Build

variable {query : Query}

/-! ## Described queries -/

theorem unlabelled_of_descriptions {arena : Arena Query} {terms : List Expr}
    {descriptions : List Description}
    (are : List.Forall₂ (Description.Of arena) terms descriptions)
    (plain : ∀ term ∈ terms, term.blankLabel? = none)
    (vars : ∀ v ∈ descriptions.flatMap (·.vars), v.blank = false) :
    ∀ made ∈ descriptions, made.Unlabelled arena := by
  induction are with
  | nil => simp
  | @cons term made _ _ is _ induction =>
      rw [List.flatMap_cons, List.forall_mem_append] at vars
      rw [List.forall_mem_cons] at plain ⊢
      exact ⟨is.unlabelled plain.1 vars.1, induction plain.2 vars.2⟩

theorem exists_adjoins (sound : query.Sound) (explicit : query.clauses.selectAll = false)
    (plain : ∀ term ∈ query.clauses.describe, term.blankLabel? = none) :
    ∃ descriptions body' query', normalizeDescribe.run query = .ok () query' ∧
      query.Adjoins descriptions body' query' := by
  rcases (ends_sound_normalizeDescribe sound).exists_ok with ⟨⟨⟩, query', run, sound'⟩
  rcases (ends_normalizeDescribe query).of_ok run with ⟨⟨descriptions, shape⟩, rebuilt⟩
  have rest : query'.rest = query.rest := (keepsRest_normalizeDescribe query rfl).of_ok run
  have named : query.named query.bound = query.clauses.describe := by
    simp [Query.named, explicit]
  have missing : query.missing query.bound = [] := by simp [Query.missing, explicit]
  rw [named, missing] at rebuilt
  rw [named] at shape
  rcases shape.body with ⟨body', here, fresh, group⟩
  have unmarked : ∀ v ∈ descriptions.flatMap (·.vars), v.blank = false := by
    rw [shape.vars]
    intro v member
    rcases List.mem_map.mp member with ⟨number, _, rfl⟩
    rfl
  have log : query'.rest.log = query.rest.log := by rw [rest]
  have options : query'.rest.options = query.rest.options := by rw [rest]
  have checked : query'.rest.checked = query.rest.checked := by rw [rest]
  refine ⟨descriptions, body', query', run, rebuilt.patterns, ?_, fresh, sound'.body here, group,
    ?_, log, options, checked⟩
  · rw [rebuilt.clauses, Clauses.selecting_nil, ← here]
  · refine unlabelled_of_descriptions shape.of (fun term member => ?_) unmarked
    exact plain term (List.mem_filter.mp member).1

theorem isTree_settled (tree : query.IsTree) : (withNormalized query).settled.IsTree := by
  have rephrased := (withNormalized query).rephrased_settled
  refine tree.congr rephrased.roots ?_
  rcases rephrased with ⟨change, keeps, patterns, _⟩
  have parts : (withNormalized query).arena.patterns.map Pattern.parts =
      query.arena.patterns.map Pattern.parts := map_normalizePatterns _ fun _ _ => rfl
  rw [patterns, List.map_map, ← parts]
  exact List.map_congr_left fun p _ => p.parts_mapValues keeps

theorem run_bringIntoForm_describe {query' : Query}
    (run : normalizeDescribe.run (query.inForm .describe) = .ok () query') :
    bringIntoForm.run (query.inForm .describe) = .ok () { query' with normalized := true } := by
  have form : normalizeForm.run (query.inForm .describe) = .ok () query' := run
  rw [bringIntoForm, EStateM.run_bind, form]
  rfl

def SameErrors (log log' : Log) : Prop :=
  log'.entries.filter Diagnostic.isError = log.entries.filter Diagnostic.isError ∧
    log'.correct = log.correct

theorem check_forms (sound : query.Sound) (explicit : query.clauses.selectAll = false)
    (form form' : QueryForm) :
    (check.after (query.inForm form)).log = (check.after (query.inForm form')).log := by
  have projects (form : QueryForm) : query.clauses.selectAll = true →
      (form != .describe) = (query.clauses.form != .describe) :=
    fun all => absurd all (Bool.eq_false_iff.mp explicit)
  have looks := (Query.check_inForm sound form (projects form)).log
  exact looks.trans (Query.check_inForm sound form' (projects form')).log.symm

/-- A query whose patterns form a tree reports the same errors whether it asks for descriptions or
for solutions, when no described term is a blank node and the projection is explicit. -/
theorem described_errors (lenient : query.options.strict = false) (tree : query.IsTree)
    (explicit : query.clauses.selectAll = false)
    (plain : ∀ term ∈ query.clauses.describe, term.blankLabel? = none) :
    (normalize.after (query.inForm .describe)).log =
        (normalize.after (query.inForm .select)).log ∧
      SameErrors (check.after (normalize.after (query.inForm .select))).log
        (check.after (normalize.after (query.inForm .describe))).log := by
  by_cases old : query.normalized = true
  · have old (form : QueryForm) : (query.inForm form).normalized = true := old
    rw [after_of_run_ok (run_normalize_of_normalized (old .describe)),
      after_of_run_ok (run_normalize_of_normalized (old .select)),
      check_forms tree.sound explicit .describe .select]
    exact ⟨rfl, rfl, rfl⟩
  · have new := Bool.eq_false_iff.mpr old
    rcases run_normalize_inForm lenient new with ⟨failure, log, stuck⟩ | formed
    · have sound : ({ withNormalized query with log } : Query).Sound :=
        sound_withNormalized tree.sound
      rw [after_of_run_error (stuck .describe), after_of_run_error (stuck .select),
        check_forms sound explicit .describe .select]
      exact ⟨rfl, rfl, rfl⟩
    · let settled := (withNormalized query).settled
      have clauses : ∃ change, settled.clauses = query.clauses.mapValues change := by
        rcases (withNormalized query).rephrased_settled with ⟨change, _, _, clauses, _⟩
        exact ⟨change, clauses⟩
      rcases clauses with ⟨change, clauses⟩
      have explicit' : settled.clauses.selectAll = false := by
        rw [clauses]
        exact explicit
      have plain' : ∀ term ∈ settled.clauses.describe, term.blankLabel? = none := by
        rw [clauses]
        exact plain
      have tree' : settled.IsTree := isTree_settled tree
      have sound : (settled.inForm .describe).Sound := tree'.sound
      rcases exists_adjoins sound explicit' plain' with
        ⟨descriptions, body', described, run, adjoins⟩
      let selecting : Query := { settled.inForm .select with normalized := true }
      have adjoins' : selecting.Adjoins descriptions body' { described with normalized := true } :=
        { adjoins with }
      have describes := (formed .describe).trans (run_bringIntoForm_describe run)
      have selects : normalize.run (query.inForm .select) = .ok () selecting := formed .select
      rw [after_of_run_ok describes, after_of_run_ok selects]
      exact ⟨adjoins.log, adjoins'.errors_check ⟨tree'.allocated, tree'.unique⟩ explicit'⟩

/-- A query that describes what is known about a blank node, which is known in an optional part
too. -/
def describingShared : Query :=
  (Operation.describe (.var (.ofName "x"))).run.after
    ((Operation.select (.ofName "x") none).run.after
      ((Operation.setBody 1).run.after
        ((Operation.addToGroup 1 4).run.after
          ((Operation.optional 3).run.after
            ((Operation.group [2]).run.after
              ((Operation.triple (.var (.ofBlank "b")) { node := .const (.iri "q") }
                (.var (.ofName "y"))).run.after aboutBlank))))))

theorem describingShared_errors :
    describingShared.options.strict = false ∧ describingShared.IsTree ∧
      describingShared.clauses.selectAll = false ∧
      (∀ term ∈ describingShared.clauses.describe, term.blankLabel? = none) ∧
      (normalize.after (describingShared.inForm .describe)).log =
        (normalize.after (describingShared.inForm .select)).log ∧
      SameErrors (check.after (normalize.after (describingShared.inForm .select))).log
        (check.after (normalize.after (describingShared.inForm .describe))).log ∧
      (check.after (normalize.after (describingShared.inForm .describe))).log.entries.map
        (·.code) = [.blankNodeScope] := by
  have tree : describingShared.IsTree := ⟨by decide, by decide⟩
  have plain : ∀ term ∈ describingShared.clauses.describe, term.blankLabel? = none := by
    intro term member
    rcases List.mem_singleton.mp member with rfl
    rfl
  rcases described_errors rfl tree rfl plain with ⟨log, errors⟩
  exact ⟨rfl, tree, rfl, plain, log, errors, by decide +kernel⟩

end Build

end Sparql
