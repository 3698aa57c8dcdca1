import Sparql.Proofs.Check.Returns
import Sparql.Proofs.Describe.Shape

/-!
Normalizing queries whose patterns are sound. It returns, and all patterns are sound then, those
that it adds included: `exists_run_normalize`.
-/

namespace Sparql

/-! ## Sound queries -/

namespace Query

variable {query query' : Query}

def roots (query : Query) : List PatternId := query.matched ++ query.templates

theorem mem_roots {root : PatternId} :
    root ∈ query.roots ↔ query.clauses.body = some root ∨ root ∈ query.selectTested ∨
      query.clauses.insert = some root ∨ query.clauses.delete = some root := by
  simp [roots, matched, templates]

theorem roots_of_clauses (clauses : query'.clauses = query.clauses) :
    query'.roots = query.roots := by
  rw [roots, roots, matched, matched, selectTested, selectTested, templates, templates, clauses]

theorem Sound.of_keepsParts (sound : query.Sound) (kept : query.arena.KeepsParts query'.arena)
    (roots : ∀ root ∈ query'.roots, root ∈ query.roots ∨ query'.arena.Sound root) :
    query'.Sound := by
  intro root member
  rcases roots root member with old | new
  · exact (sound root old).of_keepsParts kept
  · exact new

theorem Sound.body (sound : query.Sound) {body : PatternId}
    (here : query.clauses.body = some body) : query.arena.Sound body :=
  sound body (by simp [matched, here])

theorem Rephrased.roots (rephrased : query.Rephrased query') : query'.roots = query.roots := by
  rcases rephrased with ⟨change, keeps, _, clauses, _⟩
  have tested : query'.selectTested = query.selectTested := by
    rw [selectTested, selectTested, clauses, Clauses.mapValues, List.flatMap_map]
    refine List.flatMap_congr fun item _ => ?_
    cases item.value <;> simp [keeps]
  rw [Query.roots, Query.roots, matched, matched, templates, templates, tested, clauses]
  rfl

theorem Rephrased.sound (rephrased : query.Rephrased query') (sound : query.Sound) :
    query'.Sound := by
  have roots := rephrased.roots
  rcases rephrased with ⟨change, keeps, patterns, _, _⟩
  apply sound.of_keepsParts
  · apply Arena.keepsParts_of_map
    rw [patterns, List.map_map]
    exact List.map_congr_left fun p _ => p.parts_mapValues keeps
  · exact fun root member => .inl (roots ▸ member)

end Query

namespace Build

variable {query : Query}

theorem sound_withNormalized (sound : query.Sound) : (withNormalized query).Sound := by
  refine sound.of_keepsParts (Arena.keepsParts_of_map ?_) fun root member => .inl member
  exact map_normalizePatterns Pattern.parts fun _ _ => rfl

/-! ## Forms -/

theorem ends_templateOf {root : PatternId} (sound : query.arena.Sound root) :
    Ends (templateOf root) query
      (fun id query' => query.Extends 0 query' ∧ query'.arena.Sound id) fun _ _ => False := by
  rcases Arena.triplesBelow_ok sound.fits with ⟨ids, collected, triples⟩
  rw [templateOf, ends_bind, ends_inspect, collected]
  refine (ends_added (.group ids) query).imp ?_ fun _ _ => id
  rintro id query' ⟨added, _, found⟩
  refine ⟨added, Arena.sound_of_parts found fun part member => ?_⟩
  rw [Pattern.parts_group] at member
  exact (triples part member).sound.of_keepsParts (Arena.keepsParts_of_added added.patterns)

theorem ends_sound_normalizeConstruct (sound : query.Sound) :
    Ends normalizeConstruct query (fun _ query' => query'.Sound) fun _ _ => False := by
  rw [normalizeConstruct, ends_bind, ends_get]
  dsimp only
  split
  · exact sound
  · exact sound
  · next body _ _ here =>
      apply (ends_templateOf (sound.body here)).bind
      rintro template query' ⟨added, _⟩
      rw [modifyClauses, ends_modify]
      refine sound.of_keepsParts (Arena.keepsParts_of_added added.patterns) fun root member => ?_
      exact .inl (Query.roots_of_clauses added.clauses ▸ member)
  · exact sound

theorem ends_sound_normalizeDelete (sound : query.Sound) :
    Ends normalizeDelete query (fun _ query' => query'.Sound) fun _ _ => False := by
  rw [normalizeDelete, ends_bind, ends_get]
  dsimp only
  split
  · next body _ here =>
      apply (ends_templateOf (sound.body here)).bind
      rintro template query' ⟨added, new⟩
      rw [modifyClauses, ends_modify]
      refine sound.of_keepsParts (Arena.keepsParts_of_added added.patterns) fun root member => ?_
      rw [← Query.roots_of_clauses added.clauses]
      rw [Query.mem_roots] at member ⊢
      rcases member with body | tested | insert | delete
      · exact .inl (.inl body)
      · exact .inl (.inr (.inl tested))
      · exact .inl (.inr (.inr (.inl insert)))
      · exact .inr (Option.some.inj delete ▸ new)
  · exact sound

theorem sound_of_holdsAlone {arena : Arena Query} {id : PatternId} {nodes : List Expr}
    (holds : arena.HoldsAlone id nodes) : arena.Sound id := by
  rcases holds with ⟨cell, t, group, found, _, _⟩
  have triple : arena.HoldsTriple cell := ⟨t, found⟩
  refine Arena.sound_of_parts group fun part member => ?_
  rcases List.mem_singleton.mp member with rfl
  exact triple.sound

theorem sound_of_description {arena : Arena Query} {term : Expr} {made : Description}
    (holds : made.Of arena term) : arena.Sound made.optional := by
  rcases holds.either with ⟨outgoing, incoming, union, alone, alone'⟩
  have either : arena.Sound made.either := by
    refine Arena.sound_of_parts union fun part member => ?_
    rcases List.mem_pair.mp member with rfl | rfl
    · exact sound_of_holdsAlone alone
    · exact sound_of_holdsAlone alone'
  refine Arena.sound_of_parts holds.optional fun part member => ?_
  rcases List.mem_singleton.mp member with rfl
  exact either

theorem sound_of_descriptions {arena : Arena Query} {terms : List Expr}
    {descriptions : List Description}
    (are : List.Forall₂ (Description.Of arena) terms descriptions) :
    ∀ made ∈ descriptions, arena.Sound made.optional := by
  induction are with
  | nil => simp
  | cons is _ induction => exact List.forall_mem_cons.mpr ⟨sound_of_description is, induction⟩

theorem sound_of_mem_bodyPartIds (sound : query.Sound) :
    ∀ part ∈ query.bodyPartIds, query.arena.Sound part := by
  intro part member
  rcases List.mem_flatMap.mp member with ⟨body, here, inside⟩
  have whole := sound.body (Option.mem_toList.mp here)
  cases grouped : (query.arena.get? body).filter Pattern.isGroup with
  | none =>
      rw [grouped] at inside
      rcases List.mem_singleton.mp inside with rfl
      exact whole
  | some p =>
      rw [grouped] at inside
      have found := (Option.filter_eq_some_iff.mp grouped).1
      exact whole.of_mem_parts found (List.mem_append_left _ inside)

theorem ends_sound_normalizeDescribe (sound : query.Sound) :
    Ends normalizeDescribe query (fun _ query' => query'.Sound) fun _ _ => False := by
  apply (ends_normalizeDescribe query).imp
  · rintro _ query' ⟨⟨descriptions, shape⟩, rebuilt⟩
    have kept := Arena.keepsParts_of_added rebuilt.patterns
    rcases shape.body with ⟨body, here, _, group⟩
    have new : query'.arena.Sound body := by
      refine Arena.sound_of_parts group fun part member => ?_
      rw [Pattern.parts_group] at member
      rcases List.mem_append.mp member with old | described
      · exact (sound_of_mem_bodyPartIds sound part old).of_keepsParts kept
      · rcases List.mem_map.mp described with ⟨made, isMade, rfl⟩
        exact sound_of_descriptions shape.of made isMade
    have tested : query'.selectTested = query.selectTested := by
      rw [Query.selectTested, rebuilt.clauses]
      simp [Clauses.selecting, Query.selectTested, List.flatMap_map]
    refine sound.of_keepsParts kept fun root member => ?_
    rw [Query.mem_roots, tested, here, rebuilt.clauses] at member
    rw [Query.mem_roots]
    rcases member with equal | other
    · exact .inr (Option.some.inj equal ▸ new)
    · exact .inl (.inr other)
  · rintro failure _ ⟨body, failed, here, missed⟩
    rcases Arena.addBindable_ok (sound.body here).fits [] with ⟨vars, found⟩
    cases missed.symm.trans found

theorem ends_sound_normalizeForm (sound : query.Sound) :
    Ends normalizeForm query (fun _ query' => query'.Sound) fun _ _ => False := by
  rw [normalizeForm, ends_bind, ends_get]
  split
  · exact sound
  · exact sound
  · exact ends_sound_normalizeConstruct sound
  · exact ends_sound_normalizeDescribe sound
  · exact ends_sound_normalizeDelete sound
  · exact sound

end Build

/-! ## Trees of queries -/

namespace Query

theorem Everywhere.inheriting {query : Query} (checkable : query.Everywhere Checkable)
    (outer : List (String × Definition)) : (query.inheriting outer).Everywhere Checkable :=
  .intro ⟨checkable.here.lenient, checkable.here.sound⟩ fun _ => checkable.part

end Query

namespace Build

variable {query' : Query}

theorem sound_of_run_normalize (sound : query.Sound) (new : query.normalized = false)
    (run : normalize.run query = .ok () query') : query'.Sound := by
  rcases exists_formed new run with ⟨settled, formed, rephrased, formedRun, arena, clauses, _⟩
  have settledSound := rephrased.sound (sound_withNormalized sound)
  have formedSound : formed.Sound := (ends_sound_normalizeForm settledSound).of_ok formedRun
  refine formedSound.of_keepsParts ?_ fun root member => ?_
  · rw [arena]
    exact Arena.keepsParts_of_added (List.prefix_refl _)
  · exact .inl (Query.roots_of_clauses clauses ▸ member)

/-- The subqueries of a normalized query are those that it had, normalized with its functions. -/
theorem exists_run_of_completes (completes : Completes query query') {sub' : Query}
    (part : sub'.IsPartOf query') : ∃ sub : Query, sub.IsPartOf query ∧
      normalize.run (sub.inheriting query.functions.definitions) = .ok () sub' := by
  rcases completes with ⟨succeed, formed, shape, rfl⟩
  rcases part with ⟨id, found⟩
  have settled := (shape.alike.get?_iff rfl id).mp found
  have place := (Query.get?_settled_subquery _ sub' id).mp settled
  rcases exists_run_of_mem_normalizePatterns succeed (List.mem_of_getElem? place) with
    ⟨sub, member, run⟩
  exact ⟨sub, List.getElem?_of_mem member, run⟩

theorem run_normalize_of_normalized (old : query.normalized = true) :
    normalize.run query = .ok () query := by
  rw [run_normalize_eq, normalizeWith_eq, EStateM.run_bind, EStateM.run_get]
  dsimp only
  rw [if_pos old]
  rfl

/-- A query of sound patterns is normalized to one of sound patterns, whatever its form. The
induction is on the level of the query. -/
theorem exists_run_normalize (checkable : query.Everywhere Query.Checkable) :
    ∃ query', normalize.run query = .ok () query' ∧ query'.Everywhere Query.Checkable := by
  induction equal : query.level using Nat.strong_induction_on generalizing query with
  | h level induction =>
      have nested (sub : Query) (part : sub.IsPartOf query) :
          ∃ sub', normalize.run (sub.inheriting query.functions.definitions) = .ok () sub' ∧
            sub'.Everywhere Query.Checkable :=
        induction _ (equal ▸ level_inheriting_lt part _) ((checkable.part part).inheriting _) rfl
      by_cases old : query.normalized = true
      · exact ⟨query, run_normalize_of_normalized old, checkable⟩
      · have new := Bool.eq_false_iff.mpr old
        have lenient := checkable.here.lenient
        have sound := checkable.here.sound
        have succeed : failed? query = none := by
          by_contra failed
          rcases exists_error_of_normalizePatterns failed with ⟨sub, member, _, _, error⟩
          rcases nested sub (List.getElem?_of_mem member) with ⟨sub', run, _⟩
          cases run.symm.trans error
        have ends : Ends normalize query (fun _ => Completes query) fun _ _ => False := by
          refine (ends_normalize lenient new).imp (fun _ _ => id) fun _ query' halts => ?_
          rcases halts with ⟨failed, _⟩ | ⟨_, failure, _, unformed⟩
          · exact failed succeed
          · have rephrased := (withNormalized query).rephrased_settled
            have settled := rephrased.sound (sound_withNormalized sound)
            exact (ends_sound_normalizeForm settled).of_error unformed
        rcases ends.exists_ok with ⟨⟨⟩, query', run, completes⟩
        have options := takes_normalize.options_eq query
        rw [after_of_run_ok run] at options
        refine ⟨query', run, .intro ⟨?_, sound_of_run_normalize sound new run⟩ fun sub' part => ?_⟩
        · rw [Query.Lenient, options]
          exact lenient
        · rcases exists_run_of_completes completes part with ⟨sub, whole, run'⟩
          rcases nested sub whole with ⟨_, run, checkable'⟩
          cases run'.symm.trans run
          exact checkable'

end Build

end Sparql
