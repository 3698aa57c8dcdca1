import Sparql.Proofs.Check.Surveys

/-!
What a check is made of: it adds reports, says which pattern each blank label belongs to, checks
subqueries and puts them back, projects more variables, and notes that the query is checked. What
each of these preserves is preserved by the check: `preserves_checkWith`.
-/

namespace Sparql.Build

def MayTell (query : Query) (diagnostic : Diagnostic) : Prop :=
  (∃ p : Problem, diagnostic = p.toDiagnostic) ∨
    ∃ id sub, query.arena.get? id = some (.subquery sub) ∧ diagnostic ∈ sub.log.entries

/-- Whatever a check does by a single step before it completes the projection, it keeps to the
invariant. -/
structure ClosedUnderVisits (checkSub : Build Bool) (invariant : Query → Prop)
    (fails : Failure → Query → Prop) : Prop where
  report : ∀ diagnostic query, invariant query → MayTell query diagnostic →
    Ends (report diagnostic) query (fun _ => invariant) fails
  own : ∀ query owners, invariant query → invariant { query with blankOwners := owners }
  part : ∀ (query : Query) id sub, invariant query →
    query.arena.get? id = some (.subquery sub) →
    Ends checkSub sub
      (fun _ sub' => invariant { query with arena := query.arena.set id (.subquery sub') })
      fun failure sub' =>
        fails failure { query with arena := query.arena.set id (.subquery sub') }
  other : ∀ query failure, invariant query → failure.isStrict = false → fails failure query

theorem ClosedUnderVisits.and {checkSub : Build Bool} {invariant invariant' : Query → Prop}
    {fails : Failure → Query → Prop} (left : ClosedUnderVisits checkSub invariant fails)
    (right : ClosedUnderVisits checkSub invariant' fails) :
    ClosedUnderVisits checkSub (fun query => invariant query ∧ invariant' query) fails where
  report diagnostic query holds told :=
    ((left.report diagnostic query holds.1 told).and
      (right.report diagnostic query holds.2 told)).imp
      (fun _ _ ends => ends) fun _ _ ends => ends.1
  own query owners holds := ⟨left.own query owners holds.1, right.own query owners holds.2⟩
  part query id sub holds found :=
    ((left.part query id sub holds.1 found).and (right.part query id sub holds.2 found)).imp
      (fun _ _ ends => ends) fun _ _ ends => ends.1
  other query failure holds plain := left.other query failure holds.1 plain

/-- Whatever a check does by a single step, it keeps to the invariant. -/
structure ClosedUnderCheck (checkSub : Build Bool) (invariant : Query → Prop)
    (fails : Failure → Query → Prop) : Prop
    extends visits : ClosedUnderVisits checkSub invariant fails where
  project : ∀ vars, Preserves invariant fails (projectAll vars)
  done : ∀ query, invariant query → invariant { query with checked := true }

section

variable {checkSub : Build Bool} {invariant : Query → Prop} {fails : Failure → Query → Prop}

section

variable (closed : ClosedUnderVisits checkSub invariant fails)

include closed

/-! ## Reports and blank nodes -/

theorem preserves_problem (p : Problem) : Preserves invariant fails (problem p) :=
  fun query holds => closed.report _ query holds (.inl ⟨p, rfl⟩)

theorem preserves_look {α : Type} {look : Arena Query → Except Failure α} (plain : Plain look) :
    Preserves invariant fails (inspect look) :=
  preserves_inspect fun query _ holds failed => closed.other query _ holds (plain _ _ failed)

theorem preserves_pattern (id : PatternId) : Preserves invariant fails (pattern id) :=
  preserves_look closed (plain_get id)

theorem preserves_checkBlank (label : String) (owner : PatternId) :
    Preserves invariant fails (checkBlank label owner) := by
  refine preserves_get_bind fun query holds => ?_
  split
  · exact closed.own query _ holds
  · split
    · exact holds
    · exact preserves_problem closed _ query holds

theorem ends_relay {query sub : Query} {id : PatternId} (holds : invariant query)
    (found : query.arena.get? id = some (.subquery sub)) {entries : List Diagnostic}
    (told : ∀ entry ∈ entries, entry ∈ sub.log.entries) :
    Ends (forM entries report) query (fun _ => invariant) fails := by
  induction entries generalizing query with
  | nil => exact holds
  | cons entry rest induction =>
      have kept : Ends (report entry) query
          (fun _ query' => query'.arena.get? id = some (.subquery sub)) fun _ _ => True := by
        rw [ends_report]
        split
        · trivial
        · exact found
      have may : MayTell query entry := .inr ⟨id, sub, found, told entry (List.mem_cons_self ..)⟩
      rw [List.forM_cons]
      refine (((closed.report entry query holds may).and kept).imp (fun _ _ both => both)
        fun _ _ => And.left).bind ?_
      rintro _ query' ⟨holds', found'⟩
      exact induction holds' found' fun entry member => told entry (List.mem_cons_of_mem _ member)

theorem Surveys.preserves {α : Type} {x : Build α} (surveys : Surveys checkSub x) :
    Preserves invariant fails x := by
  induction surveys with
  | pure value => exact preserves_pure value
  | throw plain => exact preserves_throw fun query holds => closed.other query _ holds plain
  | problem _ => exact preserves_problem closed _
  | blank label owner => exact preserves_checkBlank closed label owner
  | hear id =>
      intro query holds
      rw [Build.hear, ends_bind, ends_pattern]
      split
      · next p found =>
          split
          · next sub =>
              have inner := closed.part query id sub holds found
              split
              · next failure sub' run => exact inner.of_error run
              · next correct sub' run =>
                  have replaced : (query.arena.set id (.subquery sub')).get? id =
                      some (.subquery sub') :=
                    (Arena.get?_set found id).trans (if_pos rfl)
                  rw [ends_bind, ends_modify]
                  exact (ends_relay closed (inner.of_ok run) replaced fun _ told => told).bind
                    fun _ _ holds' => holds'
          · exact holds
      · exact closed.other query _ holds rfl
  | ask _ _ rest => exact preserves_get_bind fun query => rest query query
  | bind _ _ first rest => exact first.bind rest

theorem preserves_checkTriple (scope : Scope) (t : Triple) (owner : PatternId) :
    Preserves invariant fails (checkTriple scope t owner) :=
  (surveys_checkTriple scope t owner).preserves closed

theorem preserves_checkTable (scope : Scope) (table : InlineData) :
    Preserves invariant fails (checkTable scope table) :=
  (surveys_checkTable scope table).preserves closed

theorem preserves_checkPattern (levels : Nat) (scope : Scope) (id : PatternId) :
    Preserves invariant fails (checkPattern checkSub levels scope id) :=
  (surveys_checkPattern levels scope id).preserves closed

theorem preserves_checkFrom (scope : Scope) (root : PatternId) :
    Preserves invariant fails (checkFrom checkSub scope root) :=
  (surveys_checkFrom scope root).preserves closed

theorem preserves_checkBody : Preserves invariant fails (checkBody checkSub) :=
  surveys_checkBody.preserves closed

theorem preserves_checkGroundData : Preserves invariant fails checkGroundData :=
  surveys_checkGroundData.preserves closed

theorem preserves_checkTemplates : Preserves invariant fails checkTemplates :=
  surveys_checkTemplates.preserves closed

theorem preserves_checkItem (bodyVars : List Variable) (scope : Scope) (item : Projection) :
    Preserves invariant fails (checkItem checkSub bodyVars scope item) :=
  (surveys_checkItem bodyVars scope item).preserves closed

theorem preserves_checkTrailing (bodyVars : List Variable) (scope : Scope) :
    Preserves invariant fails (checkTrailing bodyVars scope) :=
  (surveys_checkTrailing bodyVars scope).preserves closed

theorem preserves_checkItems (bodyVars : List Variable) (items : List Projection)
    (scope : Scope) :
    Preserves invariant fails (discard (items.foldlM (checkItem checkSub bodyVars) scope)) :=
  (surveys_checkItems bodyVars items scope).preserves closed

/-! ## Projection and grouping -/

theorem preserves_bodyVariables : Preserves invariant fails bodyVariables := by
  refine preserves_get_bind fun query holds => ?_
  split
  · exact preserves_look closed (plain_bindable _) query holds
  · exact holds

theorem preserves_checkGrouping : Preserves invariant fails checkGrouping := by
  refine preserves_get_bind fun query holds => ?_
  dsimp only
  split
  · exact holds
  · exact preserves_forM (fun v _ => preserves_problem closed _) query holds

end

/-! ## Queries -/

variable (closed : ClosedUnderCheck checkSub invariant fails)

include closed

theorem preserves_checkSelect (scope : Scope) :
    Preserves invariant fails (checkSelect checkSub scope) := by
  refine (preserves_bodyVariables closed.visits).bind fun bodyVars => ?_
  refine (preserves_checkTrailing closed.visits bodyVars scope).bind fun found => ?_
  refine preserves_get_bind fun query holds => ?_
  refine (Preserves.bind ?_ fun _ => ?_) query holds
  · exact preserves_checkItems closed.visits _ _ _
  · refine preserves_get_bind fun query holds => ?_
    dsimp only
    split
    · exact closed.project _ query holds
    · exact holds

theorem preserves_checkWith : Preserves invariant fails (checkWith checkSub) := by
  have verdict : Preserves invariant fails (do return (← get).log.correct) :=
    preserves_get_bind fun _ => id
  refine preserves_get_bind fun query holds => ?_
  split
  · exact verdict query holds
  · refine ((preserves_modify fun query => closed.own query []).bind fun _ => ?_) query holds
    refine (preserves_checkBody closed.visits).bind fun scope => ?_
    refine (preserves_checkGroundData closed.visits).bind fun _ => ?_
    refine (preserves_checkTemplates closed.visits).bind fun _ => ?_
    refine (preserves_checkSelect closed scope).bind fun _ => ?_
    refine (preserves_checkGrouping closed.visits).bind fun _ => ?_
    exact (preserves_modify closed.done).bind fun _ => verdict

end

end Sparql.Build
