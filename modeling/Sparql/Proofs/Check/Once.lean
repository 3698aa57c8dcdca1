import Sparql.Proofs.Check.Repeated

/-!
How often a shared label is reported. A check looks before it reports one itself, but passes on what
its subqueries report without a look: `sharedOnce_check`.
-/

namespace Sparql

/-! ## Reports about a label -/

/-- What is added to a list holds of no more than one element exactly if it does so far, and the
rest only brings elements of which it holds where there is none before. -/
theorem countP_append_le_one {α : Type} (holds : α → Bool) (values added : List α) :
    (values ++ added).countP holds ≤ 1 ↔
      values.countP holds ≤ 1 ∧ ∀ before value rest, added = before ++ value :: rest →
        holds value = true → (values ++ before).any holds = false := by
  induction added generalizing values with
  | nil =>
      rw [List.append_nil]
      refine ⟨fun few => ⟨few, fun before value rest equal => ?_⟩, And.left⟩
      exact absurd equal.symm (List.append_ne_nil_of_right_ne_nil before nofun)
  | cons first added induction =>
      have none : values.any holds = false ↔ values.countP holds = 0 := by
        rw [List.countP_eq_zero, List.any_eq_false]
      have here : (values ++ [first]).countP holds ≤ 1 ↔
          values.countP holds ≤ 1 ∧ (holds first = true → values.any holds = false) := by
        rw [List.countP_append, List.countP_singleton, none]
        split
        · next holdsFirst =>
            simp only [holdsFirst, true_imp_iff]
            omega
        · next fails => simp [fails]
      rw [List.append_cons, induction, here, and_assoc]
      refine and_congr_right fun _ => ⟨fun all before value rest equal => ?_, fun all => ⟨?_, ?_⟩⟩
      · cases before with
        | nil =>
            cases equal
            rw [List.append_nil]
            exact all.1
        | cons head before =>
            cases equal
            rw [List.append_cons]
            exact all.2 before value rest rfl
      · have start := all [] first added rfl
        rwa [List.append_nil] at start
      · intro before value rest equal
        rw [← List.append_cons]
        exact all (first :: before) value rest (by rw [equal, List.cons_append])

theorem Problem.eq_blankShared {p : Problem} {label : String}
    (shares : p.toDiagnostic.sharesLabel label = true) : p = .blankShared label := by
  rcases (Bool.and_eq_true _ _).mp shares with ⟨code, subject⟩
  cases p with
  | blankShared label' =>
      have equal : label' = label := Option.some.inj (beq_iff_eq.mp subject)
      rw [equal]
  | _ => cases code

/-- What a query tells of a shared label itself is told only once. So there is more than one report
only if there was before, or if a report is passed on when there is one already. -/
theorem Query.Tells.countP_le_one_iff {query query' : Query} {told : List Told}
    (tells : query.Tells told query') (label : String) :
    query'.log.entries.countP (·.sharesLabel label) ≤ 1 ↔
      query.log.entries.countP (·.sharesLabel label) ≤ 1 ∧
        ∀ before id report rest, told = before ++ .relayed id report :: rest →
          report.sharesLabel label = true →
          (query.log.entries ++ before.map Told.report).any (·.sharesLabel label) = false := by
  rw [tells.entries, countP_append_le_one]
  refine and_congr_right fun _ => ⟨fun all before id report rest equal shares => ?_,
    fun all before report rest equal shares => ?_⟩
  · refine all (before.map Told.report) report (rest.map Told.report) ?_ shares
    rw [equal, List.map_append, List.map_cons]
    rfl
  · rcases List.map_eq_append_iff.mp equal with ⟨before', tail, rfl, rfl, equal'⟩
    rcases List.map_eq_cons_iff.mp equal' with ⟨here, rest', rfl, rfl, rfl⟩
    cases here with
    | relayed id report => exact all before' id report rest' rfl shares
    | own p =>
        obtain rfl := Problem.eq_blankShared shares
        exact tells.once before' label rest' rfl

namespace Build

/-! ## Checks -/

/-- Whatever a check comes to, there is at most one report of a shared label after it exactly if
there was at most one before, and none is passed on from a subquery when the label was reported
already. -/
theorem sharedOnce_check (query : Query) :
    ∃ told, query.Tells told (check.after query) ∧ ∀ label,
      (check.after query).log.entries.countP (·.sharesLabel label) ≤ 1 ↔
        query.log.entries.countP (·.sharesLabel label) ≤ 1 ∧
          ∀ before id report rest, told = before ++ .relayed id report :: rest →
            report.sharesLabel label = true →
            (query.log.entries ++ before.map Told.report).any (·.sharesLabel label) = false := by
  rcases exists_tells_check query with ⟨told, tells⟩
  exact ⟨told, tells, tells.countP_le_one_iff⟩

theorem sharedOnce_of_parts {query : Query} {label : String}
    (before : query.log.entries.countP (·.sharesLabel label) ≤ 1)
    (parts : ∀ id sub, (check.after query).arena.get? id = some (.subquery sub) →
      sub.log.entries.any (·.sharesLabel label) = false) :
    (check.after query).log.entries.countP (·.sharesLabel label) ≤ 1 := by
  rcases exists_tells_check query with ⟨told, tells⟩
  refine (tells.countP_le_one_iff label).mpr ⟨before, fun before id report rest equal shares => ?_⟩
  have member : Told.relayed id report ∈ told := by simp [equal]
  rcases tells.relayed id report member with ⟨sub, found, _, reported⟩
  exact absurd shares (List.any_eq_false.mp (parts id sub found) report reported)

def sharingAround : Query :=
  (Operation.setBody 6).run.after
    ((Operation.group [4, 5]).run.after
      ((Operation.subquery (sharingLabel {})).run.after (sharingLabel {})))

theorem sharingAround_unchecked : sharingAround.Unchecked := by
  refine .step _ (.step _ (.step _ (sharingLabel_unchecked {}) nofun ?_) nofun nofun) nofun nofun
  intro sub equal
  cases equal
  exact sharingLabel_unchecked {}

theorem sharingAround_twice :
    sharingAround.Reachable ∧ sharingAround.options.strict = false ∧
      (∃ correct, check.run sharingAround = .ok correct (check.after sharingAround)) ∧
      sharingAround.log.entries = [] ∧
      (check.after sharingAround).log.entries =
        [(Problem.blankShared "_:b").toDiagnostic, (Problem.blankShared "_:b").toDiagnostic] ∧
      ¬ (check.after sharingAround).log.entries.countP (·.sharesLabel "_:b") ≤ 1 :=
  ⟨sharingAround_unchecked.reachable, rfl, exists_run_of_returns (by decide +kernel), rfl,
    by decide +kernel, by decide +kernel⟩

end Build

end Sparql
