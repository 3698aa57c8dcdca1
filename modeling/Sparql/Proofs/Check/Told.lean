import Sparql.Proofs.Bindable.Projected
import Sparql.Proofs.Check.Surveys

/-!
What a run adds to the reports, one report at a time, and what it does when it goes the same way
again from a later state. A report of a shared label is the only one that it does not repeat, for it
finds the label reported; all else is as it was the first time. Runs that are composed of such runs
are such runs: `Retraces.bind`.
-/

namespace Sparql

/-! ## What is told -/

/-- A report that a check adds: about a problem of the query itself, or passed on from a
subquery. -/
inductive Told where
  | own (p : Problem)
  | relayed (id : PatternId) (report : Diagnostic)

namespace Told

def report : Told → Diagnostic
  | own p => p.toDiagnostic
  | relayed _ report => report

def isShared : Told → Bool
  | own (.blankShared _) => true
  | _ => false

def again (told : List Told) : List Told := told.filter (!·.isShared)

theorem again_append (told told' : List Told) : again (told ++ told') = again told ++ again told' :=
  List.filter_append ..

end Told

def Diagnostic.sharesLabel (label : String) (report : Diagnostic) : Bool :=
  report.code == .blankNodeScope && report.subject == some label

theorem Build.isReported_of_subset {log log' : Log} (subset : log.entries ⊆ log'.entries)
    {label : String} (reported : isReported log label = true) : isReported log' label = true := by
  rcases List.any_eq_true.mp reported with ⟨entry, member, shares⟩
  exact List.any_eq_true.mpr ⟨entry, subset member, shares⟩

/-- What a run told, from the query before it to the one after it. What is passed on is reported of
a subquery that is checked, and a shared label is told only if it was not reported before. -/
structure Query.Tells (query : Query) (told : List Told) (query' : Query) : Prop where
  entries : query'.log.entries = query.log.entries ++ told.map Told.report
  relayed : ∀ id report, .relayed id report ∈ told → ∃ sub,
    query'.arena.get? id = some (.subquery sub) ∧ sub.checked = true ∧ report ∈ sub.log.entries
  once : ∀ before label rest, told = before ++ .own (.blankShared label) :: rest →
    (query.log.entries ++ before.map Told.report).any (·.sharesLabel label) = false

/-! ## Later states -/

/-- Each pattern is as it was, but for subqueries that were not checked. -/
structure Arena.Advances (arena arena' : Arena Query) : Prop where
  size : arena'.size = arena.size
  kept : ∀ id p, arena.get? id = some p → arena'.get? id = some p ∨
    ∃ sub sub', p = .subquery sub ∧ sub.checked = false ∧ arena'.get? id = some (.subquery sub')

namespace Arena.Advances

variable {arena arena' arena'' : Arena Query}

theorem refl (arena : Arena Query) : arena.Advances arena := ⟨rfl, fun _ _ found => .inl found⟩

theorem trans (first : arena.Advances arena') (second : arena'.Advances arena'') :
    arena.Advances arena'' where
  size := second.size.trans first.size
  kept id p found := by
    rcases first.kept id p found with same | ⟨sub, sub', rfl, unchecked, found'⟩
    · exact second.kept id p same
    · refine .inr ⟨sub, ?_⟩
      rcases second.kept id _ found' with same | ⟨_, sub'', _, _, found''⟩
      · exact ⟨sub', rfl, unchecked, same⟩
      · exact ⟨sub'', rfl, unchecked, found''⟩

theorem get?_none (advances : arena.Advances arena') {id : PatternId}
    (missing : arena.get? id = none) : arena'.get? id = none := by
  have outside : arena.size ≤ id := List.getElem?_eq_none_iff.mp missing
  exact List.getElem?_eq_none_iff.mpr (advances.size.le.trans outside)

theorem get?_plain (advances : arena.Advances arena') {id : PatternId} {p : Pattern Query}
    (found : arena.get? id = some p) (plain : p.isSubquery = false) : arena'.get? id = some p := by
  rcases advances.kept id p found with same | ⟨_, _, rfl, _, _⟩
  · exact same
  · cases plain

theorem get?_checked (advances : arena.Advances arena') {id : PatternId} {sub : Query}
    (found : arena.get? id = some (.subquery sub)) (checked : sub.checked = true) :
    arena'.get? id = some (.subquery sub) := by
  rcases advances.kept id _ found with same | ⟨_, _, equal, unchecked, _⟩
  · exact same
  · cases equal
    rw [checked] at unchecked
    cases unchecked

theorem frame (advances : arena.Advances arena') :
    arena'.patterns.map Pattern.plain? = arena.patterns.map Pattern.plain? := by
  refine List.ext_getElem? fun id => ?_
  rw [List.getElem?_map, List.getElem?_map]
  change (arena'.get? id).map _ = (arena.get? id).map _
  cases found : arena.get? id with
  | none => rw [advances.get?_none found]
  | some p =>
      rcases advances.kept id p found with same | ⟨sub, sub', rfl, _, found'⟩
      · rw [same]
      · rw [found']; rfl

theorem set {id : PatternId} {sub : Query} (found : arena.get? id = some (.subquery sub))
    (query' : Query) (unchecked : sub.checked = false) :
    arena.Advances (arena.set id (.subquery query')) where
  size := Arena.size_set ..
  kept id' p found' := by
    rw [Arena.get?_set found]
    split
    · next same =>
        subst same
        rw [found] at found'
        cases found'
        exact .inr ⟨sub, query', rfl, unchecked, rfl⟩
    · exact .inl found'

end Arena.Advances

theorem Arena.set_same {Sub : Type} {arena : Arena Sub} {id : PatternId} {p : Pattern Sub}
    (found : arena.get? id = some p) : arena.set id p = arena := by
  rcases List.getElem?_eq_some_iff.mp found with ⟨inside, equal⟩
  rw [set, ← equal, List.set_getElem_self]

/-- The clauses with the projection completed by the variables, if it is to be completed. -/
def Clauses.completedBy (vars : List Variable) (clauses : Clauses) : Clauses :=
  if clauses.projectsAll then
    { clauses with
      select := clauses.select ++
        (Variable.unseen clauses.selected vars).map ({ target := · }) }
  else clauses

namespace Clauses

theorem core_completedBy (vars : List Variable) (clauses : Clauses) :
    (clauses.completedBy vars).core = clauses.core := by
  rw [completedBy]
  split <;> rfl

theorem projectsAll_completedBy (vars : List Variable) (clauses : Clauses) :
    (clauses.completedBy vars).projectsAll = clauses.projectsAll := by
  rw [completedBy]
  split <;> rfl

theorem completedBy_completedBy (vars : List Variable) (clauses : Clauses) :
    (clauses.completedBy vars).completedBy vars = clauses.completedBy vars := by
  by_cases all : clauses.projectsAll = true
  · have none : Variable.unseen
        (clauses.selected ++ Variable.unseen clauses.selected vars) vars = [] := by
      refine List.eq_nil_iff_forall_not_mem.mpr fun v member => ?_
      have absent := (Variable.nodup_unseen _ vars).2 v member
      have here : v.occursIn vars = true :=
        Variable.occursIn_iff.mpr
          (List.mem_map_of_mem ((Variable.unseen_sublist _ vars).subset member))
      rw [Variable.occursIn_unseen, here, Bool.or_true] at absent
      cases absent
    have selected : (clauses.completedBy vars).selected =
        clauses.selected ++ Variable.unseen clauses.selected vars := by
      rw [completedBy, if_pos all, Clauses.selected, List.map_append, List.map_map]
      exact congrArg _ (List.map_id _)
    rw [completedBy, projectsAll_completedBy, if_pos all, selected, none, List.map_nil,
      List.append_nil]
  · rw [completedBy, projectsAll_completedBy, if_neg all]

end Clauses

/-- A later state of a query that is being checked, once or repeatedly. The projection may have been
completed meanwhile. -/
structure Query.Onward (vars : List Variable) (query query' : Query) : Prop where
  options : query'.options = query.options
  checked : query'.checked = query.checked
  entries : query.log.entries ⊆ query'.log.entries
  arena : query.arena.Advances query'.arena
  clauses : query'.clauses = query.clauses ∨ query'.clauses = query.clauses.completedBy vars

namespace Query.Onward

variable {vars : List Variable} {query query' query'' : Query}

theorem refl (query : Query) : query.Onward vars query :=
  ⟨rfl, rfl, List.Subset.refl _, .refl _, .inl rfl⟩

theorem trans (first : query.Onward vars query') (second : query'.Onward vars query'') :
    query.Onward vars query'' where
  options := second.options.trans first.options
  checked := second.checked.trans first.checked
  entries := List.Subset.trans first.entries second.entries
  arena := first.arena.trans second.arena
  clauses := by
    rcases second.clauses with same | completed
    · rw [same]
      exact first.clauses
    · rcases first.clauses with same' | completed'
      · rw [completed, same']
        exact .inr rfl
      · rw [completed, completed', Clauses.completedBy_completedBy]
        exact .inr rfl

theorem reporting (onward : query.Onward vars query') (reports : List Diagnostic) :
    query.Onward vars (query'.reporting reports) where
  options := onward.options
  checked := onward.checked
  entries := by
    rw [entries_reporting]
    exact List.Subset.trans onward.entries (List.subset_append_left _ _)
  arena := onward.arena
  clauses := onward.clauses

theorem sharesFrame (onward : query.Onward vars query') : query.SharesFrame query' where
  arena := onward.arena.frame
  clauses := by
    rcases onward.clauses with same | completed
    · rw [same]
    · rw [completed, Clauses.core_completedBy]

end Query.Onward

/-! ## Composed runs -/

namespace Query.Tells

variable {query query' query'' : Query} {told told' : List Told}

theorem nil (same : query'.log = query.log) : query.Tells [] query' where
  entries := by rw [same, List.map_nil, List.append_nil]
  relayed _ _ := nofun
  once before _ _ equal := absurd equal.symm (List.append_ne_nil_of_right_ne_nil before nofun)

theorem append (first : query.Tells told query') (second : query'.Tells told' query'')
    (advances : query'.arena.Advances query''.arena) : query.Tells (told ++ told') query'' where
  entries := by rw [second.entries, first.entries, List.map_append, List.append_assoc]
  relayed id report member := by
    rcases List.mem_append.mp member with member | member
    · rcases first.relayed id report member with ⟨sub, found, checked, reported⟩
      exact ⟨sub, advances.get?_checked found checked, checked, reported⟩
    · exact second.relayed id report member
  once before label rest equal := by
    rcases List.append_eq_append_iff.mp equal with ⟨between, rfl, equal'⟩ | ⟨between, equal', tail⟩
    · rw [List.map_append, ← List.append_assoc, ← first.entries]
      exact second.once between label rest equal'
    · cases between with
      | nil =>
          rw [List.append_nil] at equal'
          subst equal'
          rw [← first.entries]
          have here := second.once [] label rest tail.symm
          rwa [List.map_nil, List.append_nil] at here
      | cons head between =>
          rw [List.cons_append] at tail
          cases tail
          exact first.once before label between equal'

end Query.Tells

def Problem.BeforeGrouping (p : Problem) : Prop := ∀ v, p ≠ .notGroupKey v

def Failure.isShared : Failure → Bool
  | strict diagnostic => diagnostic.code == .blankNodeScope
  | _ => false

/-- A check that fails does so once more, unless it stopped at a shared label. -/
def Query.FailsAgain (query : Query) : Prop :=
  ∀ failure query', Build.check.run query = .error failure query' → failure.isShared = false →
    ∃ query'', Build.check.run query' = .error failure query''

def Query.PartsFailAgain (query : Query) : Prop :=
  ∀ id sub, query.arena.get? id = some (.subquery sub) → sub.FailsAgain

namespace Build

variable {α β : Type} {vars : List Variable} {allowed : Problem → Prop}

/-- The operation ends as before when it starts again from a later state with the owners of labels
that it had. If it failed, the subqueries have to be as it left them. -/
def Repeats (vars : List Variable) (x : Build α) (query : Query) (told : List Told) : Prop :=
  match x.run query with
  | .ok value query' => ∀ later, query'.Onward vars later →
      x.run { later with blankOwners := query.blankOwners } =
        .ok value (Query.reporting { later with blankOwners := query'.blankOwners }
          ((Told.again told).map Told.report))
  | .error failure query' => failure.isShared = false → ∀ later, query'.Onward vars later →
      later.arena = query'.arena →
      ∃ later', x.run { later with blankOwners := query.blankOwners } = .error failure later' ∧
        later'.log.entries = later.log.entries ++ (Told.again told).map Told.report

/-- The operation tells this, and does the same again. -/
structure Retraces (vars : List Variable) (allowed : Problem → Prop) (x : Build α) (query : Query)
    (told : List Told) : Prop where
  tells : query.Tells told (x.after query)
  onward : query.Onward vars (x.after query)
  own : ∀ p, .own p ∈ told → allowed p
  repeats : Repeats vars x query told

namespace Retraces

variable {query : Query} {told : List Told}

theorem imp {allowed' : Problem → Prop} {x : Build α}
    (retraces : Retraces vars allowed x query told) (imp : ∀ p, allowed p → allowed' p) :
    Retraces vars allowed' x query told :=
  { retraces with own := fun p member => imp p (retraces.own p member) }

theorem pure (value : α) : Retraces vars allowed (pure value) query [] where
  tells := .nil rfl
  onward := .refl query
  own _ := nofun
  repeats _ _ := rfl

theorem throw (failure : Failure) :
    Retraces vars allowed (throw failure : Build α) query [] where
  tells := .nil rfl
  onward := .refl query
  own _ := nofun
  repeats _ _ _ _ := ⟨_, rfl, (List.append_nil _).symm⟩

theorem bind_error {x : Build α} {next : α → Build β} {failure : Failure} {query' : Query}
    (first : Retraces vars allowed x query told) (run : x.run query = .error failure query') :
    Retraces vars allowed (x >>= next) query told := by
  have repeats := first.repeats
  have after : (x >>= next).after query = x.after query := by
    rw [Build.after, Build.after, EStateM.run_bind, run]
  refine ⟨after ▸ first.tells, after ▸ first.onward, first.own, ?_⟩
  rw [Repeats, run] at repeats
  rw [Repeats, EStateM.run_bind, run]
  intro unshared later onward same
  rcases repeats unshared later onward same with ⟨later', run', entries⟩
  exact ⟨later', by rw [EStateM.run_bind, run'], entries⟩

theorem repeats_bind {x : Build α} {next : α → Build β} {value : α} {query' : Query}
    {told' : List Told} (first : Repeats vars x query told) (run : x.run query = .ok value query')
    (second : Retraces vars allowed (next value) query' told') :
    Repeats vars (x >>= next) query (told ++ told') := by
  have repeats := second.repeats
  have onward := second.onward
  rw [Repeats, run] at first
  rw [Build.after] at onward
  rw [Repeats] at repeats
  have here (later : Query) (onward : query'.Onward vars later) :
      (x >>= next).run { later with blankOwners := query.blankOwners } =
        (next value).run { later.reporting ((Told.again told).map Told.report) with
          blankOwners := query'.blankOwners } := by
    rw [EStateM.run_bind, first later onward]
    rfl
  rw [Repeats, EStateM.run_bind, run]
  dsimp only
  cases run' : (next value).run query' with
  | ok value' query'' =>
      rw [run'] at repeats onward
      intro later onward'
      rw [here later (onward.trans onward'), repeats _ (onward'.reporting _), Told.again_append,
        List.map_append]
      exact congrArg _ (Query.reporting_append
        { later with blankOwners := query''.blankOwners } _ _).symm
  | error failure query'' =>
      rw [run'] at repeats onward
      intro unshared later onward' same
      rcases repeats unshared (later.reporting ((Told.again told).map Told.report))
        (onward'.reporting _) same with ⟨later', run'', entries⟩
      refine ⟨later', (here later (onward.trans onward')).trans run'', ?_⟩
      rw [entries, Query.entries_reporting, Told.again_append, List.map_append, List.append_assoc]

theorem bind {x : Build α} {next : α → Build β} (first : Retraces vars allowed x query told)
    (second : ∀ value query', x.run query = .ok value query' →
      ∃ told', Retraces vars allowed (next value) query' told') :
    ∃ told', Retraces vars allowed (x >>= next) query told' := by
  cases run : x.run query with
  | error failure query' => exact ⟨told, first.bind_error run⟩
  | ok value query' =>
      rcases second value query' run with ⟨told', second⟩
      have after : (x >>= next).after query = (next value).after query' := by
        rw [Build.after, Build.after, EStateM.run_bind, run]
      have tells := first.tells
      have onward := first.onward
      rw [after_of_run_ok run] at tells onward
      refine ⟨told ++ told', ?_, ?_, fun p member => ?_, repeats_bind first.repeats run second⟩
      · rw [after]
        exact tells.append second.tells second.onward.arena
      · rw [after]
        exact onward.trans second.onward
      · exact (List.mem_append.mp member).elim (first.own p) (second.own p)

theorem of_run {x y : Build α} {query' : Query} (retraces : Retraces vars allowed y query' told)
    (owners : query'.blankOwners = query.blankOwners) (log : query'.log = query.log)
    (onward : query.Onward vars query') (same : x.run query = y.run query')
    (again : ∀ later, (y.after query').Onward vars later →
      x.run { later with blankOwners := query.blankOwners } =
        y.run { later with blankOwners := query.blankOwners }) :
    Retraces vars allowed x query told := by
  have after : x.after query = y.after query' := by
    rw [Build.after, Build.after, same]
  refine ⟨⟨?_, ?_, ?_⟩, ?_, retraces.own, ?_⟩
  · rw [after, ← log]
    exact retraces.tells.entries
  · rw [after]
    exact retraces.tells.relayed
  · rw [← log]
    exact retraces.tells.once
  · rw [after]
    exact onward.trans retraces.onward
  · have repeats := retraces.repeats
    rw [Build.after] at again
    rw [Repeats, owners] at repeats
    rw [Repeats, same]
    cases run : y.run query' with
    | ok value query'' =>
        rw [run] at repeats again
        intro later onward
        rw [again later onward]
        exact repeats later onward
    | error failure query'' =>
        rw [run] at repeats again
        intro unshared later onward arena
        rw [again later onward]
        exact repeats unshared later onward arena

theorem run_get_bind (next : Query → Build α) (query : Query) :
    (get >>= next).run query = (next query).run query := by
  rw [EStateM.run_bind, EStateM.run_get]

theorem ask {next : Query → Build α}
    (framed : ∀ query query', query.SharesFrame query' → next query' = next query)
    (retraces : Retraces vars allowed (next query) query told) :
    Retraces vars allowed (get >>= next) query told := by
  refine retraces.of_run rfl rfl (.refl query) (run_get_bind next query) fun later onward => ?_
  have shares := (retraces.onward.trans onward).sharesFrame
  rw [run_get_bind, framed query { later with blankOwners := query.blankOwners }
    ⟨shares.arena, shares.clauses⟩]

theorem inspect {look : Arena Query → Except Failure α}
    (settled : ∀ later, query.Onward vars later → look later.arena = look query.arena) :
    Retraces vars allowed (inspect look) query [] := by
  cases looked : look query.arena with
  | ok value =>
      refine (Retraces.pure value).of_run rfl rfl (.refl query) ?_ fun later onward => ?_
      · rw [run_inspect, looked]
        rfl
      · rw [run_inspect, settled later onward, looked]
        rfl
  | error failure =>
      refine (Retraces.throw failure).of_run rfl rfl (.refl query) ?_ fun later onward => ?_
      · rw [run_inspect, looked]
        rfl
      · rw [run_inspect, settled later onward, looked]
        rfl

end Retraces

end Build

end Sparql
