import Sparql.Proofs.Bindable.Projected
import Sparql.Proofs.Build.Operations
import Sparql.Proofs.Check.Returns
import Sparql.Proofs.Lockstep

/-!
What a check leaves in scope after the body, against the projection of a query that projects all.
All of it is projected, but for the variables that stand for the endpoints of services: these are in
scope, and are not among what the body can bind: `scope_check`.
-/

namespace Sparql

/-! ## Scopes -/

theorem Variable.occursIn_of_mem {v : Variable} {vars : List Variable} (member : v ∈ vars) :
    v.occursIn vars = true :=
  occursIn_iff.mpr (List.mem_map_of_mem member)

theorem Scope.mem_foldl_bind {v : Variable} {vars : List Variable} {scope : Scope}
    (member : v ∈ vars.foldl bind scope) : v ∈ scope ∨ v ∈ vars ∧ v.path = false := by
  induction vars generalizing scope with
  | nil => exact .inl member
  | cons w rest induction =>
      rcases induction member with bound | ⟨later, plain⟩
      · rw [bind] at bound
        split at bound
        · exact .inl bound
        · next plain =>
            rw [Variable.addTo] at bound
            split at bound
            · exact .inl bound
            · rcases List.mem_append.mp bound with old | new
              · exact .inl old
              · cases List.mem_singleton.mp new
                exact .inr ⟨List.mem_cons_self, Bool.eq_false_iff.mpr plain⟩
      · exact .inr ⟨List.mem_cons_of_mem w later, plain⟩

/-! ## Patterns -/

namespace Pattern

variable {Sub : Type}

def inner : Pattern Sub → List PatternId
  | group children => children
  | collection _ cells => cells
  | service _ _ body | graph _ body => [body]
  | _ => []

def endpoint? : Pattern Sub → Option Variable
  | service endpoint _ _ => endpoint.asVariable?
  | _ => none

theorem inner_subset_sources (p : Pattern Sub) : p.inner ⊆ p.sources := by
  cases p with
  | group _ | collection _ _ | service _ _ _ | graph _ _ => exact List.Subset.refl _
  | _ => exact List.nil_subset _

theorem cases_visible {p : Pattern Query} {visibleOf : PatternId → List Variable} {v : Variable}
    (visible : v ∈ p.visible visibleOf) :
    v ∈ p.own (·.afterCheck.clauses.selected) ∨ p.endpoint? = some v ∨
      ∃ part ∈ p.inner, v ∈ visibleOf part := by
  cases p with
  | triple t => exact .inl visible
  | group children => exact .inr (.inr (List.mem_flatMap.mp visible))
  | collection head cells => exact .inr (.inr (List.mem_flatMap.mp visible))
  | bind value target => exact .inl (List.mem_filter.mp visible).1
  | values table => exact .inl visible
  | service endpoint silent body =>
      rcases List.mem_append.mp visible with here | inside
      · exact .inr (.inl (Option.mem_toList.mp here))
      · exact .inr (.inr ⟨body, List.mem_singleton_self body, inside⟩)
  | graph name body =>
      rcases List.mem_append.mp visible with here | inside
      · exact .inl here
      · exact .inr (.inr ⟨body, List.mem_singleton_self body, inside⟩)
  | subquery sub => exact .inl visible
  | union _ _ | optional _ | minus _ | filter _ => exact absurd visible List.not_mem_nil

theorem mem_visible {p : Pattern Query} {visibleOf : PatternId → List Variable} {v : Variable}
    (shown : p.endpoint? = some v ∨ ∃ part ∈ p.inner, v ∈ visibleOf part) :
    v ∈ p.visible visibleOf := by
  cases p with
  | group children | collection head cells =>
      exact List.mem_flatMap.mpr (shown.resolve_left nofun)
  | service endpoint silent body | graph name body =>
      simp_all [endpoint?, inner, visible]
  | _ => simp_all [endpoint?, inner]

end Pattern

namespace Arena

def Keeps {Sub : Type} (arena : Arena Sub) : PatternId → PatternId → Prop :=
  Relation.ReflTransGen fun id next => ∃ p, arena.get? id = some p ∧ next ∈ p.inner

/-- The variable stands for the endpoint of a service, and stays in scope after the pattern. -/
def KeepsEndpoint {Sub : Type} (arena : Arena Sub) (root : PatternId) (v : Variable) : Prop :=
  ∃ id p, arena.Keeps root id ∧ arena.get? id = some p ∧ p.endpoint? = some v

variable {arena : Arena Query}

theorem cases_visibleAt {levels : Nat} {id : PatternId} {v : Variable}
    (visible : v ∈ arena.visibleAt levels id) :
    v ∈ arena.bindsAt (·.afterCheck.clauses.selected) levels id ∨ arena.KeepsEndpoint id v := by
  induction levels generalizing id with
  | zero => exact absurd visible List.not_mem_nil
  | succ levels induction =>
      rw [visibleAt] at visible
      rw [bindsAt]
      cases found : arena.get? id with
      | none =>
          rw [found] at visible
          exact absurd visible List.not_mem_nil
      | some p =>
          rw [found] at visible
          rcases Pattern.cases_visible visible with own | endpoint | ⟨part, member, inside⟩
          · exact .inl (List.mem_append_left _ own)
          · exact .inr ⟨id, p, .refl, found, endpoint⟩
          · rcases induction inside with bound | ⟨next, p', keeps, found', endpoint⟩
            · have source := p.inner_subset_sources member
              exact .inl (List.mem_append_right _ (List.mem_flatMap.mpr ⟨part, source, bound⟩))
            · exact .inr ⟨next, p', .head ⟨p, found, member⟩ keeps, found', endpoint⟩

theorem KeepsEndpoint.visible {root : PatternId} {v : Variable} (sound : arena.Sound root)
    (endpoint : arena.KeepsEndpoint root v) : v ∈ arena.visible root := by
  rcases endpoint with ⟨id, p, keeps, found, here⟩
  induction keeps using Relation.ReflTransGen.head_induction_on with
  | refl =>
      rw [visible_eq sound.fits found]
      exact Pattern.mem_visible (.inl here)
  | @head root part inside _ induction =>
      rcases inside with ⟨whole, found', member⟩
      have source := whole.sources_subset_parts (whole.inner_subset_sources member)
      rw [visible_eq sound.fits found']
      exact Pattern.mem_visible (.inr ⟨part, member, induction (sound.of_mem_parts found' source)⟩)

end Arena

/-! ## Queries -/

namespace Query

variable {query : Query}

/-- The projection of a query that projects all has just what it had, what the body binds and the
variables of the table. -/
theorem ProjectsBy.occursIn {offered : Query → List Variable} {clauses : Clauses}
    (projects : query.ProjectsBy offered clauses) (all : query.clauses.projectsAll = true)
    (v : Variable) :
    v.occursIn clauses.selected =
      v.occursIn (query.clauses.selected ++ query.bodyBinds offered ++ query.tableVars) := by
  rw [projects.2, offering, if_pos all, Variable.occursIn_unseen, Variable.occursIn_append,
    Variable.occursIn_append, Variable.occursIn_append, Bool.or_assoc]

theorem Midway.opens {mid : Query} {body : PatternId}
    (midway : query.Midway (query.arena.entered [body]) mid) (sound : query.arena.Sound body) :
    Build.Opens query query.arena.levels body := by
  refine ⟨sound.fits, fun next sub reaches found => ?_⟩
  have entered : next ∈ query.arena.entered [body] :=
    ⟨⟨body, List.mem_singleton_self body, reaches⟩, sub, found⟩
  rcases midway.get?_done entered found with ⟨_, correct, run⟩
  exact ⟨correct, run, Build.checked_of_run_check run⟩

/-- The variable stands for the endpoint of a service, and stays in scope after the body. -/
def KeepsEndpoint (query : Query) (v : Variable) : Prop :=
  ∃ body, query.clauses.body = some body ∧ query.arena.KeepsEndpoint body v

theorem occursIn_bodyBinds {v : Variable} (seen : v.isVisible = true)
    (visible : v ∈ query.clauses.body.toList.flatMap query.arena.visible) :
    v.occursIn (query.bodyBinds (·.afterCheck.clauses.selected)) = true ∨
      query.KeepsEndpoint v := by
  rcases List.mem_flatMap.mp visible with ⟨body, here, shown⟩
  rcases Arena.cases_visibleAt shown with bound | endpoint
  · have binds : v.occursIn (query.arena.binds (·.afterCheck.clauses.selected) body) = true := by
      have occurs := Variable.occursIn_of_mem (List.mem_filter.mpr ⟨bound, seen⟩)
      rw [← List.nil_append (query.arena.binds _ body), Arena.binds, Variable.occursIn_unseen,
        occurs, Bool.or_true]
    rw [bodyBinds, Option.mem_toList.mp here]
    exact .inl (by simpa using binds)
  · exact .inr ⟨body, Option.mem_toList.mp here, endpoint⟩

end Query

namespace Build

variable {query mid : Query} {scope : Scope}

theorem scope_of_run_checkBody (reachable : query.Reachable) (lenient : query.Lenient)
    (sound : ∀ body, query.clauses.body = some body → query.arena.Sound body)
    (run : (checkBody check).run { query with blankOwners := [] } = .ok scope mid)
    (midway : query.Midway (query.arena.entered query.clauses.body.toList) mid) :
    scope = (query.clauses.body.toList.flatMap query.arena.visible).foldl Scope.bind [] := by
  rw [checkBody, EStateM.run_bind, EStateM.run_get] at run
  dsimp only at run
  cases here : query.clauses.body with
  | none =>
      rw [here] at run
      cases run
      rfl
  | some body =>
      rw [here] at run midway
      -- A subquery leaves in scope what its own check projected, so it has to be checked by now.
      have opens := midway.opens (sound body here)
      have writes : Writes query (checkFrom check [] body)
          (· = (query.arena.visible body).foldl Scope.bind []) (query.arena.notes [] body) :=
        writes_checkFrom reachable.cellsAreTriples.here opens fun _ => rfl
      simpa using ((writes _ lenient.begun).of_ok run).1

/-- A check that gets through a query that projects all leaves nothing in scope after the body but
what is projected then, and the variables that stand for endpoints of services. These are in scope
too, and they are projected only if they were before, or if the body or the table after it binds
them otherwise. A check that is made again checks nothing. -/
theorem scope_check {query query' : Query} {correct : Bool} (reachable : query.Reachable)
    (lenient : query.Lenient) (all : query.clauses.selectAll = true)
    (form : query.clauses.form ≠ .describe)
    (sound : ∀ body, query.clauses.body = some body → query.arena.Sound body)
    (run : check.run query = .ok correct query') :
    query.checked = true ∧ query' = query ∨
      ∃ scope mid, (checkBody check).run { query with blankOwners := [] } = .ok scope mid ∧
        (∀ v ∈ scope, v.blank = false →
          v.occursIn query'.clauses.selected = true ∨ query.KeepsEndpoint v) ∧
        ∀ v, query.KeepsEndpoint v → v.path = false →
          v.occursIn scope = true ∧
          v.occursIn query'.clauses.selected =
            v.occursIn (query.clauses.selected ++
              query.bodyBinds (·.afterCheck.clauses.selected) ++ query.tableVars) := by
  by_cases old : query.checked = true
  · rw [run_check_of_checked old] at run
    cases run
    exact .inl ⟨old, rfl⟩
  have projectsAll : query.clauses.projectsAll = true := by simp [Clauses.projectsAll, all, form]
  rcases exists_run_checkBody (Bool.eq_false_iff.mpr old) run with
    ⟨scope, mid, through, midway, projects⟩
  have holds := scope_of_run_checkBody reachable lenient sound through midway
  refine .inr ⟨scope, mid, through, fun v member named => ?_, fun v endpoint plain => ⟨?_, ?_⟩⟩
  · rw [holds] at member
    rcases (Scope.mem_foldl_bind member).resolve_left List.not_mem_nil with ⟨visible, plain⟩
    have seen : v.isVisible = true := by simp [Variable.isVisible, named, plain]
    refine (query.occursIn_bodyBinds seen visible).imp_left fun bound => ?_
    rw [projects.occursIn projectsAll, Variable.occursIn_append, Variable.occursIn_append, bound,
      Bool.or_true, Bool.true_or]
  · rcases endpoint with ⟨body, here, endpoint⟩
    have visible := endpoint.visible (sound body here)
    have ordinary : v ∈ Scope.ordinary (query.clauses.body.toList.flatMap query.arena.visible) := by
      rw [here]
      simpa [Scope.ordinary, plain] using visible
    rw [holds, Scope.occursIn_foldl_bind, Variable.occursIn_of_mem ordinary, Bool.or_true]
  · exact projects.occursIn projectsAll v

/-- A query that projects all of a triple at a service with a variable endpoint. -/
def allOfService : Query :=
  (Operation.setSelectAll true).run.after
    ((Operation.setBody 1).run.after
      ((Operation.service (.var (.ofName "ep")) false 0).run.after
        ((Operation.triple (.var (.ofName "x")) { node := .const (.iri "p") }
          (.var (.ofName "y"))).run.after {})))

theorem allOfService_reachable : allOfService.Reachable := by
  have empty : Query.Reachable {} := .empty {} _ _ _
  exact .step _ (.step _ (.step _ (.step _ empty trivial nofun) trivial nofun) trivial nofun)
    trivial nofun

theorem allOfService_sound (body : PatternId) (here : allOfService.clauses.body = some body) :
    allOfService.arena.Sound body := by
  cases here
  have descends : allOfService.arena.Descends := by decide
  exact descends.sound (by decide)

theorem allOfService_scope :
    allOfService.Reachable ∧ allOfService.Lenient ∧ allOfService.clauses.selectAll = true ∧
      allOfService.clauses.form ≠ .describe ∧
      ∃ correct query' scope mid, check.run allOfService = .ok correct query' ∧
        (checkBody check).run { allOfService with blankOwners := [] } = .ok scope mid ∧
        (∀ v ∈ scope, v.blank = false →
          v.occursIn query'.clauses.selected = true ∨ allOfService.KeepsEndpoint v) ∧
        Variable.occursIn (.ofName "ep") scope = true := by
  have run : ∃ correct, check.run allOfService = .ok correct (check.after allOfService) :=
    exists_run_of_returns (by decide +kernel)
  rcases run with ⟨correct, run⟩
  have form : allOfService.clauses.form ≠ .describe := by decide
  refine ⟨allOfService_reachable, rfl, rfl, form, correct, check.after allOfService, ?_⟩
  rcases scope_check allOfService_reachable rfl rfl form allOfService_sound run with
    ⟨old, _⟩ | ⟨scope, mid, through, projected, endpoints⟩
  · cases old
  · have endpoint : allOfService.KeepsEndpoint (.ofName "ep") := ⟨1, rfl, 1, _, .refl, rfl, rfl⟩
    exact ⟨scope, mid, run, through, projected, (endpoints _ endpoint rfl).1⟩

theorem allOfService_unprojected :
    allOfService.Reachable ∧ allOfService.options.strict = false ∧
      allOfService.clauses.form = .select ∧ allOfService.clauses.selectAll = true ∧
      (∀ body, allOfService.clauses.body = some body → allOfService.arena.Sound body) ∧
      check.returns allOfService = true ∧
      ((checkBody check).outcome { allOfService with blankOwners := [] }).1.toOption =
        some [.ofName "ep", .ofName "x", .ofName "y"] ∧
      (check.after allOfService).clauses.selected = [.ofName "x", .ofName "y"] := by
  refine ⟨allOfService_reachable, rfl, rfl, rfl, allOfService_sound, ?_, ?_, ?_⟩ <;> decide +kernel

end Build

end Sparql
