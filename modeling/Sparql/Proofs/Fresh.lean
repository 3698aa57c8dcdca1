import Sparql.Proofs.Check.Blanks
import Sparql.Proofs.Names

/-!
How fresh made-up names are. The names that calls on one query make up differ, but each query of a
tree counts its own: two queries share a label as soon as each has made up one, and a check then
takes the two blank nodes for one.
-/

namespace Sparql

/-! ## Histories -/

/-- A query is built by operations of some kind, and so are its subqueries. At each path, which
leads through subqueries by their ids, are the names that calls on the query there made up. -/
inductive Query.Mints (may : Operation → Prop) : Query → (List PatternId → List String) → Prop
  | empty (options : Options) (namespaces : Namespaces) (library : Regex.Library)
      (labelOrder : LabelOrder) :
      Mints may { options, namespaces, library, labelOrder } fun _ => []
  | step {query : Query} {names : List PatternId → List String} (operation : Operation)
      (before : Mints may query names) (allowed : may operation)
      (other : ∀ sub, operation ≠ .subquery sub) :
      Mints may (operation.run.after query)
        (Function.update names [] (names [] ++ operation.minted query))
  | embed {query sub : Query} {names names' : List PatternId → List String}
      (before : Mints may query names) (part : Mints may sub names') :
      Mints may ((Operation.subquery sub).run.after query) fun
        | [] => names []
        | id :: rest => if id = query.arena.size then names' rest else names (id :: rest)

namespace Query

variable {may : Operation → Prop} {query : Query} {names : List PatternId → List String}

theorem Mints.builtBy {may' : Operation → Prop} (mints : query.Mints may names)
    (weaker : ∀ operation, may operation → may' operation)
    (embeds : ∀ sub, may' (.subquery sub)) : query.BuiltBy may' := by
  induction mints with
  | empty options namespaces library labelOrder =>
    exact .empty options namespaces library labelOrder
  | step operation _ allowed other before =>
      exact .step operation before (weaker operation allowed) fun sub equal =>
        absurd equal (other sub)
  | @embed _ sub _ _ _ _ before part =>
      refine .step (.subquery sub) before (embeds sub) ?_
      intro sub' equal
      cases equal
      exact part

theorem Mints.silent {operation : Operation} (mints : query.Mints may names)
    (allowed : may operation) (other : ∀ sub, operation ≠ .subquery sub)
    (none : operation.minted query = []) : (operation.run.after query).Mints may names := by
  have step := Mints.step operation mints allowed other
  rwa [none, List.append_nil, Function.update_eq_self] at step

theorem BuiltBy.exists_mints (built : query.BuiltBy may) : ∃ names, query.Mints may names := by
  induction built with
  | empty options namespaces library labelOrder =>
    exact ⟨_, .empty options namespaces library labelOrder⟩
  | step operation _ allowed _ before parts =>
      rcases before with ⟨names, mints⟩
      by_cases embeds : ∃ sub, operation = .subquery sub
      · rcases embeds with ⟨sub, rfl⟩
        rcases parts sub rfl with ⟨names', mints'⟩
        exact ⟨_, .embed mints mints'⟩
      · exact ⟨_, .step operation mints allowed fun sub equal => embeds ⟨sub, equal⟩⟩

/-! ## Names of one query -/

/-- The names are those that the query counted: the labels without gaps, and the variables too
unless descriptions took some. -/
structure Counts (may : Operation → Prop) (query : Query) (names : List String) : Prop where
  kinds : ∀ text ∈ names, ∃ name : Name, name.text = text
  distinct : names.Nodup
  labels : ∀ number, (Name.blank number).text ∈ names ↔ number < query.supply.blanks
  vars : ∀ number, (Name.var number).text ∈ names → number < query.supply.vars
  allVars : ¬ may .normalize → ∀ number, number < query.supply.vars →
    (Name.var number).text ∈ names

theorem mem_minted {operation : Operation} {name : Name} :
    name.text ∈ operation.minted query ↔ name ∈ operation.taken query.supply := by
  rw [operation.minted_eq, List.mem_map_of_injective Name.text_injective]

theorem Counts.step {names : List String} (counts : query.Counts may names)
    {operation : Operation} (allowed : may operation) :
    (operation.run.after query).Counts may (names ++ operation.minted query) where
  kinds text member := by
    rcases List.mem_append.mp member with old | new
    · exact counts.kinds text old
    · rw [operation.minted_eq] at new
      rcases List.mem_map.mp new with ⟨name, _, equal⟩
      exact ⟨name, equal⟩
  distinct := by
    refine List.nodup_append'.mpr ⟨counts.distinct, ?_, ?_⟩
    · rw [operation.minted_eq]
      exact (operation.taken_nodup _).map Name.text_injective
    · intro text old new
      rw [operation.minted_eq] at new
      rcases List.mem_map.mp new with ⟨name, taken, rfl⟩
      cases name with
      | blank number =>
          have inside := (counts.labels number).mp old
          exact Nat.not_lt_of_le ((operation.blank_mem_taken_iff query number).mp taken).1 inside
      | var number =>
          have inside := counts.vars number old
          exact Nat.not_lt_of_le (Operation.var_mem_taken taken).1 inside
  labels number := by
    rw [List.mem_append, counts.labels, mem_minted, operation.blank_mem_taken_iff]
    have grows := operation.blanks_after_ge query
    omega
  vars number member := by
    rcases List.mem_append.mp member with old | new
    · exact Nat.lt_of_lt_of_le (counts.vars number old) (operation.vars_after_ge query)
    · exact (Operation.var_mem_taken (mem_minted.mp new)).2
  allVars never number inside := by
    have other : operation ≠ .normalize := fun equal => never (equal ▸ allowed)
    rw [List.mem_append, mem_minted, Operation.var_mem_taken_iff other]
    by_cases old : number < query.supply.vars
    · exact .inl (counts.allVars never number old)
    · exact .inr ⟨Nat.le_of_not_lt old, inside⟩

theorem Mints.counts (mints : query.Mints may names) : query.Counts may (names []) := by
  induction mints with
  | empty options namespaces library labelOrder =>
      refine ⟨nofun, List.nodup_nil, fun number => ?_, nofun, fun _ number inside => ?_⟩
      · exact iff_of_false List.not_mem_nil (Nat.not_lt_zero number)
      · exact absurd inside (Nat.not_lt_zero number)
  | step operation _ allowed _ before =>
      rw [Function.update_self]
      exact before.step allowed
  | embed _ _ before _ =>
      exact ⟨before.kinds, before.distinct, before.labels, before.vars, before.allVars⟩

theorem Mints.counts_at (mints : query.Mints may names) (path : List PatternId) :
    ∃ there : Query, there.Counts may (names path) := by
  induction mints generalizing path with
  | empty options namespaces library labelOrder =>
    exact ⟨_, (Mints.empty options namespaces library labelOrder).counts⟩
  | step operation before allowed other induction =>
      by_cases here : path = []
      · subst here
        exact ⟨_, (Mints.step operation before allowed other).counts⟩
      · rw [Function.update_of_ne here]
        exact induction path
  | embed before part induction induction' =>
      match path with
      | [] => exact induction []
      | id :: rest =>
          dsimp only
          split
          · exact induction' rest
          · exact induction (id :: rest)

theorem share_iff {counted : Nat → String} {texts texts' : List String} {count count' : Nat}
    (all : ∀ number, counted number ∈ texts ↔ number < count)
    (all' : ∀ number, counted number ∈ texts' ↔ number < count') :
    (∃ number, counted number ∈ texts ∧ counted number ∈ texts') ↔
      (∃ number, counted number ∈ texts) ∧ ∃ number, counted number ∈ texts' := by
  constructor
  · intro holds
    rcases holds with ⟨number, member, member'⟩
    exact ⟨⟨number, member⟩, ⟨number, member'⟩⟩
  · intro holds
    rcases holds with ⟨⟨number, member⟩, ⟨number', member'⟩⟩
    have inside := (all number).mp member
    have inside' := (all' number').mp member'
    exact ⟨0, (all 0).mpr (Nat.zero_lt_of_lt inside), (all' 0).mpr (Nat.zero_lt_of_lt inside')⟩

theorem Counts.vars_iff {names : List String} (counts : query.Counts may names)
    (never : ¬ may .normalize) (number : Nat) :
    (Name.var number).text ∈ names ↔ number < query.supply.vars :=
  ⟨counts.vars number, counts.allVars never number⟩

/-! ## Names of a tree -/

/-- The label is used by the query at the path, in a pattern that owns it. -/
def Uses (query : Query) (label : String) (path : List PatternId) : Prop :=
  ∃ owner, query.Occurs label (path ++ [owner])

/-- Each query of the tree uses labels that calls on it made up, each in one pattern only. -/
structure Anonymous (query : Query) (names : List PatternId → List String) : Prop where
  made : ∀ label path, query.Uses label path → label ∈ names path
  single : ∀ label path owner owner', query.Occurs label (path ++ [owner]) →
    query.Occurs label (path ++ [owner']) → owner = owner'

/-- When each query uses a label in one pattern only, a label is shared by queries or not at all. -/
theorem Anonymous.shared_iff (anonymous : query.Anonymous names) {label : String} :
    (∃ path path', path ≠ path' ∧ query.Occurs label path ∧ query.Occurs label path') ↔
      ∃ path path', path ≠ path' ∧ query.Uses label path ∧ query.Uses label path' := by
  constructor
  · intro holds
    rcases holds with ⟨path, path', differ, occurs, occurs'⟩
    rcases path.eq_nil_or_concat' with rfl | ⟨before, owner, rfl⟩
    · cases occurs
    rcases path'.eq_nil_or_concat' with rfl | ⟨before', owner', rfl⟩
    · cases occurs'
    refine ⟨before, before', ?_, ⟨owner, occurs⟩, ⟨owner', occurs'⟩⟩
    intro equal
    rcases equal with rfl
    exact differ (by rw [anonymous.single label before owner owner' occurs occurs'])
  · intro holds
    rcases holds with ⟨path, path', differ, ⟨owner, occurs⟩, ⟨owner', occurs'⟩⟩
    refine ⟨path ++ [owner], path' ++ [owner'], fun equal => differ ?_, occurs, occurs'⟩
    exact (List.append_inj' equal rfl).1

/-- The names of a tree of queries, and what a check makes of them. -/
structure FreshLaw (may : Operation → Prop) (query : Query)
    (names : List PatternId → List String) : Prop where
  kinds : ∀ path, ∀ text ∈ names path, ∃ name : Name, name.text = text
  /-- No two calls on one query make up the same name. -/
  distinct : ∀ path, (names path).Nodup
  /-- Two queries share a label exactly if each made up one. -/
  labels : ∀ path path',
    (∃ number, (Name.blank number).text ∈ names path ∧ (Name.blank number).text ∈ names path') ↔
      (∃ number, (Name.blank number).text ∈ names path) ∧
        ∃ number, (Name.blank number).text ∈ names path'
  /-- So do they share a variable, when no descriptions take any. -/
  vars : ¬ may .normalize → ∀ path path',
    (∃ number, (Name.var number).text ∈ names path ∧ (Name.var number).text ∈ names path') ↔
      (∃ number, (Name.var number).text ∈ names path) ∧
        ∃ number, (Name.var number).text ∈ names path'
  /-- A check of anonymous blank nodes reports the labels that two queries use. -/
  reports : ¬ may .check → query.Everywhere Checkable →
    query.Everywhere (·.clauses.dataUpdate ≠ .insertion) → query.Anonymous names →
    ∃ correct query', Build.check.run query = .ok correct query' ∧
      ∀ label,
        (∃ entry ∈ query'.log.entries,
          entry.code = .blankNodeScope ∧ entry.subject = some label) ↔
        ∃ path path', path ≠ path' ∧ query.Uses label path ∧ query.Uses label path'

end Query

/-- The names of every tree of queries are fresh within each query, but are shared by two queries
that both make some up. A check reports as shared the anonymous blank nodes that two queries use. -/
theorem freshLaw_of_mints {may : Operation → Prop} {query : Query}
    {names : List PatternId → List String} (mints : query.Mints may names) :
    query.FreshLaw may names where
  kinds path := by
    rcases mints.counts_at path with ⟨there, counts⟩
    exact counts.kinds
  distinct path := by
    rcases mints.counts_at path with ⟨there, counts⟩
    exact counts.distinct
  labels path path' := by
    rcases mints.counts_at path with ⟨there, counts⟩
    rcases mints.counts_at path' with ⟨there', counts'⟩
    exact Query.share_iff counts.labels counts'.labels
  vars never path path' := by
    rcases mints.counts_at path with ⟨there, counts⟩
    rcases mints.counts_at path' with ⟨there', counts'⟩
    exact Query.share_iff (counts.vars_iff never) (counts'.vars_iff never)
  reports never checkable distinct anonymous := by
    have unchecked : query.Unchecked :=
      mints.builtBy (fun operation allowed equal => never (equal ▸ allowed)) nofun
    rcases Build.check_blankLaw unchecked checkable distinct with ⟨⟨correct, run⟩, law⟩
    refine ⟨correct, query.afterCheck, run, fun label => ?_⟩
    rw [← Log.mem_shared, law.shared, anonymous.shared_iff]

def Operation.IsPlain (operation : Operation) : Prop :=
  operation ≠ .check ∧ operation ≠ .normalize

namespace Build

def aboutAnonymous : Query :=
  (Operation.group [0]).run.after
    ((Operation.triple (.var (.ofBlank "_b#0")) { node := .const (.iri "p") }
      (.var (.ofName "x"))).run.after
      ((Operation.blank none).run.after {}))

def aboutAnonymousTwice : Query :=
  (Operation.setBody 3).run.after
    ((Operation.group [1, 2]).run.after
      ((Operation.subquery ((Operation.setBody 1).run.after aboutAnonymous)).run.after
        aboutAnonymous))

def oneLabel : List PatternId → List String :=
  Function.update (fun _ => []) [] [(Name.blank 0).text]

def oneLabelEach : List PatternId → List String
  | [] => oneLabel []
  | id :: rest => if id = 2 then oneLabel rest else oneLabel (id :: rest)

theorem aboutAnonymous_mints : aboutAnonymous.Mints Operation.IsPlain oneLabel := by
  have empty : Query.Mints Operation.IsPlain {} fun _ => [] := .empty {} _ _ _
  have labelled := empty.step (.blank none) ⟨nofun, nofun⟩ nofun
  rw [Operation.minted_eq] at labelled
  unfold aboutAnonymous
  refine .silent (.silent labelled ?_ ?_ ?_) ?_ ?_ ?_
  · exact ⟨nofun, nofun⟩
  · nofun
  · rfl
  · exact ⟨nofun, nofun⟩
  · nofun
  · rfl

theorem aboutAnonymousTwice_mints : aboutAnonymousTwice.Mints Operation.IsPlain oneLabelEach := by
  have inner : ((Operation.setBody 1).run.after aboutAnonymous).Mints Operation.IsPlain oneLabel :=
    aboutAnonymous_mints.silent ⟨nofun, nofun⟩ nofun rfl
  have embedded := aboutAnonymous_mints.embed inner
  unfold aboutAnonymousTwice
  refine .silent (.silent embedded ?_ ?_ ?_) ?_ ?_ ?_
  · exact ⟨nofun, nofun⟩
  · nofun
  · rfl
  · exact ⟨nofun, nofun⟩
  · nofun
  · rfl

theorem aboutAnonymousTwice_freshLaw :
    aboutAnonymousTwice.Mints Operation.IsPlain oneLabelEach ∧
      aboutAnonymousTwice.FreshLaw Operation.IsPlain oneLabelEach :=
  ⟨aboutAnonymousTwice_mints, freshLaw_of_mints aboutAnonymousTwice_mints⟩

/-- A query and its subquery make up the same label, each for one group, and a check reports it. -/
theorem aboutAnonymousTwice_shares :
    aboutAnonymousTwice.Mints Operation.IsPlain oneLabelEach ∧
      (Name.blank 0).text ∈ oneLabelEach [] ∧ (Name.blank 0).text ∈ oneLabelEach [2] ∧
      ∃ entry ∈ (check.after aboutAnonymousTwice).log.entries,
        entry.code = .blankNodeScope ∧ entry.subject = some (Name.blank 0).text := by
  refine ⟨aboutAnonymousTwice_mints, ?_, ?_, ?_⟩
  · simp [oneLabelEach, oneLabel]
  · simp [oneLabelEach, oneLabel]
  · decide +kernel

end Build

end Sparql
