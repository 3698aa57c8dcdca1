import Sparql.Proofs.Build.Clauses
import Sparql.Proofs.Describe.Shape

/-!
Terms of RDF and their spellings. A constant knows the prefixed name that it was written as, and two
constants are different if these names are. So one IRI may be described twice, or registered twice
as a predicate, but only if it is written in two ways: `Script.registered_terms`.
-/

namespace Sparql

/-! ## Spellings -/

namespace Constant

/-- The term that the constant stands for, however it is written. An IRI is known by its label. -/
def term (c : Constant) : Constant :=
  if c.isIri then .iri c.label else { c with shortName := none }

def Respelled (used : List Constant) : Prop := ∃ c ∈ used, ∃ d ∈ used, c.term = d.term ∧ c ≠ d

instance : DecidablePred Respelled := fun used =>
  inferInstanceAs (Decidable (∃ c ∈ used, ∃ d ∈ used, c.term = d.term ∧ c ≠ d))

theorem respelled_congr {used used' : List Constant} (same : ∀ c, c ∈ used ↔ c ∈ used') :
    Respelled used ↔ Respelled used' := by
  simp only [Respelled, same]

/-- The constant comes from an operation that makes one. -/
inductive Made : Constant → Prop
  | iri {text : String} {c : Constant} {query query' : Query}
      (run : (Build.iri text).run query = .ok c query') : Made c
  | prefixedName {name : String} {c : Constant} {query query' : Query}
      (run : (Build.prefixedName name).run query = .ok c query') : Made c
  | blank {label : Option String} {c : Constant} {query query' : Query}
      (run : (Build.blankConstant label).run query = .ok c query') : Made c
  | literal {label : String} {datatype lang : Option String} {c : Constant} {query query' : Query}
      (run : (Build.literal label datatype lang).run query = .ok c query') : Made c
  | number {label : String} {c : Constant} {query query' : Query}
      (run : (Build.number label).run query = .ok c query') : Made c
  | boolean (value : Bool) : Made (Build.boolean value)

/-- Only an IRI has a spelling, and apart from it there is only the label. -/
def Plain (c : Constant) : Prop :=
  c = { Constant.iri c.label with shortName := c.shortName } ∨
    c.isIri = false ∧ c.shortName = none

theorem exists_of_run_bind {α : Type} {x : Build α} {make : α → Constant} {c : Constant}
    {query query' : Query} (run : (x >>= fun value => pure (make value)).run query = .ok c query') :
    ∃ value, c = make value := by
  rw [EStateM.run_bind] at run
  split at run
  · cases run
    exact ⟨_, rfl⟩
  · cases run

theorem Made.plain {c : Constant} (made : c.Made) : c.Plain := by
  cases made with
  | iri run =>
      rcases exists_of_run_bind run with ⟨_, rfl⟩
      exact .inl rfl
  | prefixedName run =>
      rcases exists_of_run_bind run with ⟨_, rfl⟩
      exact .inl rfl
  | @blank label _ query query' run =>
      cases label with
      | some label =>
          cases run
          exact .inr ⟨rfl, rfl⟩
      | none =>
          rcases exists_of_run_bind run with ⟨_, rfl⟩
          exact .inr ⟨rfl, rfl⟩
  | @literal label datatype lang _ query query' run =>
      cases lang with
      | some lang =>
          cases run
          exact .inr ⟨rfl, rfl⟩
      | none =>
          cases datatype with
          | some datatype =>
              rcases exists_of_run_bind run with ⟨_, rfl⟩
              exact .inr ⟨rfl, rfl⟩
          | none =>
              cases run
              exact .inr ⟨rfl, rfl⟩
  | number run =>
      unfold Build.number at run
      split at run
      · cases run
        exact .inr ⟨rfl, rfl⟩
      · cases run
  | boolean value => exact .inr ⟨rfl, rfl⟩

/-- Two constants are written for one IRI, but with different prefixed names, or one in full. -/
def SpelledTwice (used : List Constant) : Prop :=
  ∃ c ∈ used, ∃ d ∈ used, c.isIri = true ∧ d.isIri = true ∧ c.label = d.label ∧
    c.shortName ≠ d.shortName

theorem isIri_term (c : Constant) : c.term.isIri = c.isIri := by
  rw [term]
  split
  · next iri => exact iri.symm
  · rfl

theorem label_term (c : Constant) : c.term.label = c.label := by
  rw [term]
  split <;> rfl

theorem Plain.eq {c : Constant} (plain : c.Plain) :
    c = { c.term with shortName := c.shortName } := by
  rcases plain with iri | ⟨other, none⟩
  · have isIri : c.isIri = true := by rw [iri]; rfl
    rw [term, if_pos isIri]
    exact iri
  · rw [term, if_neg (by simp [other])]

theorem Plain.shortName_eq_none {c : Constant} (plain : c.Plain) (other : c.isIri = false) :
    c.shortName = none := by
  rcases plain with iri | ⟨_, none⟩
  · rw [iri] at other
    cases other
  · exact none

theorem respelled_iff_of_made {used : List Constant} (made : ∀ c ∈ used, c.Made) :
    Respelled used ↔ SpelledTwice used := by
  constructor
  · rintro ⟨c, member, d, member', same, different⟩
    have plain := (made c member).plain
    have plain' := (made d member').plain
    have spelling : c.shortName ≠ d.shortName := fun equal =>
      different (by rw [plain.eq, plain'.eq, same, equal])
    have kind : d.isIri = c.isIri := by rw [← isIri_term, ← same, isIri_term]
    have iri : c.isIri = true := by
      refine Bool.eq_true_of_not_eq_false fun other => spelling ?_
      rw [plain.shortName_eq_none other, plain'.shortName_eq_none (kind.trans other)]
    refine ⟨c, member, d, member', iri, kind.trans iri, ?_, spelling⟩
    rw [← label_term, same, label_term]
  · rintro ⟨c, member, d, member', iri, iri', label, spelling⟩
    refine ⟨c, member, d, member', ?_, fun equal => spelling (congrArg _ equal)⟩
    rw [term, term, if_pos iri, if_pos iri', label]

end Constant

/-! ## Described constants -/

namespace Clauses

def constants (clauses : Clauses) : List Constant := clauses.describe.filterMap Expr.asConstant?

/-- The described constants are the ones that were met, each where it was met first. -/
def NamesOnce (met : List Constant) (clauses : Clauses) : Prop :=
  clauses.constants = met.eraseDups

end Clauses

theorem asConstant?_visited (e : Expr) : e.visited.asConstant? = e.asConstant? := by
  cases e <;> rfl

theorem Expr.asConstant?_eq_some {e : Expr} {c : Constant} :
    e.asConstant? = some c ↔ e = .const c := by
  cases e <;> simp [Expr.asConstant?]

theorem any_same_const {terms : List Expr} {c : Constant} :
    terms.any (·.same (.const c)) = true ↔ c ∈ terms.filterMap Expr.asConstant? := by
  simp only [List.any_eq_true, List.mem_filterMap, Expr.asConstant?_eq_some]
  constructor
  · rintro ⟨e, member, same⟩
    cases e with
    | const d => exact ⟨_, member, by rw [eq_of_beq same]⟩
    | _ => simp [Expr.same] at same
  · rintro ⟨_, member, rfl⟩
    exact ⟨_, member, by simp [Expr.same]⟩

def Operation.described? : Operation → Option Constant
  | describe (.const c) => some c
  | _ => none

theorem Query.constants_named (query : Query) (vars : List Variable) :
    (query.named vars).filterMap Expr.asConstant? = query.clauses.constants := by
  rw [Query.named]
  split
  · next all =>
      have none : query.clauses.describe = [] := by simp_all
      rw [Clauses.constants, none]
      simp [Expr.asConstant?]
  · rfl

namespace Build

variable {met : List Constant}

theorem namesOnce_normalizeForm : PreservesClauses (Clauses.NamesOnce met) normalizeForm := by
  intro query holds
  by_cases form : query.clauses.form = .describe
  · rw [normalizeForm, ends_bind, ends_get, form]
    dsimp only
    apply ((ends_normalizeDescribe query).and (ends_unchanged_normalizeDescribe query)).imp
    · rintro _ query' ⟨⟨_, rebuilt⟩, _⟩
      rw [Clauses.NamesOnce, Clauses.constants, rebuilt.clauses, List.filterMap_map, ← holds,
        ← query.constants_named query.bound]
      exact List.filterMap_congr fun e _ => asConstant?_visited e
    · rintro _ query' ⟨_, rfl⟩
      exact holds
  · have kept {query' : Query} (reshapes : query.Reshapes query') :
        query'.clauses.NamesOnce met := by
      rw [Clauses.NamesOnce, Clauses.constants, reshapes.clauses.describe form]
      exact holds
    exact (ends_reshapes_normalizeForm query).imp (fun _ _ => kept) fun _ _ => kept

theorem namesOnce_normalize : PreservesClauses (Clauses.NamesOnce met) normalize := by
  apply preservesClauses_normalize _ namesOnce_normalizeForm
  intro _ clauses clauses' holds resolves
  rw [resolves.rest]
  exact holds

theorem namesOnce_describe (term : Expr) {query : Query} (holds : query.clauses.NamesOnce met) :
    ((Operation.describe term).run.after query).clauses.NamesOnce
      (met ++ (Operation.describe term).described?.toList) := by
  have run : ((Operation.describe term).run.after query).clauses =
      if query.clauses.describe.any (·.same term) then query.clauses
      else { query.clauses with describe := query.clauses.describe ++ [term] } := rfl
  have added : Clauses.constants
      { query.clauses with describe := query.clauses.describe ++ [term] } =
        query.clauses.constants ++ [term].filterMap Expr.asConstant? :=
    List.filterMap_append
  rw [run, Clauses.NamesOnce]
  cases term with
  | const c =>
      have known : c ∈ query.clauses.constants ↔ c ∈ met := by rw [holds, List.mem_eraseDups]
      simp only [any_same_const.trans known]
      rw [Operation.described?, Option.toList_some, eraseDups_concat]
      split
      · exact holds
      · rw [added, holds]
        rfl
  | var v | call head args =>
      have none (e : Expr) (other : (Operation.describe e).described? = none) :
          met ++ (Operation.describe e).described?.toList = met := by
        rw [other, Option.toList_none, List.append_nil]
      rw [none _ rfl]
      split
      · exact holds
      · exact added.trans ((List.append_nil _).trans holds)

theorem namesOnce_after (operation : Operation) {query : Query}
    (holds : query.clauses.NamesOnce met) :
    (operation.run.after query).clauses.NamesOnce (met ++ operation.described?.toList) := by
  have keeps (none : operation.described? = none)
      (keeps : PreservesClauses (Clauses.NamesOnce met) operation.run) :
      (operation.run.after query).clauses.NamesOnce (met ++ operation.described?.toList) := by
    rw [none, Option.toList_none, List.append_nil]
    exact (keeps query holds).after
  cases concerns : operation.concernsClauses with
  | false =>
      refine keeps ?_ (preservesClauses_run concerns)
      cases operation <;> first | rfl | cases concerns
  | true =>
      cases operation with
      | describe term => exact namesOnce_describe term holds
      | select target value =>
          refine keeps rfl (Preserves.map (preservesClauses_modifyClauses fun _ kept => ?_) _)
          split <;> exact kept
      | setBody id | setConstruct id | setInsert id | setDelete id =>
          exact keeps rfl
            (Preserves.map (preservesClauses_setKnown id (by exact fun _ kept => kept)) _)
      | setForm _ | setDataUpdate _ | setSelectAll _ | setDistinct _ | setReduced _ | groupBy _
      | having _ | orderBy _ _ | setLimit _ | setOffset _ | setValues _ =>
          exact keeps rfl
            (Preserves.map (preservesClauses_modifyClauses (by exact fun _ kept => kept)) _)
      | normalize => exact keeps rfl (namesOnce_normalize.map _)
      | check => exact keeps rfl ((preservesClauses_check fun _ _ kept => kept).map _)
      | _ => cases concerns

end Build

namespace Script

def described : Script → List Outcome → Query → List Constant
  | [], _, _ => []
  | operation :: rest, known, query =>
    let (outcome, query') := (operation known).run.outcome query
    (operation known).described?.toList ++ described rest (known ++ [outcome]) query'

theorem namesOnce_play (script : Script) (known : List Outcome) {query : Query}
    {met : List Constant} (holds : query.clauses.NamesOnce met) :
    (script.play known query).2.clauses.NamesOnce (met ++ script.described known query) := by
  induction script generalizing known query met with
  | nil =>
      rw [described, List.append_nil]
      exact holds
  | cons operation rest induction =>
      have first := Build.namesOnce_after (operation known) holds
      rw [← Build.outcome_snd] at first
      have onward := induction (known ++ [((operation known).run.outcome query).1]) first
      rw [List.append_assoc] at onward
      exact onward

end Script

/-! ## Unions of a template -/

theorem exists_of_forall₂ {α β : Type} {relates : α → β → Prop} {as : List α} {bs : List β} {b : β}
    (related : List.Forall₂ relates as bs) (member : b ∈ bs) : ∃ a ∈ as, relates a b := by
  induction related with
  | nil => cases member
  | @cons a first _ _ here _ induction =>
      rcases List.mem_cons.mp member with rfl | inside
      · exact ⟨a, List.mem_cons_self .., here⟩
      · rcases induction inside with ⟨a', member', here'⟩
        exact ⟨a', List.mem_cons_of_mem _ member', here'⟩

def Arena.IsUnionOf (arena : Arena Query) (id : PatternId) (term : Expr) : Prop :=
  ∃ outgoing incoming p v p' v', arena.get? id = some (.union outgoing incoming) ∧
    arena.HoldsAlone outgoing [term, .var p, .var v] ∧
    arena.HoldsAlone incoming [.var v', .var p', term]

def Arena.DescribesTwice (arena : Arena Query) (parts : List PatternId) : Prop :=
  ∃ id ∈ parts, ∃ id' ∈ parts, id ≠ id' ∧ ∃ c d : Constant,
    arena.IsUnionOf id (.const c) ∧ arena.IsUnionOf id' (.const d) ∧ c.term = d.term

section

variable {arena : Arena Query} {terms : List Expr} {descriptions : List Description}

theorem Arena.HoldsAlone.unique {id : PatternId} {nodes nodes' : List Expr}
    (holds : arena.HoldsAlone id nodes) (holds' : arena.HoldsAlone id nodes') : nodes = nodes' := by
  rcases holds with ⟨cell, t, group, triple, rfl, _⟩
  rcases holds' with ⟨cell', t', group', triple', rfl, _⟩
  cases group.symm.trans group'
  cases triple.symm.trans triple'
  rfl

theorem Arena.IsUnionOf.unique {id : PatternId} {e e' : Expr} (is : arena.IsUnionOf id e)
    (is' : arena.IsUnionOf id e') : e = e' := by
  rcases is with ⟨outgoing, incoming, p, v, p', v', union, out, _⟩
  rcases is' with ⟨outgoing', incoming', q, w, q', w', union', out', _⟩
  cases union.symm.trans union'
  exact (List.cons.inj (out.unique out')).1

theorem Description.Of.isUnionOf {e : Expr} {made : Description} (is : made.Of arena e) :
    arena.IsUnionOf made.either e := by
  rcases is.either with ⟨outgoing, incoming, union, out, back⟩
  exact ⟨outgoing, incoming, _, _, _, _, union, out, back⟩

theorem Description.predicate_eq_of_either {e e' : Expr} {made made' : Description}
    (is : made.Of arena e) (is' : made'.Of arena e') (same : made.either = made'.either) :
    made.predicate = made'.predicate := by
  rcases is.either with ⟨outgoing, incoming, union, out, _⟩
  rcases is'.either with ⟨outgoing', incoming', union', out', _⟩
  rw [← same] at union'
  cases union.symm.trans union'
  have nodes := out.unique out'
  simp only [List.cons.injEq, Expr.var.injEq] at nodes
  exact nodes.2.1

theorem nodup_either (of : List.Forall₂ (Description.Of arena) terms descriptions)
    (distinct : ((descriptions.flatMap (·.vars)).map (·.name)).Nodup) :
    (descriptions.map (·.either)).Nodup := by
  rw [List.map_flatMap, List.nodup_flatMap] at distinct
  rw [List.Nodup, List.pairwise_map]
  refine distinct.2.imp_of_mem fun {made made'} member member' disjoint same => ?_
  rcases exists_of_forall₂ of member with ⟨e, _, is⟩
  rcases exists_of_forall₂ of member' with ⟨e', _, is'⟩
  have equal := Description.predicate_eq_of_either is is' same
  have first (made : Description) : made.predicate.name ∈ made.vars.map (·.name) :=
    List.mem_map_of_mem (List.mem_cons_self ..)
  exact disjoint (first made) (equal ▸ first made')

theorem either_eq_of_const {c : Constant} {made made' : Description}
    (of : List.Forall₂ (Description.Of arena) terms descriptions)
    (once : (terms.filterMap Expr.asConstant?).Nodup)
    (member : made ∈ descriptions) (member' : made' ∈ descriptions)
    (is : arena.IsUnionOf made.either (.const c)) (is' : arena.IsUnionOf made'.either (.const c)) :
    made.either = made'.either := by
  induction of with
  | nil => cases member
  | @cons e first rest others described tail induction =>
      -- The constant is not described at the front and behind it.
      have absent {made : Description} (inside : made ∈ others)
          (is : arena.IsUnionOf made.either (.const c)) : e ≠ .const c := by
        rintro rfl
        rcases exists_of_forall₂ tail inside with ⟨e', among, is'⟩
        cases is'.isUnionOf.unique is
        have here : (Expr.const c).asConstant? = some c := rfl
        rw [List.filterMap_cons_some here, List.nodup_cons] at once
        exact once.1 (List.mem_filterMap.mpr ⟨_, among, rfl⟩)
      have front (is : arena.IsUnionOf first.either (.const c)) : e = .const c :=
        described.isUnionOf.unique is
      rcases List.mem_cons.mp member with rfl | inside
      · rcases List.mem_cons.mp member' with rfl | inside'
        · rfl
        · exact absurd (front is) (absent inside' is')
      · rcases List.mem_cons.mp member' with rfl | inside'
        · exact absurd (front is') (absent inside is)
        · refine induction ?_ inside inside'
          exact once.sublist (List.Sublist.filterMap _ (List.sublist_cons_self ..))

theorem exists_union {c : Constant} (of : List.Forall₂ (Description.Of arena) terms descriptions)
    (member : c ∈ terms.filterMap Expr.asConstant?) :
    ∃ made ∈ descriptions, arena.IsUnionOf made.either (.const c) := by
  rcases List.mem_filterMap.mp member with ⟨e, among, constant⟩
  cases Expr.asConstant?_eq_some.mp constant
  have turned : List.Forall₂ (flip (Description.Of arena)) descriptions terms := of.flip
  rcases exists_of_forall₂ turned among with ⟨made, inside, is⟩
  exact ⟨made, inside, is.isUnionOf⟩

theorem describesTwice_iff (of : List.Forall₂ (Description.Of arena) terms descriptions)
    (once : (terms.filterMap Expr.asConstant?).Nodup) :
    arena.DescribesTwice (descriptions.map (·.either)) ↔
      Constant.Respelled (terms.filterMap Expr.asConstant?) := by
  have described {c : Constant} {id : PatternId} (member : id ∈ descriptions.map (·.either))
      (is : arena.IsUnionOf id (.const c)) :
      c ∈ terms.filterMap Expr.asConstant? := by
    rcases List.mem_map.mp member with ⟨made, inside, rfl⟩
    rcases exists_of_forall₂ of inside with ⟨e, among, is'⟩
    cases is'.isUnionOf.unique is
    exact List.mem_filterMap.mpr ⟨_, among, rfl⟩
  constructor
  · rintro ⟨id, member, id', member', different, c, d, is, is', same⟩
    refine ⟨c, described member is, d, described member' is', same, ?_⟩
    rintro rfl
    rcases List.mem_map.mp member with ⟨made, inside, rfl⟩
    rcases List.mem_map.mp member' with ⟨made', inside', rfl⟩
    exact different (either_eq_of_const of once inside inside' is is')
  · rintro ⟨c, member, d, member', same, different⟩
    rcases exists_union of member with ⟨made, inside, is⟩
    rcases exists_union of member' with ⟨made', inside', is'⟩
    refine ⟨_, List.mem_map_of_mem inside, _, List.mem_map_of_mem inside', ?_, c, d, is, is', same⟩
    intro equal
    rw [equal] at is
    exact different (Expr.const.inj (is.unique is'))

end

namespace Query

/-- The template of a query of descriptions has one union for each constant that is named. So it
describes a term twice if and only if the term is named in two spellings. -/
theorem template_of_normalize {query query' : Query} {met : List Constant}
    (named : query.clauses.NamesOnce met) (form : query.clauses.form = .describe)
    (new : query.normalized = false) (run : Build.normalize.run query = .ok () query') :
    ∃ template parts, query'.clauses.construct = some template ∧
      query'.arena.get? template = some (.group parts) ∧ parts.Nodup ∧
      (∀ c ∈ met, ∃ id ∈ parts, query'.arena.IsUnionOf id (.const c)) ∧
      (query'.arena.DescribesTwice parts ↔ Constant.Respelled met) := by
  rcases Build.exists_described form new run with ⟨⟨descriptions, shape⟩, _⟩
  rcases shape.template with ⟨template, construct, _, group⟩
  have distinct : ((descriptions.flatMap (·.vars)).map (·.name)).Nodup := by
    rw [shape.vars]
    exact (query.nextVars_unused _).distinct
  -- Only variables may be left out of those that are named.
  have constants : ((query.named (Build.withNormalized query).bound).filter fun term =>
      term.asVariable?.all (·.occursIn query'.clauses.selected)).filterMap Expr.asConstant? =
        met.eraseDups := by
    rw [← named, ← query.constants_named, List.filterMap_filter]
    refine List.filterMap_congr fun e _ => ?_
    cases e with
    | var v => exact ite_self none
    | const c | call head args => rfl
  have once := nodup_eraseDups met
  rw [← constants] at once
  refine ⟨template, _, construct, group, nodup_either shape.of distinct, fun c member => ?_, ?_⟩
  · rw [← List.mem_eraseDups, ← constants] at member
    rcases exists_union shape.of member with ⟨made, inside, is⟩
    exact ⟨_, List.mem_map_of_mem inside, is⟩
  · rw [describesTwice_iff shape.of once, constants]
    exact Constant.respelled_congr fun c => List.mem_eraseDups

end Query

namespace Script

open Constant in
/-- Whatever is done to an empty query, no constant is registered twice as a predicate, nor
described twice by the template of a query of descriptions, which is normalized if its patterns can
be checked. But constants are compared with the names that they were written as, so that a term is
registered or described twice if and only if it was used in two spellings. Among constants that are
made by operations such a term is an IRI, and it was written as two different prefixed names, or as
one and in full. -/
theorem registered_terms (script : Script) (options : Options) (namespaces : Namespaces)
    (library : Regex.Library) (labelOrder : LabelOrder) :
    let start : Query := { options, namespaces, library, labelOrder }
    let query := (script.play [] start).2
    let predicates := query.registers.triples.filterMap query.arena.plainPredicate?
    let described := script.described [] start
    query.registers.predicates.Nodup ∧
      (Respelled query.registers.predicates ↔ Respelled predicates) ∧
      (query.clauses.form = .describe → query.normalized = false →
        (query.Everywhere Query.Checkable → ∃ query', Build.normalize.run query = .ok () query') ∧
          ∀ query', Build.normalize.run query = .ok () query' →
            ∃ template parts, query'.clauses.construct = some template ∧
              query'.arena.get? template = some (.group parts) ∧ parts.Nodup ∧
              (∀ c ∈ described, ∃ id ∈ parts, query'.arena.IsUnionOf id (.const c)) ∧
              (query'.arena.DescribesTwice parts ↔ Respelled described)) ∧
      ((∀ c ∈ predicates, c.Made) → (Respelled predicates ↔ SpelledTwice predicates)) ∧
      ((∀ c ∈ described, c.Made) → (Respelled described ↔ SpelledTwice described)) := by
  intro start query predicates described
  have registered : query.Registered :=
    script.play_keeps (fun operation _ => operation.registered_after) []
      (Query.registered_empty options namespaces library labelOrder)
  have register : query.registers.predicates = predicates.eraseDups := registered.agree.predicates
  have named : query.clauses.NamesOnce described := by
    have empty : start.clauses.NamesOnce [] := rfl
    exact script.namesOnce_play [] empty
  refine ⟨?_, ?_, fun form new => ⟨fun checkable => ?_, fun query' run => ?_⟩,
    respelled_iff_of_made, respelled_iff_of_made⟩
  · rw [register]
    exact nodup_eraseDups predicates
  · refine respelled_congr fun c => ?_
    rw [register, List.mem_eraseDups]
  · rcases Build.exists_run_normalize checkable with ⟨query', run, _⟩
    exact ⟨query', run⟩
  · exact Query.template_of_normalize named form new run

def typeInFull : Constant := .iri "http://www.w3.org/1999/02/22-rdf-syntax-ns#type"

def typeByName : Constant := { typeInFull with shortName := some "rdf:type" }

theorem made_typeByName : typeByName.Made := by
  have run : (Build.prefixedName "rdf:type").run {} = .ok typeByName {} := rfl
  exact .prefixedName run

def typed (constants : Constant × Constant) : Script :=
  let ask (c : Constant) : Operation :=
    .triple (.var (.ofName "x")) { node := .const c } (.var (.ofName "y"))
  [fun _ => ask constants.1, fun _ => ask constants.2, fun _ => .setForm .describe,
    fun _ => .describe (.const constants.1), fun _ => .describe (.const constants.2)]

theorem typedByName_registered :
    let script := typed (typeByName, typeByName)
    let query := (script.play [] {}).2
    let predicates := query.registers.triples.filterMap query.arena.plainPredicate?
    let described := script.described [] {}
    query.clauses.form = .describe ∧ query.normalized = false ∧
      query.Everywhere Query.Checkable ∧
      query.registers.predicates.Nodup ∧ ¬ Constant.Respelled query.registers.predicates ∧
      (∀ c ∈ predicates, c.Made) ∧ ¬ Constant.SpelledTwice predicates ∧
      (∀ c ∈ described, c.Made) ∧ ¬ Constant.SpelledTwice described ∧
      ∃ query' template parts, Build.normalize.run query = .ok () query' ∧
        query'.clauses.construct = some template ∧
        query'.arena.get? template = some (.group parts) ∧ parts.Nodup ∧
        (∃ id ∈ parts, query'.arena.IsUnionOf id (.const typeByName)) ∧
        ¬ query'.arena.DescribesTwice parts := by
  intro script query predicates described
  have form : query.clauses.form = .describe := by decide +kernel
  have new : query.normalized = false := by decide +kernel
  have checkable : query.Everywhere Query.Checkable :=
    .alone ⟨rfl, Query.sound_of_descends (by decide +kernel) (by decide +kernel)⟩ rfl
  have met : predicates = [typeByName, typeByName] := by decide +kernel
  have named : described = [typeByName, typeByName] := by decide +kernel
  have apart : ¬ Constant.Respelled [typeByName, typeByName] := by decide
  have made : ∀ c ∈ [typeByName, typeByName], c.Made := by simp [made_typeByName]
  have madeMet : ∀ c ∈ predicates, c.Made := met ▸ made
  have madeNamed : ∀ c ∈ described, c.Made := named ▸ made
  rcases registered_terms script {} (.declared .standard) .bundled .asAdded with
    ⟨nodup, registered, template, spelled, spelled'⟩
  rcases (template form new).1 checkable with ⟨query', run⟩
  rcases (template form new).2 query' run with
    ⟨template, parts, construct, group, once, unions, twice⟩
  refine ⟨form, new, checkable, nodup, fun again => ?_, madeMet, fun again => ?_, madeNamed,
    fun again => ?_, query', template, parts, run, construct, group, once, unions typeByName ?_,
    fun again => ?_⟩
  · have respelled : Constant.Respelled predicates := registered.mp again
    rw [met] at respelled
    exact apart respelled
  · have respelled : Constant.Respelled predicates := (spelled madeMet).mpr again
    rw [met] at respelled
    exact apart respelled
  · have respelled : Constant.Respelled described := (spelled' madeNamed).mpr again
    rw [named] at respelled
    exact apart respelled
  · have member : typeByName ∈ described := named ▸ List.mem_cons_self ..
    exact member
  · have respelled : Constant.Respelled described := twice.mp again
    rw [named] at respelled
    exact apart respelled

theorem typedTwice_registered :
    let query := ((typed (typeInFull, typeByName)).play [] {}).2
    (Build.iri "<http://www.w3.org/1999/02/22-rdf-syntax-ns#type>").run {} = .ok typeInFull {} ∧
      (Build.prefixedName "rdf:type").run {} = .ok typeByName {} ∧
      typeInFull.label = typeByName.label ∧ typeInFull ≠ typeByName ∧
      query.registers.predicates = [typeInFull, typeByName] ∧
      ∃ query' template parts, Build.normalize.run query = .ok () query' ∧
        query'.clauses.construct = some template ∧
        query'.arena.get? template = some (.group parts) ∧ query'.arena.DescribesTwice parts := by
  intro query
  have run : ∃ value, Build.normalize.run query = .ok value (Build.normalize.after query) :=
    Build.exists_run_of_returns (by decide +kernel)
  rcases run with ⟨⟨⟩, run⟩
  have named : query.clauses.NamesOnce [typeInFull, typeByName] := by
    show _ = _
    decide +kernel
  rcases Query.template_of_normalize named (by decide +kernel) (by decide +kernel) run with
    ⟨template, parts, construct, group, _, _, twice⟩
  exact ⟨rfl, rfl, rfl, by decide, by decide +kernel, _, template, parts, run, construct, group,
    twice.mpr (by decide)⟩

end Script

end Sparql
