import Sparql.Proofs.Check.Returns

/-!
Where blank nodes occur. A triple that a check visits belongs to the group that it is a child of, or
whose collection it is a cell of, or else to the collection or to itself; a triple of a template
belongs to the group around it, or else to the template. Patterns of different queries differ, and
so an occurrence is told by the subqueries around it and then by its owner.
-/

namespace Sparql

/-! ## Owners -/

def Pattern.gathers : Pattern Query → Bool
  | group _ | collection _ _ => true
  | _ => false

namespace Arena

variable {arena : Arena Query}

def IsApart (arena : Arena Query) (id : PatternId) : Prop :=
  ∀ p, arena.get? id = some p → p.kind ≠ .triple ∧ p.kind ≠ .collection

/-- A check of the pattern goes on to the part, which is visited by itself. The triples and the
collections of a group are visited as its own, as are the cells of a collection. -/
inductive EntersPart (arena : Arena Query) (id next : PatternId) : Prop
  | child {children : List PatternId} (found : arena.get? id = some (.group children))
      (member : next ∈ children) (apart : arena.IsApart next)
  | part {p : Pattern Query} (found : arena.get? id = some p) (plain : p.gathers = false)
      (member : next ∈ p.parts)

def Enters (arena : Arena Query) : (root id : PatternId) → Prop :=
  Relation.ReflTransGen arena.EntersPart

/-- The triple belongs to the pattern when this is visited by itself. -/
inductive Owns (arena : Arena Query) (id : PatternId) (t : Triple) : Prop
  | self (found : arena.get? id = some (.triple t))
  | cell {head : Expr} {cells : List PatternId} {cell : PatternId}
      (found : arena.get? id = some (.collection head cells)) (member : cell ∈ cells)
      (here : arena.get? cell = some (.triple t))
  | child {children : List PatternId} {child : PatternId}
      (found : arena.get? id = some (.group children)) (member : child ∈ children)
      (here : arena.get? child = some (.triple t))
  | childCell {children : List PatternId} {child : PatternId} {head : Expr}
      {cells : List PatternId} {cell : PatternId}
      (found : arena.get? id = some (.group children)) (member : child ∈ children)
      (within : arena.get? child = some (.collection head cells)) (memberCell : cell ∈ cells)
      (here : arena.get? cell = some (.triple t))

/-- Below the pattern of a template, where triples belong to the owner that is given, a triple
belongs to an owner. -/
inductive TemplateOwns (arena : Arena Query) :
    (given id owner cell : PatternId) → Triple → Prop
  | triple {given id : PatternId} {t : Triple} (found : arena.get? id = some (.triple t)) :
      TemplateOwns arena given id given id t
  | part {given id child owner cell : PatternId} {t : Triple} {p : Pattern Query}
      (found : arena.get? id = some p) (member : child ∈ p.children)
      (within : TemplateOwns arena (if p.isGroup then id else given) child owner cell t) :
      TemplateOwns arena given id owner cell t

/-! ## Visits -/

/-- A visit that the pattern itself gives rise to, apart from those to bound targets. -/
inductive Makes (arena : Arena Query) (id : PatternId) : Visit → Prop
  | triple {t : Triple} (owns : arena.Owns id t) : Makes arena id (.triple t id)
  | subquery {sub : Query} (found : arena.get? id = some (.subquery sub)) :
      Makes arena id (.subquery id sub)

theorem mem_inOrder {α : Type} {visible : α → List Variable} {visits : Scope → α → List Visit}
    {visit : Visit} {before : Scope} {values : List α}
    (member : visit ∈ Visit.inOrder visible visits before values) :
    ∃ value ∈ values, ∃ before, visit ∈ visits before value := by
  induction values generalizing before with
  | nil => cases member
  | cons value rest induction =>
      rcases List.mem_append.mp member with here | later
      · exact ⟨value, List.mem_cons_self .., before, here⟩
      · rcases induction later with ⟨value', member', found⟩
        exact ⟨value', List.mem_cons_of_mem _ member', found⟩

theorem mem_inOrder_of_mem {α : Type} {visible : α → List Variable}
    {visits : Scope → α → List Visit} {visit : Visit} {values : List α} {value : α}
    (member : value ∈ values) (found : ∀ before, visit ∈ visits before value) (before : Scope) :
    visit ∈ Visit.inOrder visible visits before values := by
  induction values generalizing before with
  | nil => cases member
  | cons value' rest induction =>
      rcases List.mem_cons.mp member with rfl | member
      · exact List.mem_append_left _ (found before)
      · exact List.mem_append_right _ (induction member _)

theorem mem_cellVisits {owner : PatternId} {cells : List PatternId} {visit : Visit} :
    visit ∈ arena.cellVisits owner cells ↔
      ∃ cell ∈ cells, ∃ t, arena.get? cell = some (.triple t) ∧ visit = .triple t owner := by
  rw [cellVisits, List.mem_filterMap]
  refine exists_congr fun cell => and_congr_right fun _ => ?_
  cases arena.get? cell with
  | none => simp
  | some p =>
      cases p with
      | triple t =>
          simp only [Option.bind_some, Pattern.triple?, Option.map_some, Option.some.injEq,
            Pattern.triple.injEq]
          constructor
          · intro equal
            exact ⟨t, rfl, equal.symm⟩
          · intro holds
            rcases holds with ⟨_, rfl, equal⟩
            exact equal.symm
      | _ => simp [Pattern.triple?]

theorem mem_childVisits {owner child : PatternId} {visitsTo : PatternId → List Visit}
    {visit : Visit} (member : visit ∈ arena.childVisits owner visitsTo child) :
    (∃ t, arena.get? child = some (.triple t) ∧ visit = .triple t owner) ∨
      (∃ head cells, arena.get? child = some (.collection head cells) ∧
        visit ∈ arena.cellVisits owner cells) ∨
      arena.IsApart child ∧ visit ∈ visitsTo child := by
  rw [childVisits] at member
  split at member
  case h_1 t found => exact .inl ⟨t, found, List.mem_singleton.mp member⟩
  case h_2 head cells found => exact .inr (.inl ⟨head, cells, found, member⟩)
  case h_3 notTriple notCollection =>
    refine .inr (.inr ⟨fun p found => ⟨fun same => ?_, fun same => ?_⟩, member⟩)
    · cases p <;> cases same
      exact notTriple _ found
    · cases p <;> cases same
      exact notCollection _ _ found

theorem childVisits_of_isApart {owner child : PatternId} {visitsTo : PatternId → List Visit}
    (apart : arena.IsApart child) : arena.childVisits owner visitsTo child = visitsTo child := by
  rw [childVisits]
  split
  case h_1 t found => exact ((apart _ found).1 rfl).elim
  case h_2 head cells found => exact ((apart _ found).2 rfl).elim
  case h_3 => rfl

theorem makes_of_mem_visitsAt {levels : Nat} {before : Scope} {id : PatternId} {visit : Visit}
    (member : visit ∈ arena.visitsAt levels before id) :
    (∃ target before, visit = .bind target before) ∨
      ∃ entered, arena.Enters id entered ∧ arena.Makes entered visit := by
  induction levels generalizing before id with
  | zero => cases member
  | succ levels induction =>
      have onward {next : PatternId} {before : Scope} (enters : arena.EntersPart id next)
          (member : visit ∈ arena.visitsAt levels before next) :
          (∃ target before, visit = .bind target before) ∨
            ∃ entered, arena.Enters id entered ∧ arena.Makes entered visit := by
        apply (induction member).imp_right
        intro holds
        rcases holds with ⟨entered, reaches, makes⟩
        exact ⟨entered, .head enters reaches, makes⟩
      rw [visitsAt] at member
      cases found : arena.get? id with
      | none =>
          rw [found] at member
          cases member
      | some p =>
          rw [found] at member
          cases p with
          | triple t =>
              rw [List.mem_singleton.mp member]
              exact .inr ⟨id, .refl, .triple (.self found)⟩
          | group children =>
              rcases mem_inOrder member with ⟨child, memberChild, before, member⟩
              rcases mem_childVisits member with
                ⟨t, here, rfl⟩ | ⟨head, cells, within, member⟩ | ⟨apart, member⟩
              · exact .inr ⟨id, .refl, .triple (.child found memberChild here)⟩
              · rcases mem_cellVisits.mp member with ⟨cell, memberCell, t, here, rfl⟩
                have owns : arena.Owns id t := .childCell found memberChild within memberCell here
                exact .inr ⟨id, .refl, .triple owns⟩
              · exact onward (.child found memberChild apart) member
          | collection head cells =>
              rcases mem_cellVisits.mp member with ⟨cell, memberCell, t, here, rfl⟩
              exact .inr ⟨id, .refl, .triple (.cell found memberCell here)⟩
          | union left right =>
              rcases List.mem_append.mp member with member | member
              · exact onward (.part found rfl (List.mem_cons_self ..)) member
              · have second := List.mem_cons_of_mem left (List.mem_cons_self (a := right) (l := []))
                exact onward (.part found rfl second) member
          | optional body | minus body | service _ _ body | graph _ body =>
              exact onward (.part found rfl (List.mem_cons_self ..)) member
          | filter condition =>
              rcases List.mem_flatMap.mp member with ⟨tested, memberTested, member⟩
              exact onward (.part found rfl memberTested) member
          | bind value target =>
              rcases List.mem_append.mp member with member | member
              · rcases List.mem_flatMap.mp member with ⟨tested, memberTested, member⟩
                exact onward (.part found rfl memberTested) member
              · exact .inl ⟨target, before, List.mem_singleton.mp member⟩
          | values table => cases member
          | subquery sub =>
              rw [List.mem_singleton.mp member]
              exact .inr ⟨id, .refl, .subquery found⟩

theorem mem_visitsAt_of_makes {levels : Nat} {id : PatternId} {visit : Visit}
    (fits : arena.Fits levels id) (makes : arena.Makes id visit) (before : Scope) :
    visit ∈ arena.visitsAt levels before id := by
  cases levels with
  | zero => exact fits.elim
  | succ levels =>
      rw [visitsAt]
      cases makes with
      | subquery found =>
          rw [found]
          exact List.mem_singleton_self _
      | triple owns =>
          cases owns with
          | self found =>
              rw [found]
              exact List.mem_singleton_self _
          | cell found member here =>
              rw [found]
              exact mem_cellVisits.mpr ⟨_, member, _, here, rfl⟩
          | child found member here =>
              rw [found]
              refine mem_inOrder_of_mem member (fun before => ?_) before
              rw [childVisits, here]
              exact List.mem_singleton_self _
          | childCell found member within memberCell here =>
              rw [found]
              refine mem_inOrder_of_mem member (fun before => ?_) before
              rw [childVisits, within]
              exact mem_cellVisits.mpr ⟨_, memberCell, _, here, rfl⟩

theorem mem_visitsAt_of_part {levels : Nat} {id next : PatternId} {visit : Visit}
    (enters : arena.EntersPart id next)
    (within : ∀ before, visit ∈ arena.visitsAt levels before next) (before : Scope) :
    visit ∈ arena.visitsAt (levels + 1) before id := by
  rw [visitsAt]
  cases enters with
  | child found member apart =>
      rw [found]
      refine mem_inOrder_of_mem member (fun before => ?_) before
      rw [childVisits_of_isApart apart]
      exact within before
  | @part p found plain member =>
      rw [found]
      cases p with
      | group children | collection head cells => cases plain
      | union left right =>
          obtain rfl | rfl : next = left ∨ next = right := List.mem_pair.mp member
          · exact List.mem_append_left _ (within before)
          · exact List.mem_append_right _ (within before)
      | optional body | minus body | service _ _ body | graph _ body =>
          obtain rfl : next = body := List.mem_singleton.mp member
          exact within _
      | filter condition => exact List.mem_flatMap.mpr ⟨next, member, within before⟩
      | bind value target =>
          exact List.mem_append_left _ (List.mem_flatMap.mpr ⟨next, member, within before⟩)
      | triple _ | values _ | subquery _ => cases member

theorem EntersPart.fits {levels : Nat} {id next : PatternId} (enters : arena.EntersPart id next)
    (fits : arena.Fits (levels + 1) id) : arena.Fits levels next := by
  rcases fits with ⟨p, found, fit⟩
  cases enters with
  | child here member _ =>
      rcases Option.some.inj (found.symm.trans here) with rfl
      exact fit next (List.mem_append_left _ member)
  | part here _ member =>
      rcases Option.some.inj (found.symm.trans here) with rfl
      exact fit next member

theorem mem_visitsAt_of_enters {levels : Nat} {root id : PatternId} {visit : Visit}
    (fits : arena.Fits levels root) (enters : arena.Enters root id) (makes : arena.Makes id visit)
    (before : Scope) : visit ∈ arena.visitsAt levels before root := by
  induction enters using Relation.ReflTransGen.head_induction_on generalizing levels before with
  | refl => exact mem_visitsAt_of_makes fits makes before
  | head part _ induction =>
      cases levels with
      | zero => exact fits.elim
      | succ levels => exact mem_visitsAt_of_part part (induction (part.fits fits)) before

/-! ## Templates -/

theorem mem_templateVisitsAt_of_owns {bodyTriples : List PatternId} {levels : Nat}
    {given id owner cell : PatternId} {t : Triple} (fits : arena.Fits levels id)
    (owns : arena.TemplateOwns given id owner cell t) (new : cell ∉ bodyTriples) :
    .triple t owner ∈ arena.templateVisitsAt bodyTriples levels given id := by
  induction owns generalizing levels with
  | triple found =>
      cases levels with
      | zero => exact fits.elim
      | succ levels =>
          rw [templateVisitsAt, found]
          dsimp only
          rw [if_neg new]
          exact List.mem_singleton_self _
  | @part _ _ _ _ _ _ p found member _ induction =>
      cases levels with
      | zero => exact fits.elim
      | succ levels =>
          rcases fits with ⟨_, here, fit⟩
          rcases Option.some.inj (found.symm.trans here) with rfl
          have below := induction (fit _ (List.mem_append_left _ member)) new
          rw [templateVisitsAt, found]
          cases p with
          | triple t => cases member
          | _ => exact List.mem_flatMap.mpr ⟨_, member, below⟩

theorem owns_of_mem_templateVisitsAt {bodyTriples : List PatternId} {levels : Nat}
    {given id : PatternId} {visit : Visit}
    (member : visit ∈ arena.templateVisitsAt bodyTriples levels given id) :
    ∃ owner cell t, visit = .triple t owner ∧ arena.TemplateOwns given id owner cell t ∧
      cell ∉ bodyTriples := by
  induction levels generalizing given id with
  | zero => cases member
  | succ levels induction =>
      rw [templateVisitsAt] at member
      split at member
      case h_1 t found =>
        split at member
        · cases member
        · next new => exact ⟨given, id, t, List.mem_singleton.mp member, .triple found, new⟩
      case h_2 p _ found =>
        rcases List.mem_flatMap.mp member with ⟨child, memberChild, member⟩
        rcases induction member with ⟨owner, cell, t, equal, owns, new⟩
        exact ⟨owner, cell, t, equal, .part found memberChild owns, new⟩
      case h_3 => cases member

theorem Owns.not_subquery {id : PatternId} {t : Triple} {sub : Query} (owns : arena.Owns id t) :
    arena.get? id ≠ some (.subquery sub) := by
  intro found
  cases owns with
  | self here | cell here _ _ | child here _ _ | childCell here _ _ _ _ =>
      exact nomatch here.symm.trans found

theorem TemplateOwns.owner_eq_or {given id owner cell : PatternId} {t : Triple}
    (owns : arena.TemplateOwns given id owner cell t) :
    owner = given ∨ ∃ p, arena.get? owner = some p ∧ p.isGroup = true := by
  induction owns with
  | triple _ => exact .inl rfl
  | @part _ _ _ _ _ _ p found _ _ induction =>
      by_cases group : p.isGroup = true
      · rw [if_pos group] at induction
        rcases induction with rfl | other
        · exact .inr ⟨p, found, group⟩
        · exact .inr other
      · rwa [if_neg group] at induction

theorem TemplateOwns.not_subquery {template owner cell : PatternId} {t : Triple} {sub : Query}
    (owns : arena.TemplateOwns template template owner cell t) :
    arena.get? owner ≠ some (.subquery sub) := by
  intro found
  rcases owns.owner_eq_or with rfl | ⟨p, here, group⟩
  · cases owns with
    | triple here => exact nomatch here.symm.trans found
    | part here member _ =>
        rcases Option.some.inj (here.symm.trans found) with rfl
        cases member
  · rcases Option.some.inj (here.symm.trans found) with rfl
    cases group

end Arena

/-! ## Occurrences -/

/-- A blank node occurs in the query, or in a subquery that a check of it enters, with the owner at
the end of the path. The path leads to the owner through the subqueries around it. -/
inductive Query.Occurs : Query → (label : String) → (path : List PatternId) → Prop
  | matched {query : Query} {label : String} {root id : PatternId} {t : Triple}
      (matched : root ∈ query.matched) (enters : query.arena.Enters root id)
      (owns : query.arena.Owns id t) (blank : label ∈ t.blankLabels) : Occurs query label [id]
  | template {query : Query} {label : String} {template owner cell : PatternId} {t : Triple}
      (member : template ∈ query.templates)
      (owns : query.arena.TemplateOwns template template owner cell t)
      (new : cell ∉ query.bodyTripleIds) (blank : label ∈ t.blankLabels) :
      Occurs query label [owner]
  | nested {query sub : Query} {label : String} {root id : PatternId} {path : List PatternId}
      (matched : root ∈ query.matched) (enters : query.arena.Enters root id)
      (found : query.arena.get? id = some (.subquery sub)) (within : Occurs sub label path) :
      Occurs query label (id :: path)

namespace Query

theorem Occurs.nonempty {query : Query} {label : String} {path : List PatternId}
    (occurs : query.Occurs label path) : ∃ id rest, path = id :: rest := by
  cases occurs <;> exact ⟨_, _, rfl⟩

theorem Occurs.inside {query sub : Query} {label : String} {id : PatternId}
    {rest : List PatternId} (occurs : query.Occurs label (id :: rest))
    (found : query.arena.get? id = some (.subquery sub)) : sub.Occurs label rest := by
  cases occurs with
  | matched _ _ owns _ => exact (owns.not_subquery found).elim
  | template _ owns _ _ => exact (owns.not_subquery found).elim
  | nested _ _ found' within =>
      rcases Pattern.subquery.inj (Option.some.inj (found.symm.trans found')) with rfl
      exact within

theorem mem_visits_of_matched {query : Query} (ready : query.Ready) {root id : PatternId}
    {visit : Visit} (matched : root ∈ query.matched) (enters : query.arena.Enters root id)
    (makes : query.arena.Makes id visit) : visit ∈ query.visits := by
  have within := Arena.mem_visitsAt_of_enters (ready.matched root matched).fits enters makes
  rcases List.mem_append.mp matched with body | tested
  · refine List.mem_append_left _ (List.mem_append_left _ ?_)
    exact List.mem_flatMap.mpr ⟨root, body, within []⟩
  · rcases List.mem_flatMap.mp tested with ⟨item, member, tested⟩
    refine List.mem_append_right _ (Arena.mem_inOrder_of_mem member (fun before => ?_) _)
    exact List.mem_flatMap.mpr ⟨root, tested, within before⟩

theorem mem_visits_of_template {query : Query} (ready : query.Ready)
    {template owner cell : PatternId} {t : Triple} (member : template ∈ query.templates)
    (owns : query.arena.TemplateOwns template template owner cell t)
    (new : cell ∉ query.bodyTripleIds) : .triple t owner ∈ query.visits := by
  have within := Arena.mem_templateVisitsAt_of_owns (ready.templates template member) owns new
  refine List.mem_append_left _ (List.mem_append_right _ ?_)
  exact List.mem_flatMap.mpr ⟨template, member, within⟩

theorem cases_of_mem_visits {query : Query} {visit : Visit} (member : visit ∈ query.visits) :
    (∃ target before, visit = .bind target before) ∨
      (∃ root ∈ query.matched, ∃ id, query.arena.Enters root id ∧ query.arena.Makes id visit) ∨
      ∃ template ∈ query.templates, ∃ owner cell t, visit = .triple t owner ∧
        query.arena.TemplateOwns template template owner cell t ∧ cell ∉ query.bodyTripleIds := by
  have ofMatched {root : PatternId} {before : Scope} (matched : root ∈ query.matched)
      (member : visit ∈ query.arena.visits before root) :
      (∃ target before, visit = .bind target before) ∨
        ∃ root ∈ query.matched, ∃ id, query.arena.Enters root id ∧ query.arena.Makes id visit := by
    apply (Arena.makes_of_mem_visitsAt member).imp_right
    intro holds
    rcases holds with ⟨id, enters, makes⟩
    exact ⟨root, matched, id, enters, makes⟩
  rcases List.mem_append.mp member with member | member
  · rcases List.mem_append.mp member with member | member
    · rcases List.mem_flatMap.mp member with ⟨root, body, member⟩
      exact (ofMatched (List.mem_append_left _ body) member).imp_right .inl
    · rcases List.mem_flatMap.mp member with ⟨template, memberTemplate, member⟩
      exact .inr (.inr ⟨template, memberTemplate, Arena.owns_of_mem_templateVisitsAt member⟩)
  · rcases Arena.mem_inOrder member with ⟨item, memberItem, before, member⟩
    rcases List.mem_flatMap.mp member with ⟨root, tested, member⟩
    have matched : root ∈ query.matched :=
      List.mem_append_right _ (List.mem_flatMap.mpr ⟨item, memberItem, tested⟩)
    exact (ofMatched matched member).imp_right .inl

end Query

end Sparql
