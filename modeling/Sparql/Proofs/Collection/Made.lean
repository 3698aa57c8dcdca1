import Mathlib.Data.List.Forall2
import Mathlib.Data.List.Nodup
import Sparql.Build.Patterns
import Sparql.Proofs.Names.Basic
import Sparql.Proofs.Run

/-!
What making a collection comes to. It cannot fail, its cells are the next blank nodes of the query,
and its triples say of each cell what its item is and what comes next: `ends_collection`.
-/

namespace Sparql

/-! ## Statements -/

def Triple.said (t : Triple) : Expr × Expr × Expr := (t.subject, t.predicate, t.object)

namespace Build

def statements : List (Expr × Expr) → List (Expr × Expr × Expr)
  | [] => []
  | (node, item) :: rest =>
    (node, .const (.iri Vocabulary.rdfFirst), item) ::
      (node, .const (.iri Vocabulary.rdfRest), (rest.head?.map (·.1)).getD nil) ::
      statements rest

theorem length_statements (pairs : List (Expr × Expr)) :
    (statements pairs).length = 2 * pairs.length := by
  induction pairs with
  | nil => rfl
  | cons pair rest induction => simp only [statements, List.length_cons, induction]; omega

/-! ## Cells -/

def cellVariables (start count : Nat) : List Variable :=
  (List.range' start count).map fun number => { name := (Name.blank number).text, blank := true }

theorem length_cellVariables (start count : Nat) : (cellVariables start count).length = count := by
  rw [cellVariables, List.length_map, List.length_range']

theorem nodup_names_cellVariables (start count : Nat) :
    ((cellVariables start count).map (·.name)).Nodup := by
  rw [cellVariables, List.map_map]
  exact (List.nodup_range' ..).map fun _ _ equal => Name.blank.inj (Name.text_injective equal)

def cellNodes (start count : Nat) : List Expr := (cellVariables start count).map Expr.var

theorem length_cellNodes (start count : Nat) : (cellNodes start count).length = count := by
  rw [cellNodes, List.length_map, length_cellVariables]

theorem run_blank_none (query : Query) :
    (blank none).run query =
      .ok { name := (Name.blank query.supply.blanks).text, blank := true }
        { query with supply.blanks := query.supply.blanks + 1 } := by
  rw [← ofBlank_blank]
  rfl

theorem ends_blankNodes (items : List Expr) (query : Query) :
    Ends (items.mapM fun _ => do return Expr.var (← blank none)) query
      (fun nodes query' =>
        nodes = cellNodes query.supply.blanks items.length ∧
        query'.supply.blanks = query.supply.blanks + items.length)
      fun _ _ => False := by
  induction items generalizing query with
  | nil => exact ⟨rfl, rfl⟩
  | cons item rest induction =>
      rw [List.mapM_cons]
      simp only [ends_bind, ends_pure]
      apply Ends.of_run_ok (run_blank_none query)
      refine (induction _).imp ?_ fun _ _ => id
      intro nodes query' holds
      rcases holds with ⟨equal, count⟩
      refine ⟨?_, ?_⟩
      · rw [equal, cellNodes, cellNodes, cellVariables, cellVariables, List.length_cons,
          List.range'_succ, List.map_cons, List.map_cons]
      · rw [count, List.length_cons, Nat.add_assoc, Nat.add_comm 1]

/-! ## Triples -/

structure Adds (query query' : Query) : Prop where
  stays : ∀ id p, query.arena.get? id = some p → query'.arena.get? id = some p
  blanks : query'.supply.blanks = query.supply.blanks

theorem Adds.trans {query query' query'' : Query} (first : Adds query query')
    (second : Adds query' query'') : Adds query query'' where
  stays id p found := second.stays id p (first.stays id p found)
  blanks := second.blanks.trans first.blanks

theorem stays_push {arena : Arena Query} {id : PatternId} {p added : Pattern Query}
    (found : arena.get? id = some p) : (arena.push added).get? id = some p := by
  have inside : id < arena.size := (List.getElem?_eq_some_iff.mp found).1
  rw [Arena.get?_push, if_neg (Nat.ne_of_lt inside), found]

def Say (arena : Arena Query) (ids : List PatternId) (said : List (Expr × Expr × Expr)) : Prop :=
  ∃ ts, List.Forall₂ (fun id t => arena.get? id = some (.triple t)) ids ts ∧
    ts.map Triple.said = said

namespace Say

variable {ids ids' : List PatternId} {said said' : List (Expr × Expr × Expr)}

theorem adds {query query' : Query} (say : Say query.arena ids said)
    (adds : Adds query query') : Say query'.arena ids said := by
  rcases say with ⟨ts, found, equal⟩
  exact ⟨ts, found.imp fun id t here => adds.stays id (.triple t) here, equal⟩

theorem append {arena : Arena Query} (first : Say arena ids said)
    (rest : Say arena ids' said') : Say arena (ids ++ ids') (said ++ said') := by
  rcases first with ⟨ts, found, rfl⟩
  rcases rest with ⟨ts', found', rfl⟩
  exact ⟨ts ++ ts', List.rel_append found found', List.map_append⟩

end Say

theorem ends_plainTriple (subject object : Expr) (c : Constant) (query : Query) :
    Ends (triple subject { node := .const c } object) query
      (fun id query' => Adds query query' ∧
        Say query'.arena [id] [(subject, .const c, object)])
      fun _ _ => False := by
  have added (t : Triple) : (query.arena.push (.triple t)).get? query.arena.size =
      some (.triple t) :=
    (Arena.get?_push ..).trans (if_pos rfl)
  have adds (t : Triple) (query' : Query) (arena : query'.arena = query.arena.push (.triple t))
      (supply : query'.supply.blanks = query.supply.blanks) : Adds query query' :=
    ⟨fun id p found => arena ▸ stays_push found, supply⟩
  simp only [triple, Option.mapM_none, ends_bind, ends_pure, ends_get, ends_modify, push]
  split
  · exact ⟨adds _ _ rfl rfl, [_], .cons (added _) .nil, rfl⟩
  · exact ⟨adds _ _ rfl rfl, [_], .cons (added _) .nil, rfl⟩

theorem ends_cell_said (node item next : Expr) (query : Query) :
    Ends (cell node item next) query
      (fun ids query' => Adds query query' ∧ Say query'.arena ids
        [(node, .const (.iri Vocabulary.rdfFirst), item),
          (node, .const (.iri Vocabulary.rdfRest), next)])
      fun _ _ => False := by
  apply (ends_plainTriple node item _ query).bind
  intro first query₁ holds
  rcases holds with ⟨adds₁, firstSays⟩
  apply (ends_plainTriple node next _ query₁).bind
  intro rest query₂ holds
  rcases holds with ⟨adds₂, restSays⟩
  exact ⟨adds₁.trans adds₂, (firstSays.adds adds₂).append restSays⟩

theorem ends_cells_said (pairs : List (Expr × Expr)) (query : Query) :
    Ends (cells pairs) query
      (fun ids query' => Adds query query' ∧ Say query'.arena ids (statements pairs))
      fun _ _ => False := by
  induction pairs generalizing query with
  | nil => exact ⟨⟨fun _ _ => id, rfl⟩, [], .nil, rfl⟩
  | cons pair rest induction =>
      apply (ends_cell_said pair.1 pair.2 _ query).bind
      intro first query₁ holds
      rcases holds with ⟨adds₁, firstSay⟩
      apply (induction query₁).bind
      intro others query₂ holds
      rcases holds with ⟨adds₂, othersSay⟩
      exact ⟨adds₁.trans adds₂, (firstSay.adds adds₂).append othersSay⟩

/-! ## Collections -/

theorem ends_collection (items : List Expr) (query : Query) :
    let nodes := cellNodes query.supply.blanks items.length
    Ends (collection items) query
      (fun id query' =>
        query'.supply.blanks = query.supply.blanks + items.length ∧
        ∃ ids, query'.arena.get? id = some (.collection (nodes.head?.getD nil) ids) ∧
          Say query'.arena ids (statements (nodes.zip items)))
      fun _ _ => False := by
  intro nodes
  apply (ends_blankNodes items query).bind
  intro made query₁ holds
  rcases holds with ⟨rfl, count⟩
  apply (ends_cells_said (nodes.zip items) query₁).bind
  intro ids query₂ holds
  rcases holds with ⟨adds, say⟩
  have pushed : (query₂.arena.push (.collection (nodes.head?.getD nil) ids)).get?
      query₂.arena.size = some (.collection (nodes.head?.getD nil) ids) :=
    (Arena.get?_push ..).trans (if_pos rfl)
  have last : Adds query₂
      { query₂ with arena := query₂.arena.push (.collection (nodes.head?.getD nil) ids) } :=
    ⟨fun _ _ => stays_push, rfl⟩
  exact ⟨(last.blanks.trans adds.blanks).trans count, ids, pushed, say.adds last⟩

end Build

end Sparql
