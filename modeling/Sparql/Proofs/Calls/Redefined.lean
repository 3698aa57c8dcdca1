import Sparql.Proofs.Calls.Census
import Sparql.Proofs.Describe.Returns

/-!
Functions that are defined anew. No later definition is held against the calls that were counted by
an earlier one. So the calls in a correct query fit their functions, but for those whose function
got another number of parameters after they were counted: `fits_of_correct`.
-/

namespace Sparql

namespace Query

variable {foreign : String × Nat → Prop} {census : Census} {query query' : Query} {e : Expr}

theorem holds_of_same (expressions : query'.expressions = query.expressions)
    (definitions : ∀ key, query'.functions.definition? key = query.functions.definition? key)
    (holds : query'.Holds e) : query.Holds e := by
  rw [Query.Holds, expressions] at holds
  simp only [definitions] at holds
  exact holds

theorem Tracks.accounts_built (tracks : Tracks foreign census query)
    {counted : List (String × Nat)}
    (stays : ∀ call ∈ query.functions.waiting,
      call ∈ query'.functions.waiting ∨ call ∈ counted)
    (holds : ∀ e, query'.Holds e → query.Holds e)
    (new : e.Accounted foreign query'.functions (census.counted ++ counted)) :
    ∀ made, made ∈ census.built ++ [e] ∨ query'.Holds made →
      made.Accounted foreign query'.functions (census.counted ++ counted) := by
  rintro made (member | here)
  · rcases List.mem_append.mp member with old | last
    · exact (tracks.accounts made (.inl old)).later stays
    · exact List.mem_singleton.mp last ▸ new
  · exact (tracks.accounts made (.inr (holds made here))).later stays

end Query

/-! ## Operations -/

namespace Operation

open Query

variable {foreign : String × Nat → Prop} {census : Census} {query : Query} {operation : Operation}

theorem next_of_apart (apart : operation.concernsFunctions = false) :
    census.next operation query =
      { built := census.built ++ operation.built query
        counted := census.counted ++ []
        outgrown := census.outgrown } := by
  have uncalled := called_of_apart apart query
  cases operation with
  | normalize | define _ _ _ => cases apart
  | _ => simp only [Census.next, counts, outgrows, uncalled, List.filter_nil]

theorem tracks_apart (apart : operation.concernsFunctions = false)
    (tracks : Tracks foreign census query) (alone : ∀ sub, operation ≠ .subquery sub)
    (given : ∀ e ∈ operation.operands, e.Draws (census.Has query) foreign) :
    Tracks foreign (census.next operation query) (operation.run.after query) := by
  have adds := (Build.takes_attaching apart).adds query
  have stays : ∀ call ∈ query.functions.waiting,
      call ∈ (operation.run.after query).functions.waiting ∨ call ∈ ([] : List (String × Nat)) := by
    rw [adds.functions]
    exact fun _ => .inl
  have here (e : Expr) (member : e ∈ operation.operands) :=
    ((given e member).accounted tracks.accounts).later stays
  rw [next_of_apart apart]
  refine tracks.goesOn alone (fun key => by rw [adds.functions]) (by simp) ?_
  rintro e (member | member | ⟨key, definition, found, rfl⟩)
  · rcases List.mem_append.mp member with old | new
    · exact (tracks.accounts e (.inl old)).later stays
    · exact (plainOn_operands apart e new).callsAmong here
  · rcases adds.expressions e member with old | new
    · exact (tracks.accounts e (.inr (.inl old))).later stays
    · exact here e (mem_operands_of_attached apart new)
  · rw [adds.functions] at found
    exact (tracks.accounts _ (.inr (.inr ⟨key, definition, found, rfl⟩))).later stays

/-! ### Calls -/

section

variable {name : String} {args : List Expr} {distinct : Bool} {separator : Option String}
  {head : Call} {reports : List Diagnostic}

theorem next_aggregate {called : List (String × Nat)} {e : Expr}
    (uncounted : (aggregate name args distinct separator).called query = called)
    (built : (aggregate name args distinct separator).built query = [e]) :
    census.next (aggregate name args distinct separator) query =
      { built := census.built ++ [e]
        counted := census.counted ++ called.filter fun call => query.functions.isDefined call.1
        outgrown := census.outgrown } := by
  rw [Census.next, built, ← uncounted]
  rfl

variable (tracks : Tracks foreign census query)
  (given : ∀ e ∈ args, e.Draws (census.Has query) foreign)

include tracks given

theorem tracks_aggregate_of_isDefined
    (called : (aggregate name args distinct separator).called query = [(head.key, args.length)])
    (isDefined : query.functions.isDefined head.key = true)
    (run : (Build.aggregate name args distinct separator).run query =
      .ok (.call { head with operator := .userFunction } args) (query.reporting (reports ++
        (Functions.misfit? query.functions.arity? (head.key, args.length)).toList))) :
    Tracks foreign (census.next (aggregate name args distinct separator) query)
      ((aggregate name args distinct separator).run.after query) := by
  have after := after_aggregate run
  have counted : ([(head.key, args.length)].filter fun call =>
      query.functions.isDefined call.1) = [(head.key, args.length)] := by
    simp [isDefined]
  have stays : ∀ call ∈ query.functions.waiting, call ∈ query.functions.waiting ∨
      call ∈ [(head.key, args.length)] := fun _ => .inl
  rw [next_aggregate called (built_of_run_ok rfl rfl run), counted]
  refine tracks.goesOn (by simp) (fun key => by rw [after]; rfl) (fun correct => ?_) ?_
  · rw [after, correct_reporting, List.forall_mem_append] at correct
    rw [List.forall_mem_singleton]
    exact Functions.arity?_of_isDefined isDefined correct.2.2
  · rw [after]
    refine tracks.accounts_built stays (fun _ => id) ?_
    refine Expr.callsAmong_call ⟨by simp, fun _ => ?_⟩ rfl fun e member => ?_
    · exact .inl (List.mem_append_right _ (List.mem_singleton_self _))
    · exact ((given e member).accounted tracks.accounts).later stays

theorem tracks_aggregate_of_deferred
    (called : (aggregate name args distinct separator).called query = [(head.key, args.length)])
    (undefined : query.functions.isDefined head.key = false) (operator : head.operator = .undefined)
    (run : (Build.aggregate name args distinct separator).run query =
      .ok (.call head args) { query.reporting reports with
        functions := query.functions.defer head.key args.length }) :
    Tracks foreign (census.next (aggregate name args distinct separator) query)
      ((aggregate name args distinct separator).run.after query) := by
  have after := after_aggregate run
  have counted : ([(head.key, args.length)].filter fun call =>
      query.functions.isDefined call.1) = [] := by
    simp [undefined]
  have waits (call : String × Nat) :
      call ∈ (query.functions.defer head.key args.length).waiting ↔
        call ∈ query.functions.waiting ∨ call = (head.key, args.length) := by
    rw [(query.functions.waiting_defer head.key args.length).mem_iff, List.mem_append,
      List.mem_singleton]
  have stays : ∀ call ∈ query.functions.waiting,
      call ∈ (query.functions.defer head.key args.length).waiting ∨
        call ∈ ([] : List (String × Nat)) :=
    fun call member => .inl ((waits call).mpr (.inl member))
  rw [next_aggregate called (built_of_run_ok rfl rfl run), counted]
  refine tracks.goesOn (by simp) (fun key => by rw [after]; rfl) (by simp) ?_
  rw [after]
  refine tracks.accounts_built stays (fun _ => id) ?_
  refine Expr.callsAmong_call ⟨fun _ => ?_, fun function => ?_⟩ rfl fun e member => ?_
  · exact .inl ((waits _).mpr (.inr rfl))
  · rw [operator] at function
    cases function
  · exact ((given e member).accounted tracks.accounts).later stays

theorem tracks_aggregate_of_undefined
    (undefined : Operator.ofName (query.namespaces.key name) = .undefined) :
    Tracks foreign (census.next (aggregate name args distinct separator) query)
      ((aggregate name args distinct separator).run.after query) := by
  rcases Build.exists_run_aggregate_of_undefined tracks.lenient name distinct separator
    undefined with ⟨head, reports, operator, key, _, runs⟩
  have run := runs args query rfl rfl rfl
  have called : (aggregate name args distinct separator).called query =
      [(head.key, args.length)] := by
    rw [Operation.called, if_pos undefined, key]
  simp only [Build.asked, functions_reporting] at run
  cases found : query.functions.definition? head.key with
  | some definition =>
      rw [found] at run
      dsimp only at run
      rw [← reporting_append] at run
      have isDefined : query.functions.isDefined head.key = true := by
        rw [Functions.isDefined, found]
        rfl
      exact tracks_aggregate_of_isDefined tracks given called isDefined run
  | none =>
      rw [found] at run
      have isDefined : query.functions.isDefined head.key = false := by
        rw [Functions.isDefined, found]
        rfl
      exact tracks_aggregate_of_deferred tracks given called isDefined operator run

theorem tracks_aggregate_of_meant
    (meant : Operator.ofName (query.namespaces.key name) ≠ .undefined) :
    Tracks foreign (census.next (aggregate name args distinct separator) query)
      ((aggregate name args distinct separator).run.after query) := by
  rcases Build.exists_yields_aggregate tracks.lenient name distinct separator meant
    (fun _ => false) (Expr.resolvedAll (fun _ => false) args) with
    ⟨head, reports, operator, _, yields⟩
  have run := yields args rfl query rfl rfl rfl
  have after := after_aggregate run
  have terms : Expr.termsOf (Build.builtArgs head args) = Expr.termsOf args := by
    rw [Build.builtArgs]
    split
    · exact Build.termsOf_castArgs head args
    · rfl
  have uncalled : (aggregate name args distinct separator).called query = [] := by
    rw [Operation.called, if_neg meant]
  have stays : ∀ call ∈ query.functions.waiting, call ∈ query.functions.waiting ∨
      call ∈ ([] : List (String × Nat)) := fun _ => .inl
  rw [next_aggregate uncalled (built_of_run_ok rfl rfl run), List.filter_nil]
  refine tracks.goesOn (by simp) (fun key => by rw [after]; rfl) (by simp) ?_
  rw [after]
  refine tracks.accounts_built stays (fun _ => id) ?_
  refine Expr.callsAmong_call ⟨?_, ?_⟩ terms fun e member => ?_
  · rw [operator]
    exact (absurd · meant)
  · rw [operator]
    exact (absurd · (Operator.ofName_plain _).2)
  · exact ((given e member).accounted tracks.accounts).later stays

theorem tracks_aggregate :
    Tracks foreign (census.next (aggregate name args distinct separator) query)
      ((aggregate name args distinct separator).run.after query) := by
  by_cases undefined : Operator.ofName (query.namespaces.key name) = .undefined
  · exact tracks_aggregate_of_undefined tracks given undefined
  · exact tracks_aggregate_of_meant tracks given undefined

end

/-! ### Definitions -/

theorem arity?_after_define (lenient : query.options.strict = false) (name : String)
    (params : List Variable) (body : Expr) (key : String) :
    ((define name params body).run.after query).functions.arity? key =
      if key = query.namespaces.key name then some params.length
      else query.functions.arity? key := by
  rcases exists_after_define lenient name params body with ⟨reports, after⟩
  rw [after, Functions.arity?, Functions.definition?_define]
  split
  · simp
  · rfl

theorem mem_outgrows_define {name : String} {params : List Variable} {body : Expr}
    {call : String × Nat} : call ∈ (define name params body).outgrows query census ↔
      call ∈ census.outgrown ∧ call.1 ≠ query.namespaces.key name ∨
        call ∈ census.counted ∧ call.1 = query.namespaces.key name ∧ call.2 ≠ params.length := by
  rw [outgrows, List.mem_append, List.mem_filter, List.mem_filter, decide_eq_true_iff,
    decide_eq_true_iff]

theorem next_define (name : String) (params : List Variable) (body : Expr) :
    census.next (define name params body) query =
      { built := census.built
        counted := census.counted
        outgrown := (define name params body).outgrows query census } := by
  have built : (define name params body).built query = [] := if_neg (by simp [isBuilding])
  have counted : (define name params body).counts query = [] := rfl
  rw [Census.next, built, counted, List.append_nil, List.append_nil]

theorem accounts_after_define (tracks : Tracks foreign census query) (name : String)
    (params : List Variable) {body : Expr} (given : body.Draws (census.Has query) foreign) :
    ∀ e, census.Has ((define name params body).run.after query) e →
      e.Accounted foreign ((define name params body).run.after query).functions
        census.counted := by
  rcases exists_after_define tracks.lenient name params body with ⟨reports, after⟩
  rw [after]
  rintro e (built | here | ⟨key, definition, found, rfl⟩)
  · exact tracks.accounts e (.inl built)
  · exact tracks.accounts e (.inr (.inl here))
  · change (query.functions.define _).definition? key = _ at found
    rw [Functions.definition?_define] at found
    split at found
    · cases found
      exact given.accounted tracks.accounts
    · exact tracks.accounts _ (.inr (.inr ⟨key, definition, found, rfl⟩))

/-- A definition replaces an earlier one, and is not held against the calls that were counted. -/
theorem tracks_define {name : String} {params : List Variable} {body : Expr}
    (tracks : Tracks foreign census query) (given : body.Draws (census.Has query) foreign) :
    Tracks foreign (census.next (define name params body) query)
      ((define name params body).run.after query) := by
  have arity := arity?_after_define tracks.lenient name params body
  have accounts := accounts_after_define tracks name params given
  have outgrows (call : String × Nat) := @mem_outgrows_define census query name params body call
  rw [next_define]
  refine ⟨tracks.lenient_after _, tracks.whole_after _ (by simp), accounts, ?_, ?_⟩
  · intro correct call counted current
    rw [arity]
    split
    · next here =>
        have fits : call.2 = params.length := by
          apply Decidable.byContradiction
          intro other
          exact current ((outgrows call).mpr (.inr ⟨counted, here, other⟩))
        rw [fits]
    · next other =>
        apply tracks.fits (correct_of_after correct) call counted
        exact fun outgrown => current ((outgrows call).mpr (.inl ⟨outgrown, other⟩))
  · intro call member
    rw [arity]
    rcases (outgrows call).mp member with ⟨outgrown, other⟩ | ⟨_, here, other⟩
    · rw [if_neg other]
      exact tracks.unfit call outgrown
    · rw [if_pos here]
      exact ⟨_, rfl, other.symm⟩

/-! ### Normalizing -/

theorem next_normalize : census.next normalize query =
    { built := census.built ++ []
      counted := census.counted ++ normalize.counts query
      outgrown := census.outgrown } := by
  have built : normalize.built query = [] := if_neg (by simp [isBuilding])
  rw [Census.next, built]
  rfl

theorem tracks_of_settles (tracks : Tracks foreign census query)
    (new : query.normalized = false) (settles : Build.Settles query (normalize.run.after query)) :
    Tracks foreign (census.next normalize query) (normalize.run.after query) := by
  have mem_counts (call : String × Nat) : call ∈ normalize.counts query ↔
      call ∈ query.functions.waiting ∧ query.functions.isDefined call.1 = true := by
    rw [counts, if_neg (Bool.eq_false_iff.mp new), List.mem_filter]
  have stays : ∀ call ∈ query.functions.waiting,
      call ∈ (normalize.run.after query).functions.waiting ∨ call ∈ normalize.counts query := by
    intro call waits
    rw [settles.functions, mem_counts]
    cases isDefined : query.functions.isDefined call.1 with
    | true => exact .inr ⟨waits, rfl⟩
    | false => exact .inl (mem_waiting_settled waits isDefined)
  rw [next_normalize]
  refine tracks.goesOn (by simp) (fun key => ?_) (fun correct call member => ?_) ?_
  · rw [settles.functions, arity?_settled]
  · rw [settles.log] at correct
    rcases (mem_counts call).mp member with ⟨waits, isDefined⟩
    exact arity?_of_correct_settled correct waits isDefined
  · rw [List.append_nil]
    rintro e (built | holds)
    · exact (tracks.accounts e (.inl built)).later stays
    · have holds' : query.settled.Holds e :=
        holds_of_same settles.expressions (fun key => by rw [settles.functions]) holds
      rcases holds_settled holds' with ⟨before, here, rfl | rfl⟩
      · exact (tracks.accounts e (.inr here)).later stays
      · refine (tracks.accounts before (.inr here)).resolved _ ?_ stays
        exact fun call waits isDefined => (mem_counts call).mpr ⟨waits, isDefined⟩

theorem tracks_normalize (tracks : Tracks foreign census query) :
    Tracks foreign (census.next normalize query) (normalize.run.after query) := by
  have same : normalize.run.after query = Build.normalize.after query := by
    rw [run, silent, Build.after_map]
  cases old : query.normalized with
  | true =>
      have counted : normalize.counts query = [] := if_pos old
      have after : normalize.run.after query = query :=
        same.trans (Build.after_of_run_ok (Build.run_normalize_of_normalized old))
      rw [next_normalize, counted, after, List.append_nil, List.append_nil]
      exact tracks
  | false =>
      have settles := Build.settles_of_whole tracks.lenient old tracks.whole
      exact tracks_of_settles tracks old (same ▸ settles)

theorem tracks_after (operation : Operation) (tracks : Tracks foreign census query)
    (alone : ∀ sub, operation ≠ .subquery sub)
    (given : ∀ e ∈ operation.operands, e.Draws (census.Has query) foreign) :
    Tracks foreign (census.next operation query) (operation.run.after query) := by
  cases concerns : operation.concernsFunctions with
  | false => exact tracks_apart concerns tracks alone given
  | true =>
      cases operation with
      | call name args => exact tracks_aggregate tracks given
      | aggregate name args distinct separator => exact tracks_aggregate tracks given
      | define name params body =>
          exact tracks_define tracks (given body (List.mem_singleton_self body))
      | normalize => exact tracks_normalize tracks
      | _ => cases concerns

end Operation

/-! ## Runs -/

namespace Query

variable {foreign : String × Nat → Prop} {census : Census} {query : Query}

theorem Counted.tracks (counted : query.Counted foreign census) : Tracks foreign census query := by
  induction counted with
  | empty options namespaces library labelOrder lenient =>
      exact tracks_empty foreign options namespaces library labelOrder lenient
  | step operation _ alone given tracks => exact operation.tracks_after tracks alone given

/-- Whenever the query is correct, normalized or not, each call of a function in its expressions and
in the bodies of functions is one of a function that is defined. Unless the call was put in from
elsewhere, it has as many arguments as that function has parameters, exactly if no definition since
the call was counted left the function with another number of parameters. -/
theorem Counted.fits_of_correct (counted : query.Counted foreign census)
    (correct : query.log.correct = true) {e : Expr} (holds : query.Holds e) :
    ∀ term ∈ e.terms, term.1.operator = .userFunction →
      foreign (term.1.key, term.2.length) ∨
        ∃ definition, query.functions.definition? term.1.key = some definition ∧
          (term.2.length = definition.params.length ↔
            (term.1.key, term.2.length) ∉ census.outgrown) := by
  intro term member function
  have tracks := counted.tracks
  rcases (tracks.accounts e (.inr holds) term member).function function with wasCounted | other
  · refine .inr ?_
    by_cases outgrown : (term.1.key, term.2.length) ∈ census.outgrown
    · rcases tracks.unfit _ outgrown with ⟨params, arity, unfit⟩
      rcases Option.map_eq_some_iff.mp arity with ⟨definition, found, rfl⟩
      exact ⟨definition, found, iff_of_false unfit.symm (not_not.mpr outgrown)⟩
    · have arity := tracks.fits correct _ wasCounted outgrown
      rcases Option.map_eq_some_iff.mp arity with ⟨definition, found, same⟩
      exact ⟨definition, found, iff_of_true same.symm outgrown⟩
  · exact .inl other

/-! ## A function that is defined twice -/

def callingF : Query :=
  (Operation.call "f" [.var (.ofName "x")]).run.after
    ((Operation.define "f" [.ofName "a"] (.var (.ofName "a"))).run.after {})

def calledF : Expr := .call { name := "f", operator := .userFunction } [.var (.ofName "x")]

/-- The call is made a condition, the function is defined anew, and the query is normalized. -/
def remaking (params : List Variable) : Query :=
  Operation.normalize.run.after
    ((Operation.define "f" params (.var (.ofName "a"))).run.after
      ((Operation.filter calledF).run.after callingF))

theorem holds_remaking (params : List Variable) : (remaking params).Holds calledF := by
  have expressions : (remaking params).expressions = [calledF] := rfl
  rw [Holds, expressions]
  exact .inl (List.mem_singleton_self _)

theorem Counted.plain (counted : query.Counted foreign census) (operation : Operation)
    (alone : ∀ sub, operation ≠ .subquery sub)
    (plain : ∀ e ∈ operation.operands, e.terms = []) :
    (operation.run.after query).Counted foreign (census.next operation query) := by
  refine counted.step operation alone fun e member term inside => ?_
  rw [plain e member] at inside
  simp at inside

theorem exists_counted_remaking (params : List Variable) : ∃ census,
    (remaking params).Counted (fun _ => False) census ∧
      census.outgrown = [("f", 1)].filter fun call => call.1 = "f" ∧ call.2 ≠ params.length := by
  have empty : ({} : Query).Counted (fun _ => False) {} := .empty {} _ _ _ rfl
  have defined := empty.plain (.define "f" [.ofName "a"] (.var (.ofName "a"))) (by simp)
    (by simp [Operation.operands, Expr.terms])
  have called := defined.plain (.call "f" [.var (.ofName "x")]) (by simp)
    (by simp [Operation.operands, Expr.terms])
  have filtered := called.step (.filter calledF) (by simp) (fun e member term inside _ =>
    .inl ⟨e, .inl (List.mem_singleton.mp member ▸ List.mem_singleton_self _), inside⟩)
  have again := filtered.plain (.define "f" params (.var (.ofName "a"))) (by simp)
    (by simp [Operation.operands, Expr.terms])
  have normalized := again.plain .normalize (by simp)
    (by simp [Operation.operands, Operation.attached])
  exact ⟨_, normalized, rfl⟩

theorem remaking_fits :
    (∃ census, (remaking [.ofName "b"]).Counted (fun _ => False) census) ∧
      (remaking [.ofName "b"]).normalized = true ∧ (remaking [.ofName "b"]).log.correct = true ∧
      (remaking [.ofName "b"]).Holds calledF ∧
      ∃ definition, (remaking [.ofName "b"]).functions.definition? "f" = some definition ∧
        1 = definition.params.length := by
  rcases exists_counted_remaking [.ofName "b"] with ⟨census, counted, outgrown⟩
  have correct : (remaking [.ofName "b"]).log.correct = true := by decide +kernel
  have holds := holds_remaking [.ofName "b"]
  refine ⟨⟨census, counted⟩, by decide +kernel, correct, holds, ?_⟩
  rcases counted.fits_of_correct correct holds _ (List.mem_cons_self ..) rfl with
    other | ⟨definition, found, fits⟩
  · exact other.elim
  · refine ⟨definition, found, fits.mpr ?_⟩
    rw [outgrown]
    decide

theorem remaking_misfits :
    (∃ census, (remaking [.ofName "b", .ofName "c"]).Counted (fun _ => False) census) ∧
      (remaking [.ofName "b", .ofName "c"]).normalized = true ∧
      (remaking [.ofName "b", .ofName "c"]).log.correct = true ∧
      (remaking [.ofName "b", .ofName "c"]).Holds calledF ∧
      (remaking [.ofName "b", .ofName "c"]).functions.arity? "f" = some 2 := by
  rcases exists_counted_remaking [.ofName "b", .ofName "c"] with ⟨census, counted, _⟩
  refine ⟨⟨census, counted⟩, ?_, ?_, holds_remaking _, ?_⟩
  · decide +kernel
  · decide +kernel
  · decide +kernel

end Query

end Sparql
