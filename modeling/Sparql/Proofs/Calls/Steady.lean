import Sparql.Build.Calls
import Sparql.Build.Clauses
import Sparql.Proofs.Calls.Resolved
import Sparql.Proofs.Run

/-!
What making a call comes to on a query that collects errors. A call of anything but a function of
the query is up to the options, namespaces and library of the query; what else was made before does
not matter. Only a function of the query is looked up among its definitions, or has to wait for one.
-/

namespace Sparql

namespace Namespaces

def written (namespaces : Namespaces) (name : String) : String :=
  match splitName? name with
  | some (label, localName) => (namespaces.expand? label localName).getD name
  | none => name

def key (namespaces : Namespaces) (name : String) : String :=
  match unbracket? name with
  | some iri => namespaces.resolve iri
  | none => namespaces.written name

end Namespaces

/-! ## Operations that only report -/

namespace Build

variable {α β : Type} {options : Options} {namespaces : Namespaces} {library : Regex.Library}

/-- Given the options, the namespaces and the library, the operation returns the value, and does
nothing but report. -/
def Yields (options : Options) (namespaces : Namespaces) (library : Regex.Library) (x : Build α)
    (value : α) (reports : List Diagnostic) : Prop :=
  ∀ query : Query, query.options = options → query.namespaces = namespaces →
    query.library = library → x.run query = .ok value (query.reporting reports)

theorem yields_pure (value : α) : Yields options namespaces library (pure value) value [] := by
  intro query _ _ _
  rw [query.reporting_nil]
  rfl

theorem Yields.bind {x : Build α} {next : α → Build β} {value : α} {value' : β}
    {reports reports' : List Diagnostic} (first : Yields options namespaces library x value reports)
    (second : Yields options namespaces library (next value) value' reports') :
    Yields options namespaces library (x >>= next) value' (reports ++ reports') := by
  intro query same same' same''
  rw [EStateM.run_bind, first query same same' same'', Query.reporting_append]
  exact second _ same same' same''

theorem yields_get_bind {next : Query → Build α} {value : α} {reports : List Diagnostic}
    (yields : ∀ query : Query, query.options = options → query.namespaces = namespaces →
      query.library = library → Yields options namespaces library (next query) value reports) :
    Yields options namespaces library (get >>= next) value reports :=
  fun query same same' same'' => yields query same same' same'' query same same' same''

section

variable (lenient : options.strict = false)

include lenient

theorem yields_problem (p : Problem) :
    Yields options namespaces library (problem p) () [p.toDiagnostic] := by
  intro query same _ _
  have ends : Ends (problem p) query (fun _ query' => query' = query.reporting [p.toDiagnostic])
      fun _ _ => False := by
    rw [problem, ends_report, same, lenient, Bool.and_false, if_neg Bool.false_ne_true, ← same]
    rfl
  rcases ends.exists_ok with ⟨value, query', run, equal⟩
  rw [run, equal]

omit lenient in
theorem exists_yields_ite {condition : Prop} [Decidable condition] {x y : Build α} {value : α}
    (yes : ∃ reports, Yields options namespaces library x value reports)
    (no : ∃ reports, Yields options namespaces library y value reports) :
    ∃ reports, Yields options namespaces library (if condition then x else y) value reports := by
  split
  · exact yes
  · exact no

/-! ## Names -/

def AboutPrefix (reports : List Diagnostic) : Prop :=
  ∀ report ∈ reports, report.code = .undefinedPrefix

omit lenient in
theorem aboutPrefix_nil : AboutPrefix [] := by
  intro report member
  simp at member

theorem exists_yields_expand (name : String) : ∃ reports,
    Yields options namespaces library (expand name)
      (match unbracket? name with
      | some iri => namespaces.resolve iri
      | none => namespaces.written name) reports ∧ AboutPrefix reports := by
  unfold expand Namespaces.written
  cases unbracket? name with
  | some iri =>
      refine ⟨[], yields_get_bind fun query _ same' _ => ?_, aboutPrefix_nil⟩
      rw [same']
      exact yields_pure _
  | none =>
      cases splitName? name with
      | none => exact ⟨[], yields_get_bind fun query _ _ _ => yields_pure _, aboutPrefix_nil⟩
      | some parts =>
          cases expanded : namespaces.expand? parts.1 parts.2 with
          | some iri =>
              refine ⟨[], yields_get_bind fun query _ same' _ => ?_, aboutPrefix_nil⟩
              simp only [same', expanded]
              exact yields_pure _
          | none =>
              refine ⟨[(Problem.undefinedPrefix parts.1 name).toDiagnostic] ++ [],
                yields_get_bind fun query _ same' _ => ?_, ?_⟩
              · simp only [same', expanded]
                exact (yields_problem lenient _).bind (yields_pure _)
              · intro report member
                rw [List.append_nil, List.mem_singleton] at member
                rw [member]
                rfl

theorem exists_yields_prefixedName (name : String) : ∃ constant reports,
    Yields options namespaces library (prefixedName name) constant reports := by
  rcases exists_yields_expand lenient name with ⟨reports, yields, _⟩
  exact ⟨_, _, yields.bind (yields_pure _)⟩

theorem exists_yields_calledName (name : String) : ∃ called reports,
    Yields options namespaces library (calledName name) called reports ∧ AboutPrefix reports ∧
      called.2.getD called.1 = namespaces.key name := by
  unfold calledName Namespaces.key
  cases bracketed : unbracket? name with
  | some iri =>
      refine ⟨(iri, some (namespaces.resolve iri)), [],
        yields_get_bind fun query _ same' _ => ?_, aboutPrefix_nil, rfl⟩
      rw [same']
      exact yields_pure _
  | none =>
      dsimp only
      split
      · next isFull =>
          refine ⟨_, _, yields_pure _, aboutPrefix_nil, ?_⟩
          rw [Namespaces.written, splitName?, if_pos isFull]
          rfl
      · split
        · rcases @exists_yields_expand _ namespaces library lenient name
            with ⟨reports, yields, about⟩
          rw [bracketed] at yields
          refine ⟨_, reports ++ [], yields.bind (yields_pure _), ?_, rfl⟩
          rwa [List.append_nil]
        · next plain =>
            refine ⟨_, _, yields_pure _, aboutPrefix_nil, ?_⟩
            rw [Namespaces.written, Option.not_isSome_iff_eq_none.mp plain]
            rfl

/-! ## Calls that have a meaning of their own -/

theorem exists_yields_checkArguments (call : Call) (args : List Expr) : ∃ reports,
    Yields options namespaces library (checkArguments call args) () reports := by
  rw [checkArguments]
  split
  · have nested : ∃ reports, Yields options namespaces library (do
        if Expr.anyHasAggregate args then
          problem (.nestedAggregate call.name)) () reports :=
      exists_yields_ite ⟨_, yields_problem lenient _⟩ ⟨_, yields_pure ()⟩
    rcases nested with ⟨reports, nested⟩
    exact exists_yields_ite ⟨_, nested⟩ ⟨_, (yields_problem lenient _).bind nested⟩
  · split
    · exact exists_yields_ite ⟨_, yields_pure ()⟩ ⟨_, yields_problem lenient _⟩
    · exact ⟨_, yields_pure ()⟩

def readRegex (call : Call) (widen : Bool) : (pattern? flags? : Option String) → Build Call
  | some pattern, some flags => do
    let source := if widen then Regex.widened pattern.toList else pattern.toList
    match (← get).library.fault? source flags with
    | none => return { call with regex := some { source := String.ofList source, flags } }
    | some fault =>
      problem (.invalidRegex pattern fault)
      return call
  | _, _ => return call

omit lenient in
theorem prepareRegex_eq (call : Call) (args : List Expr) (flagsAt : Nat) (widen : Bool) :
    prepareRegex call args flagsAt widen = (do
      if !(← get).options.prepareRegexes then return call
      readRegex call widen (args[1]?.bind Expr.literal?)
        ((args[flagsAt]?.map Expr.literal?).getD (some ""))) := by
  rw [prepareRegex]
  cases args[flagsAt]? with
  | none => rfl
  | some flags => rfl

theorem exists_yields_readRegex (call : Call) (widen : Bool) (pattern? flags? : Option String) :
    ∃ regex reports, Yields options namespaces library (readRegex call widen pattern? flags?)
      { call with regex } reports := by
  unfold readRegex
  split
  · next pattern flags =>
      generalize (if widen then Regex.widened pattern.toList else pattern.toList) = source
      cases asked : library.fault? source flags with
      | none =>
          refine ⟨some { source := String.ofList source, flags }, [],
            yields_get_bind fun query _ _ same'' => ?_⟩
          simp only [same'', asked]
          exact yields_pure _
      | some fault =>
          refine ⟨call.regex, [(Problem.invalidRegex pattern fault).toDiagnostic] ++ [],
            yields_get_bind fun query _ _ same'' => ?_⟩
          simp only [same'', asked]
          exact (yields_problem lenient _).bind (yields_pure call)
  · exact ⟨call.regex, _, yields_pure call⟩

theorem exists_yields_prepareRegex (call : Call) (args : List Expr) (flagsAt : Nat) (widen : Bool) :
    ∃ regex reports, Yields options namespaces library (prepareRegex call args flagsAt widen)
      { call with regex } reports := by
  rw [prepareRegex_eq]
  cases reads : options.prepareRegexes with
  | false =>
      refine ⟨call.regex, [], yields_get_bind fun query same _ _ => ?_⟩
      simp only [same, reads, Bool.not_false, if_true]
      exact yields_pure call
  | true =>
      rcases @exists_yields_readRegex _ namespaces library lenient call widen
        (args[1]?.bind Expr.literal?) ((args[flagsAt]?.map Expr.literal?).getD (some ""))
        with ⟨regex, reports, yields⟩
      refine ⟨regex, reports, yields_get_bind fun query same _ _ => ?_⟩
      simp only [same, reads, Bool.not_true]
      exact yields

theorem exists_yields_linkExternal (call : Call) : ∃ external reports,
    Yields options namespaces library (linkExternal call) { call with external } reports := by
  rw [linkExternal]
  split
  · exact ⟨_, _, yields_pure _⟩
  · exact ⟨call.external, _, (yields_problem lenient _).bind (yields_pure call)⟩

def builtArgs (head : Call) (args : List Expr) : List Expr :=
  if head.operator = .cast then castArgs head args else args

omit lenient in
theorem resolvedAll_builtArgs (defined : String → Bool) (head : Call) (args : List Expr) :
    Expr.resolvedAll defined (builtArgs head args) =
      builtArgs head (Expr.resolvedAll defined args) := by
  unfold builtArgs
  split
  · exact (castArgs_resolvedAll defined head args).symm
  · rfl

omit lenient in
theorem callsOf_builtArgs (head : Call) (args : List Expr) :
    Expr.callsOf (builtArgs head args) = Expr.callsOf args := by
  unfold builtArgs
  split
  · exact callsOf_castArgs head args
  · rfl

def finish (call : Call) (args : List Expr) : Build Expr := do
  match call.operator with
  | .cast => return .call call (castArgs call args)
  | .hash => return .call { call with modality := Operator.digest? call.key } args
  | .regex => return .call (← prepareRegex call args 2 true) args
  | .replace => return .call (← prepareRegex call args 3 false) args
  | .external => return .call (← linkExternal call) args
  | .undefined => return .call (← resolveUser call args) args
  | _ => return .call call args

omit lenient in
theorem prepare_eq (call : Call) (args : List Expr) :
    prepare call args = (do checkArguments call args; finish call args) := rfl

theorem exists_yields_finish {call : Call} (meant : call.operator ≠ .undefined)
    (defined : String → Bool) (resolved : List Expr) :
    ∃ head reports, head.operator = call.operator ∧ head.key = call.key ∧
      ∀ args, Expr.resolvedAll defined args = resolved →
        Yields options namespaces library (finish call args) (.call head (builtArgs call args))
          reports := by
  have plain (other : call.operator ≠ .cast) (args : List Expr) : builtArgs call args = args :=
    if_neg other
  have read (flagsAt : Nat) (widen : Bool) : ∃ regex reports, ∀ args,
      Expr.resolvedAll defined args = resolved →
      Yields options namespaces library (prepareRegex call args flagsAt widen)
        { call with regex } reports := by
    rcases @exists_yields_prepareRegex _ namespaces library lenient call resolved flagsAt widen with
      ⟨regex, reports, yields⟩
    refine ⟨regex, reports, fun args same => ?_⟩
    rw [← prepareRegex_resolvedAll defined, same]
    exact yields
  unfold finish
  split
  · next operator =>
      refine ⟨call, [], rfl, Call.key_congr rfl rfl, fun args _ => ?_⟩
      rw [builtArgs, if_pos operator]
      exact yields_pure _
  · next operator =>
      refine ⟨{ call with modality := Operator.digest? call.key }, [], rfl, Call.key_congr rfl rfl,
        fun args _ => ?_⟩
      rw [plain (by rw [operator]; decide)]
      exact yields_pure _
  · next operator =>
      rcases read 2 true with ⟨regex, reports, yields⟩
      refine ⟨{ call with regex }, reports ++ [], rfl, Call.key_congr rfl rfl, fun args same => ?_⟩
      rw [plain (by rw [operator]; decide)]
      exact (yields args same).bind (yields_pure _)
  · next operator =>
      rcases read 3 false with ⟨regex, reports, yields⟩
      refine ⟨{ call with regex }, reports ++ [], rfl, Call.key_congr rfl rfl, fun args same => ?_⟩
      rw [plain (by rw [operator]; decide)]
      exact (yields args same).bind (yields_pure _)
  · next operator =>
      rcases @exists_yields_linkExternal _ namespaces library lenient call
        with ⟨external, reports, linked⟩
      refine ⟨{ call with external }, reports ++ [], rfl, Call.key_congr rfl rfl, fun args _ => ?_⟩
      rw [plain (by rw [operator]; decide)]
      exact linked.bind (yields_pure _)
  · next operator => exact absurd operator meant
  · next other _ _ _ _ _ =>
      refine ⟨call, [], rfl, Call.key_congr rfl rfl, fun args _ => ?_⟩
      rw [plain other]
      exact yields_pure _

theorem exists_yields_prepare {call : Call} (meant : call.operator ≠ .undefined)
    (defined : String → Bool) (resolved : List Expr) :
    ∃ head reports, head.operator = call.operator ∧ head.key = call.key ∧
      ∀ args, Expr.resolvedAll defined args = resolved →
        Yields options namespaces library (prepare call args) (.call head (builtArgs call args))
          reports := by
  rcases @exists_yields_checkArguments _ namespaces library lenient call resolved
    with ⟨reports, counted⟩
  rcases @exists_yields_finish _ namespaces library lenient call meant defined resolved with
    ⟨head, reports', operator, key, finished⟩
  refine ⟨head, reports ++ reports', operator, key, fun args same => ?_⟩
  rw [prepare_eq, ← checkArguments_resolvedAll defined, same]
  exact counted.bind (finished args same)

/-! ## Calls of functions of the query -/

omit lenient in
theorem prepare_undefined {call : Call} (undefined : call.operator = .undefined)
    (args : List Expr) :
    prepare call args = (Expr.call · args) <$> resolveUser call args := by
  have uncounted : checkArguments call args = pure () := by
    rw [checkArguments, Call.isAggregate, undefined]
    rfl
  rw [prepare, uncounted, undefined, pure_bind, map_eq_pure_bind]

theorem yields_checkParameters (key : String) (params found : Nat) :
    Yields options namespaces library (checkParameters key params found) ()
      (Functions.misfit? (fun _ => some params) (key, found)).toList := by
  rw [checkParameters, Functions.misfit?]
  dsimp only
  split
  · exact yields_pure ()
  · exact yields_problem lenient _

omit lenient in
theorem builtArgs_congr {head head' : Call} (operator : head.operator = head'.operator)
    (key : head.key = head'.key) (args : List Expr) :
    builtArgs head args = builtArgs head' args := by
  have cast : castArgs head args = castArgs head' args := by
    rcases args with _ | ⟨value, _ | ⟨second, rest⟩⟩
    · rfl
    · rw [castArgs, castArgs, key]
    · rfl
  rw [builtArgs, builtArgs, operator, cast]

def writtenCall (called : String × Option String) (distinct : Bool) (separator : Option String) :
    Call where
  name := called.1
  longName := called.2
  operator := Operator.ofName (called.2.getD called.1)
  distinct := distinct
  modality := separator

omit lenient in
theorem key_writtenCall (called : String × Option String) (distinct : Bool)
    (separator : Option String) :
    (writtenCall called distinct separator).key = called.2.getD called.1 := rfl

omit lenient in
theorem operator_writtenCall (called : String × Option String) (distinct : Bool)
    (separator : Option String) :
    (writtenCall called distinct separator).operator =
      Operator.ofName (writtenCall called distinct separator).key := by
  simp only [writtenCall, Call.key]

def asked (query : Query) (head : Call) (args : List Expr) : Expr × Query :=
  match query.functions.definition? head.key with
  | some _ =>
    (.call { head with operator := .userFunction } args,
      query.reporting (Functions.misfit? query.functions.arity? (head.key, args.length)).toList)
  | none =>
    (.call head args, { query with functions := query.functions.defer head.key args.length })

theorem run_resolveUser {query : Query} (same : query.options = options) (call : Call)
    (args : List Expr) :
    ((Expr.call · args) <$> resolveUser call args).run query =
      .ok (asked query call args).1 (asked query call args).2 := by
  rw [map_eq_pure_bind, EStateM.run_bind, resolveUser, EStateM.run_bind, EStateM.run_get, asked]
  dsimp only
  cases found : query.functions.definition? call.key with
  | some definition =>
      have misfit : Functions.misfit? query.functions.arity? (call.key, args.length) =
          Functions.misfit? (fun _ => some definition.params.length) (call.key, args.length) := by
        rw [Functions.misfit?, Functions.misfit?, Functions.arity?, found]
        rfl
      dsimp only
      rw [EStateM.run_bind, yields_checkParameters lenient call.key _ _ query same rfl rfl,
        misfit]
      rfl
  | none => rfl

omit lenient in
theorem aggregate_eq (name : String) (args : List Expr) (distinct : Bool)
    (separator : Option String) :
    aggregate name args distinct separator =
      (do prepare (writtenCall (← calledName name) distinct separator) args) := rfl

theorem exists_run_aggregate_of_undefined (name : String) (distinct : Bool)
    (separator : Option String)
    (undefined : Operator.ofName (namespaces.key name) = .undefined) :
    ∃ head reports, head.operator = .undefined ∧ head.key = namespaces.key name ∧
      AboutPrefix reports ∧ ∀ args (query : Query), query.options = options →
        query.namespaces = namespaces → query.library = library →
        (aggregate name args distinct separator).run query =
          .ok (asked (query.reporting reports) head args).1
            (asked (query.reporting reports) head args).2 := by
  rcases @exists_yields_calledName _ namespaces library lenient name with
    ⟨called, reports, yields, about, key⟩
  have key : (writtenCall called distinct separator).key = namespaces.key name :=
    (key_writtenCall called distinct separator).trans key
  have operator : (writtenCall called distinct separator).operator = .undefined := by
    rw [operator_writtenCall, key, undefined]
  refine ⟨writtenCall called distinct separator, reports, operator, key, about, ?_⟩
  intro args query same same' same''
  rw [aggregate_eq, EStateM.run_bind, yields query same same' same'']
  dsimp only
  rw [prepare_undefined operator]
  have same : (query.reporting reports).options = options := same
  exact run_resolveUser lenient same _ args

theorem exists_yields_aggregate (name : String) (distinct : Bool) (separator : Option String)
    (meant : Operator.ofName (namespaces.key name) ≠ .undefined)
    (defined : String → Bool) (resolved : List Expr) :
    ∃ head reports, head.operator = Operator.ofName (namespaces.key name) ∧
      head.key = namespaces.key name ∧ ∀ args, Expr.resolvedAll defined args = resolved →
        Yields options namespaces library (aggregate name args distinct separator)
          (.call head (builtArgs head args)) reports := by
  rcases @exists_yields_calledName _ namespaces library lenient name with
    ⟨called, reports, yields, about, key⟩
  have key : (writtenCall called distinct separator).key = namespaces.key name :=
    (key_writtenCall called distinct separator).trans key
  have operator : (writtenCall called distinct separator).operator =
      Operator.ofName (namespaces.key name) := by
    rw [operator_writtenCall, key]
  rcases @exists_yields_prepare _ namespaces library lenient (writtenCall called distinct separator)
    (by rwa [operator]) defined resolved with ⟨head, reports', operator', key', prepared⟩
  refine ⟨head, reports ++ reports', operator'.trans operator, key'.trans key, ?_⟩
  intro args same
  rw [aggregate_eq, builtArgs_congr operator' key']
  exact yields.bind (prepared args same)

/-! ## Definitions -/

theorem exists_run_define (name : String) (params : List Variable) : ∃ reports,
    ∀ (body : Expr) (query : Query), query.options = options → query.namespaces = namespaces →
      query.library = library → ∃ query', (define name params body).run query = .ok () query' ∧
        query' = { query.reporting reports with
          functions := query.functions.define
            { name := namespaces.key name
              params := params.map fun param => { param with scope := .parameter }
              body } } := by
  rcases @exists_yields_calledName _ namespaces library lenient name
    with ⟨called, reports, yields, _, key⟩
  refine ⟨reports, fun body query same same' same'' => ⟨_, ?_, rfl⟩⟩
  rw [define, EStateM.run_bind, yields query same same' same'', ← key]
  rfl

end

end Build

end Sparql
