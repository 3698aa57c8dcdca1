import Sparql.Proofs.Calls.Steady
import Sparql.Proofs.Regex.Anchors

/-!
Which literal patterns are reported. The library is asked about the pattern of a `regex` call only
once it is widened. So a pattern that begins with a repetition or ends in the middle of an escape,
which is none as it is written, may still be taken.
-/

namespace Sparql

namespace Regex

variable {library : Library} {letters : Flags} {pattern : List Char}

/-! ## What libraries document -/

def isRepeating (text : List Char) : Bool := text.head?.any (· ∈ ['*', '+', '?', '{'])

def beginsRepeating (flags : Flags) (text : List Char) : Bool := isRepeating (flags.skipGap text)

def EndsInEscape (text : List Char) : Prop := Odd (backslashes text)

instance (text : List Char) : Decidable (EndsInEscape text) :=
  inferInstanceAs (Decidable (Odd _))

/-- A group of nothing but flags, which hold for what follows. -/
def SetsFlags (flags : Flags) (pattern : List Char) : Prop :=
  ∃ before inside letters after, pattern = before ++ '(' :: inside ∧
    flags.skipGap inside = '?' :: letters ++ ')' :: after ∧
    ∀ letter ∈ letters, letter ∈ "imsRUux-".toList

/-- What the manual of the library says of the patterns that it reads. -/
structure Library.Documented (library : Library) : Prop where
  /-- A repetition has something to repeat. -/
  repetition : ∀ {flags pattern}, beginsRepeating flags pattern = true →
    library.parses flags pattern = false
  /-- An escape has something to escape, but for the backslashes of a comment. -/
  escape : ∀ {flags pattern}, EndsInEscape pattern → '#' ∉ pattern →
    library.parses flags pattern = false
  /-- A pattern may follow any other. -/
  before : ∀ {flags pattern}, beginsRepeating flags pattern = false →
    library.parses flags (anything ++ pattern) = library.parses flags pattern
  /-- What can go on in this way is complete before it does. -/
  complete : ∀ {flags pattern}, ¬EndsInEscape pattern →
    library.parses flags (pattern ++ anything) = true → library.parses flags pattern = true
  /-- Flags that are set in a pattern may forbid what would match anything. -/
  after : ∀ {flags pattern}, ¬EndsInEscape pattern → ¬SetsFlags flags pattern →
    library.parses flags pattern = true → library.parses flags (pattern ++ anything) = true

/-- The pattern is none as it is written, for what it begins with or ends in. -/
def Defective (flags : Flags) (pattern : List Char) : Prop :=
  beginsRepeating flags pattern = true ∨ EndsInEscape pattern ∧ '#' ∉ pattern

theorem Library.Documented.parses_defective (documented : library.Documented)
    (defective : Defective letters pattern) : library.parses letters pattern = false :=
  defective.elim documented.repetition fun ends => documented.escape ends.1 ends.2

/-! ## Widening

What is added on either side is nothing, or what matches anything. -/

theorem exists_widened_eq (pattern : List Char) : ∃ added added',
    (added = [] ∨ added = anything) ∧ (added' = [] ∨ added' = anything) ∧
      widened pattern = added ++ pattern ++ added' := by
  have either (anchored : Bool) :
      (if anchored then [] else anything) = [] ∨
        (if anchored then [] else anything) = anything := by
    cases anchored <;> simp
  exact ⟨_, _, either _, either _, rfl⟩

section

variable {added : List Char} (either : added = [] ∨ added = anything)

include either

theorem endsInEscape_before (pattern : List Char) :
    EndsInEscape (added ++ pattern) ↔ EndsInEscape pattern := by
  have closed : backslashes added = 0 := by rcases either with rfl | rfl <;> rfl
  rw [EndsInEscape, backslashes_append closed]
  rfl

theorem SetsFlags.of_before (sets : SetsFlags letters (added ++ pattern)) :
    SetsFlags letters pattern := by
  rcases either with rfl | rfl
  · exact sets
  · rcases sets with ⟨before, inside, found, after, same, group⟩
    rcases before with _ | ⟨dot, _ | ⟨star, before⟩⟩
    · simp [anything] at same
    · simp [anything] at same
    · have parts : '.' = dot ∧ '*' = star ∧ pattern = before ++ '(' :: inside := by
        simpa [anything] using same
      exact ⟨before, inside, found, after, parts.2.2, group⟩

namespace Library.Documented

variable (documented : library.Documented)

include documented

theorem parses_before (plain : beginsRepeating letters pattern = false) :
    library.parses letters (added ++ pattern) = library.parses letters pattern := by
  rcases either with rfl | rfl
  · rfl
  · exact documented.before plain

theorem parses_of_parses_after (closed : ¬EndsInEscape pattern)
    (parses : library.parses letters (pattern ++ added) = true) :
    library.parses letters pattern = true := by
  rcases either with rfl | rfl
  · rwa [List.append_nil] at parses
  · exact documented.complete closed parses

theorem parses_after (closed : ¬EndsInEscape pattern) (fixed : ¬SetsFlags letters pattern)
    (parses : library.parses letters pattern = true) :
    library.parses letters (pattern ++ added) = true := by
  rcases either with rfl | rfl
  · rwa [List.append_nil]
  · exact documented.after closed fixed parses

omit either

theorem parses_of_widened (plain : beginsRepeating letters pattern = false)
    (closed : ¬EndsInEscape pattern) (parses : library.parses letters (widened pattern) = true) :
    library.parses letters pattern = true := by
  rcases exists_widened_eq pattern with ⟨added, added', either, either', equal⟩
  rw [equal] at parses
  rw [← documented.parses_before either plain]
  exact documented.parses_of_parses_after either'
    (mt (endsInEscape_before either _).mp closed) parses

theorem parses_widened (plain : beginsRepeating letters pattern = false)
    (closed : ¬EndsInEscape pattern) (fixed : ¬SetsFlags letters pattern) :
    library.parses letters (widened pattern) = library.parses letters pattern := by
  apply Bool.eq_iff_iff.mpr
  refine ⟨documented.parses_of_widened plain closed, fun parses => ?_⟩
  rcases exists_widened_eq pattern with ⟨added, added', either, either', equal⟩
  rw [← documented.parses_before either plain] at parses
  rw [equal]
  exact documented.parses_after either' (mt (endsInEscape_before either _).mp closed)
    (mt (SetsFlags.of_before either) fixed) parses

end Library.Documented

end

/-! ## A library

It reads whatever has neither of the two defects. -/

mutual
theorem isRepeating_skipBlanks (text : List Char) :
    isRepeating (skipBlanks (text ++ anything)) = isRepeating (skipBlanks text) := by
  match text with
  | [] => rfl
  | c :: rest =>
      by_cases hash : c = '#'
      · subst hash
        exact isRepeating_skipComment rest
      · rw [List.cons_append, skipBlanks.eq_3 c _ hash, skipBlanks.eq_3 c rest hash]
        split
        · exact isRepeating_skipBlanks rest
        · rfl

theorem isRepeating_skipComment (text : List Char) :
    isRepeating (skipComment (text ++ anything)) = isRepeating (skipComment text) := by
  match text with
  | [] => rfl
  | c :: rest =>
      by_cases newline : c = '\n'
      · subst newline
        exact isRepeating_skipBlanks rest
      · rw [List.cons_append, skipComment.eq_3 c _ newline, skipComment.eq_3 c rest newline]
        exact isRepeating_skipComment rest
end

theorem beginsRepeating_append (flags : Flags) (pattern : List Char) :
    beginsRepeating flags (pattern ++ anything) = beginsRepeating flags pattern := by
  unfold beginsRepeating Flags.skipGap
  split
  · exact isRepeating_skipBlanks pattern
  · cases pattern <;> rfl

theorem beginsRepeating_before (flags : Flags) (pattern : List Char) :
    beginsRepeating flags (anything ++ pattern) = false := by
  have dot : skipBlanks ('.' :: '*' :: pattern) = '.' :: '*' :: pattern := by
    rw [skipBlanks.eq_3 '.' _ (by decide), if_neg (by decide)]
  have same : flags.skipGap (anything ++ pattern) = '.' :: '*' :: pattern := by
    rw [Flags.skipGap]
    split
    · exact dot
    · rfl
  rw [beginsRepeating, same]
  rfl

theorem not_endsInEscape_after (pattern : List Char) : ¬EndsInEscape (pattern ++ anything) := by
  have last : pattern ++ anything = (pattern ++ ['.']) ++ ['*'] := by simp [anything]
  rw [EndsInEscape, last, backslashes_concat, if_neg (by decide)]
  decide

def Library.lax : Library where
  parses flags pattern := !beginsRepeating flags pattern && !decide (EndsInEscape pattern)
  fits _ _ := true
  complaint _ _ := ""

theorem Library.lax_parses_iff (flags : Flags) (pattern : List Char) :
    Library.lax.parses flags pattern = true ↔
      beginsRepeating flags pattern = false ∧ ¬EndsInEscape pattern := by
  simp [lax]

theorem Library.documented_lax : Library.lax.Documented where
  repetition {flags pattern} begins := by simp [lax, begins]
  escape {flags pattern} ends _ := by simp [lax, ends]
  before {flags pattern} plain := by
    rw [Bool.eq_iff_iff, lax_parses_iff, lax_parses_iff, endsInEscape_before (.inr rfl), plain,
      beginsRepeating_before]
  complete {flags pattern} closed parses := by
    rw [lax_parses_iff, beginsRepeating_append] at parses
    rw [lax_parses_iff]
    exact ⟨parses.1, closed⟩
  after {flags pattern} _ _ parses := by
    rw [lax_parses_iff] at parses
    rw [lax_parses_iff, beginsRepeating_append]
    exact ⟨parses.1, not_endsInEscape_after pattern⟩

/-! ## Faults -/

theorem Library.fault?_eq_none_iff {flags : String}
    (known : Flags.read {} flags.toList = .ok letters) :
    library.fault? pattern flags = none ↔ library.takes letters pattern = true := by
  rw [fault?, known]
  dsimp only
  split
  · next takes => simp [takes]
  · next refuses => simp [refuses]

end Regex

namespace Build

/-! ## Calls -/

variable {query : Query}

theorem run_calledName_regex (query : Query) :
    (calledName "regex").run query = .ok ("regex", none) query := by
  have bare : unbracket? "regex" = none := by decide +kernel
  have noScheme : Text.occurs "://".toList "regex".toList = false := by decide +kernel
  have noPrefix : (splitName? "regex").isSome = false := by decide +kernel
  rw [calledName, bare]
  dsimp only
  rw [noScheme, noPrefix]
  rfl

theorem run_regex (prepares : query.options.prepareRegexes = true) (text : Expr)
    {pattern flags : Constant} (literal : pattern.isLiteral = true)
    (literalFlags : flags.isLiteral = true) :
    let args := [text, .const pattern, .const flags]
    (call "regex" args).run query =
      (do return Expr.call (← readRegex { name := "regex", operator := .regex } true
        (some pattern.label) (some flags.label)) args : Build Expr).run query := by
  intro args
  have operator : Operator.ofName "regex" = .regex := by decide +kernel
  have given : args[1]?.bind Expr.literal? = some pattern.label := if_pos literal
  have givenFlags : (args[2]?.map Expr.literal?).getD (some "") = some flags.label :=
    if_pos literalFlags
  have prepared : (prepareRegex { name := "regex", operator := .regex } args 2 true).run query =
      (readRegex { name := "regex", operator := .regex } true (some pattern.label)
        (some flags.label)).run query := by
    rw [prepareRegex_eq, given, givenFlags, EStateM.run_bind, EStateM.run_get]
    dsimp only
    rw [prepares]
    rfl
  rw [call, aggregate, EStateM.run_bind, run_calledName_regex]
  dsimp only
  rw [Option.getD_none, operator, EStateM.run_bind, ← prepared]
  rfl

theorem entries_after_regex (prepares : query.options.prepareRegexes = true) (text : Expr)
    {pattern flags : Constant} (literal : pattern.isLiteral = true)
    (literalFlags : flags.isLiteral = true) :
    ((call "regex" [text, .const pattern, .const flags]).after query).log.entries =
      query.log.entries ++
        ((query.library.fault? (Regex.widened pattern.label.toList) flags.label).map
          fun fault => (Problem.invalidRegex pattern.label fault).toDiagnostic).toList := by
  have run := run_regex prepares text literal literalFlags
  rw [after, run]
  refine @Ends.after _ _ _ (fun query' => query'.log.entries = _) ?_
  unfold readRegex
  rw [ends_bind]
  dsimp only
  rw [if_pos rfl, ends_bind, ends_get]
  cases query.library.fault? (Regex.widened pattern.label.toList) flags.label with
  | none => exact (List.append_nil _).symm
  | some fault =>
      dsimp only
      rw [ends_bind, problem, ends_report]
      split <;> rfl

/-- What is reported of a literal pattern, and when. -/
structure RegexLaw (library : Regex.Library) (pattern flags : String)
    (entries entries' : List Diagnostic) : Prop where
  /-- The library is asked about the widened pattern alone. -/
  reports : entries' = entries ++
    ((library.fault? (Regex.widened pattern.toList) flags).map
      fun fault => (Problem.invalidRegex pattern fault).toDiagnostic).toList
  /-- A defect of the pattern as it is written is not reported if the widening makes it good. -/
  missed : library.Documented → ∀ letters, Regex.Flags.read {} flags.toList = .ok letters →
    Regex.Defective letters pattern.toList →
    (library.fault? pattern.toList flags).isSome = true ∧
      (entries' = entries ↔ library.takes letters (Regex.widened pattern.toList) = true)
  /-- Without the two defects, what is not reported is a pattern as it is written. -/
  parses : library.Documented → ∀ letters, Regex.Flags.read {} flags.toList = .ok letters →
    Regex.beginsRepeating letters pattern.toList = false →
    ¬Regex.EndsInEscape pattern.toList → entries' = entries →
    library.parses letters pattern.toList = true
  /-- Where it sets no flags either, and is not too large only because it is widened, exactly the
  faults of the pattern as it is written are reported. -/
  agrees : library.Documented → ∀ letters, Regex.Flags.read {} flags.toList = .ok letters →
    Regex.beginsRepeating letters pattern.toList = false →
    ¬Regex.EndsInEscape pattern.toList → ¬Regex.SetsFlags letters pattern.toList →
    library.fits letters (Regex.widened pattern.toList) = library.fits letters pattern.toList →
    (entries' = entries ↔ library.fault? pattern.toList flags = none)

/-- A `regex` call with a literal pattern and literal flags reports its pattern, and nothing else,
exactly if the library does not take it as it is widened. -/
theorem regex_reported (prepares : query.options.prepareRegexes = true) (text : Expr)
    {pattern flags : Constant} (literal : pattern.isLiteral = true)
    (literalFlags : flags.isLiteral = true) :
    RegexLaw query.library pattern.label flags.label query.log.entries
      ((call "regex" [text, .const pattern, .const flags]).after query).log.entries := by
  have entries := entries_after_regex prepares text literal literalFlags
  have silent {letters : Regex.Flags}
      (known : Regex.Flags.read {} flags.label.toList = .ok letters) :
      ((call "regex" [text, .const pattern, .const flags]).after query).log.entries =
          query.log.entries ↔
        query.library.takes letters (Regex.widened pattern.label.toList) = true := by
    rw [entries, ← Regex.Library.fault?_eq_none_iff known]
    simp
  refine ⟨entries, ?_, ?_, ?_⟩
  · intro documented letters known defective
    refine ⟨?_, silent known⟩
    have refused := documented.parses_defective defective
    rw [← Option.ne_none_iff_isSome, ne_eq, Regex.Library.fault?_eq_none_iff known]
    simp [Regex.Library.takes, refused]
  · intro documented letters known plain closed unreported
    have taken := (silent known).mp unreported
    rw [Regex.Library.takes, Bool.and_eq_true] at taken
    exact documented.parses_of_widened plain closed taken.1
  · intro documented letters known plain closed fixed fits
    rw [silent known, Regex.Library.fault?_eq_none_iff known, Regex.Library.takes,
      Regex.Library.takes, documented.parses_widened plain closed fixed, fits]

theorem leadingStar_regexLaw :
    let query : Query := { library := .lax }
    query.options.prepareRegexes = true ∧ query.library.Documented ∧
      (Constant.literal "*a" Vocabulary.xsdString).isLiteral = true ∧
      (Constant.literal "i" Vocabulary.xsdString).isLiteral = true ∧
      RegexLaw query.library (Constant.literal "*a" Vocabulary.xsdString).label
        (Constant.literal "i" Vocabulary.xsdString).label query.log.entries
        ((call "regex" [.var (.ofName "x"), .const (.literal "*a" Vocabulary.xsdString),
          .const (.literal "i" Vocabulary.xsdString)]).after query).log.entries := by
  intro query
  have literal (label : String) :
      (Constant.literal label Vocabulary.xsdString).isLiteral = true := rfl
  refine ⟨rfl, Regex.Library.documented_lax, literal "*a", literal "i", ?_⟩
  exact regex_reported rfl (.var (.ofName "x")) (literal "*a") (literal "i")

def onVariable (name : String) (labels : List String) : Build Expr :=
  let literals := labels.map fun label => Expr.const (.literal label Vocabulary.xsdString)
  call name (.var (.ofName "x") :: literals)

/-- Patterns that are none on their own are taken by `regex`, which widens them, but not by
`replace`. -/
theorem widened_unreported :
    let library := ({} : Query).library
    library.fault? "*a".toList "" = some (.malformed "") ∧
      library.fault? "a\\".toList "" = some (.malformed "") ∧
      ((onVariable "regex" ["*a", ""]).after {}).log.entries = [] ∧
      ((onVariable "regex" ["a\\", ""]).after {}).log.entries = [] ∧
      ((onVariable "replace" ["*a", "b", ""]).after {}).log.entries =
        [(Problem.invalidRegex "*a" (.malformed "")).toDiagnostic] ∧
      ((onVariable "replace" ["a\\", "b", ""]).after {}).log.entries =
        [(Problem.invalidRegex "a\\" (.malformed "")).toDiagnostic] := by
  decide +kernel

end Build

end Sparql
