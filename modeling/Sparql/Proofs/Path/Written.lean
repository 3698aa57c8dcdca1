import Mathlib.Data.List.TakeWhile
import Mathlib.Logic.ExistsUnique
import Sparql.Build.Paths
import Sparql.Proofs.Numeral.Literals

/-!
The bounds of a repetition as they are written. What is not written, or is blank, is not bounded,
and anything else has to be a count once the blanks around it are taken off. Bounds are written
again as they can be read, with no text for an upper bound that does not bound: `repeated_law`. The
largest count stands for no upper bound, also where it is written: `isUnbounded_iff`.
-/

namespace Sparql

/-! ## Blanks around a text -/

namespace Text

/-- The text has blanks before and after `core`, which neither begins nor ends with one. -/
def Trimmed (text core : List Char) : Prop :=
  ∃ before after, text = before ++ core ++ after ∧
    (∀ c ∈ before, isBlank c = true) ∧ (∀ c ∈ after, isBlank c = true) ∧
      (∀ c, core.head? = some c → isBlank c = false) ∧
        ∀ c, core.getLast? = some c → isBlank c = false

theorem dropBlanks_append {before rest : List Char} (blank : ∀ c ∈ before, isBlank c = true)
    (solid : ∀ c, rest.head? = some c → isBlank c = false) :
    (before ++ rest).dropWhile isBlank = rest := by
  rw [List.dropWhile_append_of_pos blank]
  cases rest with
  | nil => rfl
  | cons c rest => simp [solid c rfl]

theorem trim_of_trimmed {text core : List Char} (trimmed : Trimmed text core) :
    trim text = core := by
  obtain ⟨before, after, rfl, blank, blank', first, last⟩ := trimmed
  cases core with
  | nil =>
      -- Blanks alone are all dropped at the front, and no end is left.
      have all : (before ++ [] ++ after).dropWhile isBlank = [] := by
        rw [List.dropWhile_eq_nil_iff]
        simpa [or_imp, forall_and] using ⟨blank, blank'⟩
      rw [trim, all]
      rfl
  | cons c core =>
      have front : (before ++ c :: core ++ after).dropWhile isBlank = c :: core ++ after := by
        rw [List.append_assoc]
        exact dropBlanks_append blank first
      have back : (c :: core ++ after).reverse.dropWhile isBlank = (c :: core).reverse := by
        rw [List.reverse_append]
        refine dropBlanks_append (by simpa using blank') fun d first => last d ?_
        rwa [List.head?_reverse] at first
      rw [trim, front, back, List.reverse_reverse]

theorem trimmed_trim (text : List Char) : Trimmed text (trim text) := by
  have solid (text : List Char) (c : Char) (first : (text.dropWhile isBlank).head? = some c) :
      isBlank c = false := by
    simpa [first] using List.head?_dropWhile_not isBlank text
  have blank (text : List Char) (c : Char) (inside : c ∈ text.takeWhile isBlank) :
      isBlank c = true := List.all_eq_true.mp List.all_takeWhile c inside
  generalize shown : text.dropWhile isBlank = rest
  have whole : rest = trim text ++ (rest.reverse.takeWhile isBlank).reverse := by
    rw [trim, shown, ← List.reverse_append, List.takeWhile_append_dropWhile, List.reverse_reverse]
  refine ⟨text.takeWhile isBlank, (rest.reverse.takeWhile isBlank).reverse, ?_, blank text, ?_, ?_,
    ?_⟩
  · rw [List.append_assoc, ← whole, ← shown, List.takeWhile_append_dropWhile]
  · intro c inside
    exact blank rest.reverse c (List.mem_reverse.mp inside)
  · intro c first
    refine solid text c ?_
    rw [shown, whole, List.head?_append, first]
    rfl
  · intro c last
    rw [trim, shown, List.getLast?_reverse] at last
    exact solid rest.reverse c last

theorem trimmed_nil_iff {text : List Char} :
    Trimmed text [] ↔ ∀ c ∈ text, isBlank c = true := by
  constructor
  · rintro ⟨before, after, rfl, blank, blank', _⟩
    simpa [or_imp, forall_and] using ⟨blank, blank'⟩
  · exact fun blank => ⟨text, [], by simp, blank, nofun, nofun, nofun⟩

end Text

/-! ## Counts -/

namespace Numeral

/-- A count is written with digits after a plus sign, which may be missing. -/
inductive Count : List Char → Nat → Prop
  | digits {sign digits : List Char} (plus : sign = [] ∨ sign = ['+']) (some : Digits digits)
      (small : Nat.ofDigitChars 10 digits 0 ≤ 4294967295) :
      Count (sign ++ digits) (Nat.ofDigitChars 10 digits 0)

theorem value_eq_ofDigitChars (digits : List Char) :
    value digits = Nat.ofDigitChars 10 digits 0 := by
  simp [value, Nat.ofDigitChars, Nat.mul_comm]

theorem Count.ne_nil {text : List Char} {n : Nat} (count : Count text n) : text ≠ [] := by
  obtain ⟨_, filled, _⟩ := count
  exact List.append_ne_nil_of_right_ne_nil _ filled.1

theorem count?_eq_some_iff {text : List Char} {n : Nat} : count? text = some n ↔ Count text n := by
  have read (digits : List Char) :
      (if isDigits digits && value digits ≤ maxCount then some (value digits) else none) = some n ↔
        (Digits digits ∧ Nat.ofDigitChars 10 digits 0 ≤ 4294967295) ∧
          Nat.ofDigitChars 10 digits 0 = n := by
    rw [Option.ite_none_right_eq_some, Option.some.injEq, value_eq_ofDigitChars, Bool.and_eq_true,
      isDigits_iff, decide_eq_true_eq, maxCount]
  -- One plus sign at most is passed over, and so a second one is no digit.
  by_cases plus : ∃ rest, text = '+' :: rest
  · obtain ⟨rest, rfl⟩ := plus
    refine (read rest).trans ⟨?_, fun count => ?_⟩
    · rintro ⟨⟨some, small⟩, rfl⟩
      exact .digits (.inr rfl) some small
    · generalize whole : '+' :: rest = text at count
      obtain ⟨rfl | rfl, some, small⟩ := count
      · exact absurd rfl (ne_sign_of_digits some ((List.append_nil _).trans whole.symm)).1
      · obtain ⟨_, rfl⟩ := List.cons.inj whole
        exact ⟨⟨some, small⟩, rfl⟩
  · have shown : count? text =
        if isDigits text && value text ≤ maxCount then some (value text) else none := by
      rw [count?]
      exact fun rest equal => plus ⟨rest, equal⟩
    rw [shown, read]
    refine ⟨?_, fun count => ?_⟩
    · rintro ⟨⟨some, small⟩, rfl⟩
      exact .digits (.inl rfl) some small
    · obtain ⟨rfl | rfl, some, small⟩ := count
      · exact ⟨⟨some, small⟩, rfl⟩
      · exact absurd ⟨_, rfl⟩ plus

/-! ## Numbers as they are written -/

theorem allDigits_toString (n : Nat) : AllDigits (toString n).toList := by
  intro c inside
  have written : c ∈ Nat.toDigits 10 n := by rwa [← Nat.toList_repr]
  exact Nat.isDigit_of_mem_toDigits (by decide) (by decide) written

theorem count_toString {n : Nat} (small : n ≤ 4294967295) : Count (toString n).toList n := by
  have shown : (toString n).toList = Nat.toDigits 10 n := Nat.toList_repr
  have digits : Digits (Nat.toDigits 10 n) := ⟨Nat.toDigits_ne_nil, shown ▸ allDigits_toString n⟩
  have count := @Count.digits [] (Nat.toDigits 10 n) (.inl rfl) digits
  rw [Nat.ofDigitChars_ten_toDigits] at count
  rw [shown]
  exact count small

theorem isBlank_of_isDigit {c : Char} (digit : isDigit c = true) : Text.isBlank c = false := by
  have bounds : 0x30 ≤ c.toNat ∧ c.toNat ≤ 0x39 := by
    simpa [isDigit, Char.le_def, UInt32.le_iff_toNat_le] using digit
  simp only [Text.isBlank, Text.blankRanges, Text.CodeRange.holds]
  simp
  omega

theorem trimmed_of_allDigits {text : List Char} (digits : AllDigits text) :
    Text.Trimmed text text :=
  ⟨[], [], by simp, nofun, nofun,
    fun c first => isBlank_of_isDigit (digits c (List.mem_of_mem_head? first)),
    fun c last => isBlank_of_isDigit (digits c (List.mem_of_mem_getLast? last))⟩

end Numeral

/-! ## Bounds -/

namespace Build

inductive BoundReads (default : Nat) : Option String → Except Failure Nat → Prop
  | missing : BoundReads default none (.ok default)
  | blank {text : String} (blank : ∀ c ∈ text.toList, Text.isBlank c = true) :
      BoundReads default (some text) (.ok default)
  | count {text : String} {core : List Char} {n : Nat} (trimmed : Text.Trimmed text.toList core)
      (count : Numeral.Count core n) : BoundReads default (some text) (.ok n)
  | other {text : String} {core : List Char} (trimmed : Text.Trimmed text.toList core)
      (filled : core ≠ []) (refused : ∀ n, ¬Numeral.Count core n) :
      BoundReads default (some text) (.error (.invalidBound (String.ofList core)))

theorem bound_of_trimmed {text : String} {core : List Char}
    (trimmed : Text.Trimmed text.toList core) (default : Nat) :
    bound (some text) default =
      if core = [] then .ok default
      else
        match Numeral.count? core with
        | some n => .ok n
        | none => .error (.invalidBound (String.ofList core)) := by
  rw [bound, Option.getD_some, Text.trim_of_trimmed trimmed]
  cases core <;> rfl

theorem boundReads_bound (default : Nat) (text : Option String) :
    BoundReads default text (bound text default) := by
  cases text with
  | none => exact .missing
  | some text =>
      have trimmed := Text.trimmed_trim text.toList
      generalize Text.trim text.toList = core at trimmed
      rw [bound_of_trimmed trimmed]
      split
      · next empty =>
          rw [empty, Text.trimmed_nil_iff] at trimmed
          exact .blank trimmed
      · next filled =>
          split
          · next n found => exact .count trimmed (Numeral.count?_eq_some_iff.mp found)
          · next none =>
              refine .other trimmed filled fun n count => ?_
              rw [← Numeral.count?_eq_some_iff, none] at count
              cases count

theorem bound_of_boundReads {default : Nat} {text : Option String} {result : Except Failure Nat}
    (reads : BoundReads default text result) : bound text default = result := by
  cases reads with
  | missing => rfl
  | blank blank => rw [bound_of_trimmed (Text.trimmed_nil_iff.mpr blank), if_pos rfl]
  | count trimmed count =>
      rw [bound_of_trimmed trimmed, if_neg count.ne_nil, Numeral.count?_eq_some_iff.mpr count]
  | @other text core trimmed filled refused =>
      have none : Numeral.count? core = none := by
        rw [Option.eq_none_iff_forall_ne_some]
        exact fun n found => refused n (Numeral.count?_eq_some_iff.mp found)
      rw [bound_of_trimmed trimmed, if_neg filled, none]

theorem bound_eq_iff {default : Nat} {text : Option String} {result : Except Failure Nat} :
    bound text default = result ↔ BoundReads default text result :=
  ⟨fun equal => equal ▸ boundReads_bound default text, bound_of_boundReads⟩

/-! ## Repetitions -/

variable {least most : Option String} {operand : Expr} {query : Query} {low high : Nat}

def counted (low high : Nat) (operand : Expr) : Expr :=
  .call { name := "\x7b\x7d", operator := .counted, bounds := some (.counted low high) } [operand]

theorem countedBounds_eq (least most : Option String) :
    countedBounds least most =
      match bound least 0, bound most Path.Bounds.unlimited with
      | .error failure, _ => .error failure
      | .ok _, .error failure => .error failure
      | .ok low, .ok high =>
        if high < low then .error (.invertedBounds low high) else .ok (.counted low high) := by
  rw [countedBounds]
  cases bound least 0 with
  | error failure => rfl
  | ok low => cases bound most Path.Bounds.unlimited <;> rfl

theorem run_repeated (least most : Option String) (operand : Expr) (query : Query) :
    (repeated least most operand).run query =
      match bound least 0, bound most Path.Bounds.unlimited with
      | .error failure, _ => .error failure query
      | .ok _, .error failure => .error failure query
      | .ok low, .ok high =>
        if high < low then .error (.invertedBounds low high) query
        else .ok (counted low high operand) query := by
  rw [repeated, countedBounds_eq]
  cases bound least 0 with
  | error failure => rfl
  | ok low =>
      cases bound most Path.Bounds.unlimited with
      | error failure => rfl
      | ok high =>
          dsimp only
          by_cases inverted : high < low
          · rw [if_pos inverted, if_pos inverted]
            rfl
          · rw [if_neg inverted, if_neg inverted]
            rfl

theorem existsUnique_boundReads (default : Nat) (text : Option String) :
    ∃! result, BoundReads default text result :=
  ⟨bound text default, bound_eq_iff.mp rfl, fun _ reads => (bound_eq_iff.mpr reads).symm⟩

/-- Each bound is read in one way. The lower one is read first, and then the two are compared. -/
structure RepeatedLaw (least most : Option String) (operand : Expr) (query : Query) : Prop where
  leastRead : ∃! result, BoundReads 0 least result
  mostRead : ∃! result, BoundReads 4294967295 most result
  leastRefused : ∀ failure, BoundReads 0 least (.error failure) →
    (repeated least most operand).run query = .error failure query
  mostRefused : ∀ low failure, BoundReads 0 least (.ok low) →
    BoundReads 4294967295 most (.error failure) →
      (repeated least most operand).run query = .error failure query
  inverted : ∀ low high, BoundReads 0 least (.ok low) → BoundReads 4294967295 most (.ok high) →
    high < low → (repeated least most operand).run query = .error (.invertedBounds low high) query
  ordered : ∀ low high, BoundReads 0 least (.ok low) → BoundReads 4294967295 most (.ok high) →
    low ≤ high → (repeated least most operand).run query = .ok (counted low high operand) query

theorem repeatedLaw (least most : Option String) (operand : Expr) (query : Query) :
    RepeatedLaw least most operand query := by
  have read {result : Except Failure Nat} (reads : BoundReads 4294967295 most result) :
      bound most Path.Bounds.unlimited = result := bound_of_boundReads reads
  constructor
  case leastRead => exact existsUnique_boundReads 0 least
  case mostRead => exact existsUnique_boundReads 4294967295 most
  case leastRefused =>
    intro failure refused
    rw [run_repeated, bound_of_boundReads refused]
  case mostRefused =>
    intro low failure reads refused
    rw [run_repeated, bound_of_boundReads reads, read refused]
  case inverted =>
    intro low high reads reads' inverted
    rw [run_repeated, bound_of_boundReads reads, read reads']
    exact if_pos inverted
  case ordered =>
    intro low high reads reads' ordered
    rw [run_repeated, bound_of_boundReads reads, read reads']
    exact if_neg (Nat.not_lt_of_le ordered)

/-! ## Bounds as they are shown -/

def shownMost (high : Nat) : String :=
  if high = 4294967295 then "" else toString high

theorem text_counted (low high : Nat) :
    (Path.Bounds.counted low high).text =
      "\x7b" ++ toString low ++ "," ++ shownMost high ++ "\x7d" := by
  have same : (Path.Bounds.counted low high).isUnbounded = true ↔ high = 4294967295 := beq_iff_eq
  rw [Path.Bounds.text, shownMost]
  by_cases unlimited : high = 4294967295
  · -- The comma and the brace after it are shown as one text here.
    rw [if_pos (same.mpr unlimited), if_pos unlimited, String.append_empty]
    simp only [String.append_assoc]
    rfl
  · rw [if_neg (unlimited ∘ same.mp), if_neg unlimited]
    rfl

theorem boundReads_toString {n : Nat} (default : Nat) (small : n ≤ 4294967295) :
    BoundReads default (some (toString n)) (.ok n) :=
  .count (Numeral.trimmed_of_allDigits (Numeral.allDigits_toString n))
    (Numeral.count_toString small)

theorem boundReads_shownMost (small : high ≤ 4294967295) :
    BoundReads 4294967295 (some (shownMost high)) (.ok high) := by
  rw [shownMost]
  split
  · next unlimited =>
      rw [unlimited]
      exact .blank nofun
  · exact boundReads_toString 4294967295 small

theorem comma_not_mem_toString (n : Nat) : ',' ∉ (toString n).toList :=
  (Numeral.allDigits_toString n).not_mem (by decide)

theorem comma_not_mem_shownMost (high : Nat) : ',' ∉ (shownMost high).toList := by
  rw [shownMost]
  split
  · simp
  · exact comma_not_mem_toString high

/-- Bounds are read as they are written, and what is shown of bounds is read as these bounds. -/
theorem repeated_law (least most : Option String) (operand : Expr) (query : Query) :
    RepeatedLaw least most operand query ∧
      ∀ low high, low ≤ high → high ≤ 4294967295 →
        ∃ shown shown' : String,
          (Path.Bounds.counted low high).text = "\x7b" ++ shown ++ "," ++ shown' ++ "\x7d" ∧
            ',' ∉ shown.toList ∧ ',' ∉ shown'.toList ∧
              (repeated (some shown) (some shown') operand).run query =
                .ok (counted low high operand) query := by
  refine ⟨repeatedLaw least most operand query, fun low high ordered small => ?_⟩
  refine ⟨toString low, shownMost high, text_counted low high, comma_not_mem_toString low,
    comma_not_mem_shownMost high, ?_⟩
  exact (repeatedLaw _ _ operand query).ordered low high
    (boundReads_toString 0 (ordered.trans small)) (boundReads_shownMost small) ordered

theorem repeated_law_padded :
    (repeated (some " +007\t") none (.var (.ofName "x"))).run {} =
        .ok (counted 7 4294967295 (.var (.ofName "x"))) {} ∧
      2 ≤ 4294967295 ∧
        ∃ shown shown' : String, "\x7b2,\x7d" = "\x7b" ++ shown ++ "," ++ shown' ++ "\x7d" ∧
          (repeated (some shown) (some shown') (.var (.ofName "x"))).run {} =
            .ok (counted 2 4294967295 (.var (.ofName "x"))) {} := by
  have law := repeated_law (some " +007\t") none (.var (.ofName "x")) {}
  have read : BoundReads 0 (some " +007\t") (.ok 7) := boundReads_bound 0 (some " +007\t")
  obtain ⟨shown, shown', text, _, _, run⟩ := law.2 2 4294967295 (by decide) (by decide)
  have text' : (Path.Bounds.counted 2 4294967295).text = "\x7b2,\x7d" := by decide
  exact ⟨law.1.ordered 7 4294967295 read .missing (by decide), by decide, shown, shown',
    text'.symm.trans text, run⟩

/-! ## Repetitions without end -/

def Unwritten (text : Option String) : Prop :=
  ∀ written, text = some written → ∀ c ∈ written.toList, Text.isBlank c = true

def WritesCount (text : Option String) (n : Nat) : Prop :=
  ∃ written core, text = some written ∧ Text.Trimmed written.toList core ∧ Numeral.Count core n

theorem boundReads_ok_iff {default n : Nat} {text : Option String} :
    BoundReads default text (.ok n) ↔ Unwritten text ∧ n = default ∨ WritesCount text n := by
  constructor
  · intro reads
    cases reads with
    | missing => exact .inl ⟨nofun, rfl⟩
    | blank blank =>
        refine .inl ⟨?_, rfl⟩
        rintro _ ⟨rfl⟩
        exact blank
    | count trimmed count => exact .inr ⟨_, _, rfl, trimmed, count⟩
  · rintro (⟨unwritten, rfl⟩ | ⟨written, core, rfl, trimmed, count⟩)
    · cases text with
      | none => exact .missing
      | some written => exact .blank (unwritten written rfl)
    · exact .count trimmed count

theorem WritesCount.unique {text : Option String} {n n' : Nat} (writes : WritesCount text n)
    (writes' : WritesCount text n') : n = n' := by
  have read := bound_eq_iff.mpr (boundReads_ok_iff.mpr (.inr writes) : BoundReads 0 text (.ok n))
  rw [bound_eq_iff.mpr (boundReads_ok_iff.mpr (.inr writes'))] at read
  exact (Except.ok.inj read).symm

theorem WritesCount.not_unwritten {text : Option String} {n : Nat} (writes : WritesCount text n) :
    ¬Unwritten text := by
  rcases writes with ⟨written, core, rfl, trimmed, count⟩
  intro unwritten
  have blank := Text.trim_of_trimmed (Text.trimmed_nil_iff.mpr (unwritten written rfl))
  exact count.ne_nil ((Text.trim_of_trimmed trimmed).symm.trans blank)

theorem exists_counted {made : Expr} {query' : Query}
    (run : (repeated least most operand).run query = .ok made query') :
    ∃ low high, made = counted low high operand ∧
      BoundReads Path.Bounds.unlimited most (.ok high) := by
  rw [run_repeated] at run
  split at run
  · cases run
  · cases run
  · next low high _ read =>
      split at run
      · cases run
      · cases run
        exact ⟨low, high, rfl, bound_eq_iff.mp read⟩

/-- A maximum is kept as it is written. A repetition has no end if no maximum is written, and none
either if the largest count is written, as that stands for no upper limit. -/
theorem isUnbounded_iff {made : Expr} {query' : Query}
    (run : (repeated least most operand).run query = .ok made query') :
    ∃ bounds, made.bounds? = some bounds ∧ (∀ n, WritesCount most n → bounds.most = n) ∧
      (bounds.isUnbounded = true ↔ Unwritten most ∨ WritesCount most 4294967295) := by
  obtain ⟨low, high, rfl, read⟩ := exists_counted run
  have unbounded : (Path.Bounds.counted low high).isUnbounded = true ↔ high = 4294967295 :=
    beq_iff_eq
  refine ⟨.counted low high, rfl, ?_, ?_⟩
  · intro n writes
    rcases boundReads_ok_iff.mp read with ⟨unwritten, _⟩ | writes'
    · exact absurd unwritten writes.not_unwritten
    · exact writes'.unique writes
  · rw [unbounded]
    rcases boundReads_ok_iff.mp read with ⟨unwritten, equal⟩ | writes
    · exact iff_of_true equal (.inl unwritten)
    · constructor
      · rintro rfl
        exact .inr writes
      · rintro (unwritten | largest)
        · exact absurd unwritten writes.not_unwritten
        · exact writes.unique largest

theorem isUnbounded_upToFive :
    ∃ made, (repeated none (some " 5 ") (.var (.ofName "x"))).run {} = .ok made {} ∧
      ∃ bounds, made.bounds? = some bounds ∧
        (∀ n, WritesCount (some " 5 ") n → bounds.most = n) ∧
        (bounds.isUnbounded = true ↔
          Unwritten (some " 5 ") ∨ WritesCount (some " 5 ") 4294967295) := by
  have run : (repeated none (some " 5 ") (.var (.ofName "x"))).run {} =
      .ok (counted 0 5 (.var (.ofName "x"))) {} := rfl
  obtain ⟨bounds, has, kept, unbounded⟩ := isUnbounded_iff run
  exact ⟨_, run, bounds, has, kept, unbounded⟩

theorem largest_unbounded :
    ∃ made, (repeated none (some "4294967295") (.var (.ofName "x"))).run {} = .ok made {} ∧
      made.bounds?.map (·.isUnbounded) = some true ∧ ¬Unwritten (some "4294967295") := by
  have writes : WritesCount (some "4294967295") 4294967295 := by
    have trimmed := Numeral.trimmed_of_allDigits (Numeral.allDigits_toString 4294967295)
    exact ⟨_, _, rfl, trimmed, Numeral.count_toString (by decide)⟩
  have run := (repeatedLaw none (some "4294967295") (.var (.ofName "x")) {}).ordered 0 4294967295
    .missing (boundReads_ok_iff.mpr (.inr writes)) (by decide)
  exact ⟨_, run, rfl, writes.not_unwritten⟩

end Build

end Sparql
