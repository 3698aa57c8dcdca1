import Sparql.Build.Terms

/-!
The numbers that can be written without quotes. Three grammars tell integers, decimals and doubles
apart. A text is looked at in other ways: without its sign, by whether there is an exponent, by its
first point, and by a reader of floating-point numbers that takes more than doubles. Together these
accept what the grammars describe, and nothing else: `number_iff`.
-/

namespace Sparql

namespace Numeral

variable {text : List Char}

/-! ## Grammars -/

def AllDigits (text : List Char) : Prop := ∀ c ∈ text, isDigit c = true

def Digits (text : List Char) : Prop := text ≠ [] ∧ AllDigits text

inductive Sign : List Char → Prop
  | none : Sign []
  | plus : Sign ['+']
  | minus : Sign ['-']

def Signed (grammar : List Char → Prop) (text : List Char) : Prop :=
  ∃ sign rest, text = sign ++ rest ∧ Sign sign ∧ grammar rest

def Fixed (text : List Char) : Prop :=
  ∃ whole fraction, text = whole ++ '.' :: fraction ∧ AllDigits whole ∧ Digits fraction

inductive Mantissa : List Char → Prop
  | digits {digits : List Char} (some : Digits digits) : Mantissa digits
  | point {whole fraction : List Char} (some : Digits whole) (any : AllDigits fraction) :
      Mantissa (whole ++ '.' :: fraction)
  | fraction {fraction : List Char} (some : Digits fraction) : Mantissa ('.' :: fraction)

def Exponent (text : List Char) : Prop :=
  ∃ mark rest, text = mark :: rest ∧ (mark = 'e' ∨ mark = 'E') ∧ Signed Digits rest

def Floating (text : List Char) : Prop :=
  ∃ mantissa exponent, text = mantissa ++ exponent ∧ Mantissa mantissa ∧ Exponent exponent

def Integer : List Char → Prop := Signed Digits

def Decimal : List Char → Prop := Signed Fixed

def Double : List Char → Prop := Signed Floating

/-! ## Digits -/

theorem isDigits_iff (text : List Char) : isDigits text = true ↔ Digits text := by
  simp [isDigits, Digits, AllDigits]

theorem AllDigits.not_mem {c : Char} (other : isDigit c = false) (digits : AllDigits text) :
    c ∉ text := by
  intro inside
  rw [digits c inside] at other
  cases other

def Stops (rest : List Char) : Prop := ∀ c tail, rest = c :: tail → isDigit c = false

theorem stops_nil : Stops [] := nofun

theorem stops_cons {c : Char} (other : isDigit c = false) (tail : List Char) :
    Stops (c :: tail) := by
  intro c' tail' equal
  rwa [← (List.cons.inj equal).1]

theorem leadingDigits_eq_iff {whole rest : List Char} :
    leadingDigits text = (whole, rest) ↔ text = whole ++ rest ∧ AllDigits whole ∧ Stops rest := by
  constructor
  · intro cut
    obtain ⟨rfl, rfl⟩ := Prod.mk.inj cut
    refine ⟨List.takeWhile_append_dropWhile.symm, ?_, ?_⟩
    · exact fun c inside => List.all_eq_true.mp List.all_takeWhile c inside
    · intro c tail shown
      have first := List.head?_dropWhile_not isDigit text
      simpa [shown] using first
  · rintro ⟨rfl, digits, stops⟩
    have none : rest.takeWhile isDigit = [] ∧ rest.dropWhile isDigit = rest := by
      cases rest with
      | nil => exact ⟨rfl, rfl⟩
      | cons c tail => simp [stops c tail rfl]
    rw [leadingDigits, List.takeWhile_append_of_pos digits, List.dropWhile_append_of_pos digits,
      none.1, none.2, List.append_nil]

/-! ## Signs -/

theorem signed_iff {grammar : List Char → Prop}
    (bare : ∀ c rest, grammar (c :: rest) → c ≠ '+' ∧ c ≠ '-') (text : List Char) :
    Signed grammar text ↔ grammar (unsigned text) := by
  constructor
  · rintro ⟨sign, rest, rfl, signed, fits⟩
    cases signed with
    | none =>
        cases rest with
        | nil => exact fits
        | cons c rest =>
            have other := bare c rest fits
            rwa [List.nil_append, unsigned.eq_3 _ (by simp [other.1]) (by simp [other.2])]
    | plus => exact fits
    | minus => exact fits
  · intro fits
    by_cases plus : ∃ rest, text = '+' :: rest
    · obtain ⟨rest, rfl⟩ := plus
      exact ⟨_, rest, rfl, .plus, fits⟩
    by_cases minus : ∃ rest, text = '-' :: rest
    · obtain ⟨rest, rfl⟩ := minus
      exact ⟨_, rest, rfl, .minus, fits⟩
    rw [unsigned.eq_3 _ (fun rest equal => plus ⟨rest, equal⟩)
      (fun rest equal => minus ⟨rest, equal⟩)] at fits
    exact ⟨[], text, rfl, .none, fits⟩

theorem ne_sign_of_isDigit {c : Char} (digit : isDigit c = true) : c ≠ '+' ∧ c ≠ '-' := by
  constructor <;> (rintro rfl; exact absurd digit (by decide))

theorem ne_sign_of_digits {c : Char} {digits more rest : List Char} (some : Digits digits)
    (shown : digits ++ more = c :: rest) : c ≠ '+' ∧ c ≠ '-' := by
  cases digits with
  | nil => exact absurd rfl some.1
  | cons d digits =>
      obtain ⟨rfl, _⟩ := List.cons.inj shown
      exact ne_sign_of_isDigit (some.2 d List.mem_cons_self)

theorem signed_digits_iff (text : List Char) : Signed Digits text ↔ Digits (unsigned text) :=
  signed_iff (fun _ _ digits => ne_sign_of_digits digits (List.append_nil _)) text

theorem signed_fixed_iff (text : List Char) : Signed Fixed text ↔ Fixed (unsigned text) := by
  refine signed_iff (fun c rest fixed => ?_) text
  obtain ⟨whole, fraction, shown, digits, _⟩ := fixed
  cases whole with
  | nil =>
      obtain ⟨rfl, _⟩ := List.cons.inj shown
      decide
  | cons d whole =>
      obtain ⟨rfl, _⟩ := List.cons.inj shown
      exact ne_sign_of_isDigit (digits c List.mem_cons_self)

/-! ## Floating-point numbers -/

theorem isExponent_iff (text : List Char) : isExponent text = true ↔ Exponent text := by
  cases text with
  | nil => simp [isExponent, Exponent]
  | cons mark rest =>
      have marks : isExponent (mark :: rest) = true ↔
          (mark = 'e' ∨ mark = 'E') ∧ Signed Digits rest := by
        simp [isExponent, isDigits_iff, signed_digits_iff]
      rw [marks]
      constructor
      · rintro ⟨marked, digits⟩
        exact ⟨mark, rest, rfl, marked, digits⟩
      · rintro ⟨mark', rest', equal, marked, digits⟩
        obtain ⟨rfl, rfl⟩ := List.cons.inj equal
        exact ⟨marked, digits⟩

theorem stops_of_exponent (exponent : text = [] ∨ Exponent text) :
    Stops text ∧ ∀ rest, text ≠ '.' :: rest := by
  rcases exponent with rfl | ⟨mark, rest, rfl, rfl | rfl, _⟩
  · exact ⟨stops_nil, nofun⟩
  · exact ⟨stops_cons (by decide) rest, nofun⟩
  · exact ⟨stops_cons (by decide) rest, nofun⟩

theorem isNumber_plain {whole rest : List Char} (digits : AllDigits whole) (stops : Stops rest)
    (other : ∀ tail, rest ≠ '.' :: tail) :
    isNumber (whole ++ rest) = (!whole.isEmpty && (rest.isEmpty || isExponent rest)) := by
  rw [isNumber, leadingDigits_eq_iff.mpr ⟨rfl, digits, stops⟩]
  split
  · next shown => exact absurd (Prod.mk.inj shown).2 (other _)
  · next shown => obtain ⟨rfl, rfl⟩ := Prod.mk.inj shown; rfl

theorem isNumber_point {whole fraction rest : List Char} (digits : AllDigits whole)
    (digits' : AllDigits fraction) (stops : Stops rest) :
    isNumber (whole ++ '.' :: (fraction ++ rest)) =
      (!(whole.isEmpty && fraction.isEmpty) && (rest.isEmpty || isExponent rest)) := by
  have point : Stops ('.' :: (fraction ++ rest)) := stops_cons (by decide) _
  have cut : leadingDigits (fraction ++ rest) = (fraction, rest) :=
    leadingDigits_eq_iff.mpr ⟨rfl, digits', stops⟩
  rw [isNumber, leadingDigits_eq_iff.mpr ⟨rfl, digits, point⟩]
  split
  · next shown =>
      obtain ⟨rfl, tail⟩ := Prod.mk.inj shown
      rw [← (List.cons.inj tail).2, cut]
  · next other shown =>
      obtain ⟨rfl, rfl⟩ := Prod.mk.inj shown
      exact absurd rfl (other _)

theorem isNumber_iff (text : List Char) :
    isNumber text = true ↔
      ∃ mantissa rest, text = mantissa ++ rest ∧ Mantissa mantissa ∧
        (rest = [] ∨ Exponent rest) := by
  constructor
  · intro reads
    obtain ⟨whole, rest, cut⟩ : ∃ whole rest, leadingDigits text = (whole, rest) := ⟨_, _, rfl⟩
    obtain ⟨rfl, digits, stops⟩ := leadingDigits_eq_iff.mp cut
    -- A point needs digits on one side of it; without one they stand before the rest.
    by_cases point : ∃ tail, rest = '.' :: tail
    · obtain ⟨tail, rfl⟩ := point
      obtain ⟨fraction, rest, cut'⟩ : ∃ fraction rest, leadingDigits tail = (fraction, rest) :=
        ⟨_, _, rfl⟩
      obtain ⟨rfl, digits', stops'⟩ := leadingDigits_eq_iff.mp cut'
      rw [isNumber_point digits digits' stops'] at reads
      have parts : (whole ≠ [] ∨ fraction ≠ []) ∧ (rest = [] ∨ Exponent rest) := by
        simpa [isExponent_iff] using reads
      by_cases empty : whole = []
      · subst empty
        have filled := parts.1.resolve_left (absurd rfl)
        exact ⟨'.' :: fraction, rest, rfl, .fraction ⟨filled, digits'⟩, parts.2⟩
      · exact ⟨whole ++ '.' :: fraction, rest, by simp, .point ⟨empty, digits⟩ digits', parts.2⟩
    · rw [isNumber_plain digits stops (fun tail equal => point ⟨tail, equal⟩)] at reads
      have parts : whole ≠ [] ∧ (rest = [] ∨ Exponent rest) := by
        simpa [isExponent_iff] using reads
      exact ⟨whole, rest, rfl, .digits ⟨parts.1, digits⟩, parts.2⟩
  · rintro ⟨mantissa, rest, rfl, fits, ends⟩
    have stops := stops_of_exponent ends
    have last : (rest.isEmpty || isExponent rest) = true := by simpa [isExponent_iff] using ends
    cases fits with
    | digits whole => simp [isNumber_plain whole.2 stops.1 stops.2, whole.1, last]
    | @point whole fraction first second =>
        rw [List.append_assoc, List.cons_append, isNumber_point first.2 second stops.1, last]
        simp [first.1]
    | @fraction fraction second =>
        have shown := @isNumber_point [] fraction rest nofun second.2 stops.1
        rw [List.nil_append] at shown
        rw [List.cons_append, shown, last]
        simp [second.1]

/-! ## Marks of exponents -/

def HasMark (text : List Char) : Prop := ∃ c ∈ text, c = 'e' ∨ c = 'E'

theorem any_mark_iff (text : List Char) :
    text.any (fun c => c == 'e' || c == 'E') = true ↔ HasMark text := by
  simp [HasMark]

theorem isDigit_of_mark {c : Char} (mark : c = 'e' ∨ c = 'E') : isDigit c = false := by
  rcases mark with rfl | rfl <;> decide

theorem AllDigits.noMark (digits : AllDigits text) : ¬HasMark text := by
  rintro ⟨c, inside, mark⟩
  exact digits.not_mem (isDigit_of_mark mark) inside

theorem noMark_point {whole fraction : List Char} (digits : AllDigits whole)
    (digits' : AllDigits fraction) : ¬HasMark (whole ++ '.' :: fraction) := by
  rintro ⟨c, inside, mark⟩
  rcases List.mem_append.mp inside with first | second
  · exact digits.noMark ⟨c, first, mark⟩
  · rcases List.mem_cons.mp second with rfl | second
    · exact absurd mark (by decide)
    · exact digits'.noMark ⟨c, second, mark⟩

theorem Fixed.noMark (fixed : Fixed text) : ¬HasMark text := by
  obtain ⟨whole, fraction, rfl, digits, digits'⟩ := fixed
  exact noMark_point digits digits'.2

theorem Mantissa.noMark (mantissa : Mantissa text) : ¬HasMark text := by
  cases mantissa with
  | digits whole => exact whole.2.noMark
  | point first second => exact noMark_point first.2 second
  | @fraction fraction second => exact @noMark_point [] fraction nofun second.2

theorem Floating.hasMark (floating : Floating text) : HasMark text := by
  obtain ⟨mantissa, exponent, rfl, _, mark, rest, rfl, marked, _⟩ := floating
  exact ⟨mark, by simp, marked⟩

theorem isNonfinite_of_hasMark (mark : HasMark text) : isNonfinite text = false := by
  have names : ∀ name ∈ ["inf".toList, "infinity".toList, "nan".toList], 'e' ∉ name := by decide
  obtain ⟨c, inside, equal⟩ := mark
  have small : c.toLower = 'e' := by rcases equal with rfl | rfl <;> rfl
  rw [isNonfinite, decide_eq_false_iff_not]
  intro named
  exact names _ named (small ▸ List.mem_map_of_mem inside)

/-! ## Literals -/

theorem signed_floating_iff (text : List Char) :
    Signed Floating text ↔ Floating (unsigned text) := by
  refine signed_iff (fun c rest floating => ?_) text
  obtain ⟨mantissa, exponent, shown, fits, _⟩ := floating
  cases fits with
  | digits whole => exact ne_sign_of_digits whole shown.symm
  | point first second =>
      rw [List.append_assoc] at shown
      exact ne_sign_of_digits first shown.symm
  | fraction second =>
      obtain ⟨rfl, _⟩ := List.cons.inj shown
      decide

theorem isFloat_iff_of_hasMark (mark : HasMark (unsigned text)) :
    isFloat text = true ↔ Double text := by
  rw [isFloat, isNonfinite_of_hasMark mark, Bool.false_or, isNumber_iff, Double,
    signed_floating_iff]
  constructor
  · rintro ⟨mantissa, rest, shown, fits, rfl | exponent⟩
    · rw [shown, List.append_nil] at mark
      exact absurd mark fits.noMark
    · exact ⟨mantissa, rest, shown, fits, exponent⟩
  · rintro ⟨mantissa, exponent, shown, fits, exponential⟩
    exact ⟨mantissa, exponent, shown, fits, .inr exponential⟩

theorem fixed_iff_of_cut {whole fraction : List Char}
    (cut : Text.cutFirst? '.' text = some (whole, fraction)) :
    Fixed text ↔ AllDigits whole ∧ Digits fraction := by
  constructor
  · rintro ⟨whole', fraction', rfl, digits, digits'⟩
    rw [Text.cutFirst?_append (digits.not_mem (by decide))] at cut
    obtain ⟨rfl, rfl⟩ := Prod.mk.inj (Option.some.inj cut)
    exact ⟨digits, digits'⟩
  · rintro ⟨digits, digits'⟩
    exact ⟨whole, fraction, (Text.append_of_cutFirst? cut).1, digits, digits'⟩

theorem not_fixed_of_cut (cut : Text.cutFirst? '.' text = none) : ¬Fixed text := by
  rintro ⟨whole, fraction, rfl, _, _⟩
  exact Text.cutFirst?_eq_none_iff.mp cut (by simp)

theorem datatype?_of_hasMark (mark : HasMark (unsigned text)) :
    datatype? text = if isFloat text then some Vocabulary.xsdDouble else none := by
  obtain ⟨c, inside, marked⟩ := mark
  have filled : (unsigned text).isEmpty = false := by
    rw [List.isEmpty_eq_false_iff]
    exact List.ne_nil_of_mem inside
  have found := (any_mark_iff (unsigned text)).mpr ⟨c, inside, marked⟩
  simp only [datatype?, filled, found, if_true, Bool.false_eq_true, if_false]

theorem datatype?_of_noMark (plain : ¬HasMark (unsigned text)) :
    datatype? text =
      match Text.cutFirst? '.' (unsigned text) with
      | none => if isDigits (unsigned text) then some Vocabulary.xsdInteger else none
      | some (whole, fraction) =>
        if whole.all isDigit && isDigits fraction then some Vocabulary.xsdDecimal else none := by
  rw [← any_mark_iff, Bool.not_eq_true] at plain
  cases empty : (unsigned text).isEmpty with
  | true => simp [datatype?, List.isEmpty_iff.mp empty, Text.cutFirst?, isDigits]
  | false =>
      rw [isDigits, empty, datatype?]
      simp only [empty, plain, Bool.false_eq_true, if_false]
      rfl

theorem datatype?_eq_some_iff (text : List Char) (datatype : String) :
    datatype? text = some datatype ↔
      datatype = Vocabulary.xsdInteger ∧ Integer text ∨
        datatype = Vocabulary.xsdDecimal ∧ Decimal text ∨
          datatype = Vocabulary.xsdDouble ∧ Double text := by
  -- Of the three grammars, that of doubles has a mark in each text, and the others in none.
  by_cases mark : HasMark (unsigned text)
  · have noInteger : ¬Integer text := fun integer =>
      ((signed_digits_iff text).mp integer).2.noMark mark
    have noDecimal : ¬Decimal text := fun decimal =>
      ((signed_fixed_iff text).mp decimal).noMark mark
    rw [datatype?_of_hasMark mark]
    simp [isFloat_iff_of_hasMark mark, noInteger, noDecimal, eq_comm (a := datatype), and_comm]
  · have noDouble : ¬Double text := fun double =>
      mark ((signed_floating_iff text).mp double).hasMark
    rw [datatype?_of_noMark mark, Integer, signed_digits_iff, Decimal, signed_fixed_iff]
    cases cut : Text.cutFirst? '.' (unsigned text) with
    | none =>
        simp [not_fixed_of_cut cut, isDigits_iff, noDouble, eq_comm (a := datatype), and_comm]
    | some parts =>
        obtain ⟨whole, fraction⟩ := parts
        have noInteger : ¬Digits (unsigned text) := fun digits =>
          digits.2.not_mem (c := '.') (by decide) (by simp [(Text.append_of_cutFirst? cut).1])
        simp [fixed_iff_of_cut cut, isDigits_iff, noDouble, noInteger, AllDigits,
          eq_comm (a := datatype), and_comm]

end Numeral

namespace Build

theorem run_number (label : String) (query : Query) :
    (number label).run query =
      match Numeral.datatype? label.toList with
      | some datatype => .ok (.literal label datatype) query
      | none => .error (.invalidNumber label) query := by
  rw [number]
  cases Numeral.datatype? label.toList <;> rfl

theorem run_number_ok_iff (label datatype : String) (query : Query) :
    (number label).run query = .ok (.literal label datatype) query ↔
      Numeral.datatype? label.toList = some datatype := by
  rw [run_number]
  cases Numeral.datatype? label.toList <;> simp [Constant.literal]

theorem run_number_error_iff (label : String) (query : Query) :
    (number label).run query = .error (.invalidNumber label) query ↔
      Numeral.datatype? label.toList = none := by
  rw [run_number]
  cases Numeral.datatype? label.toList <;> simp

/-- A number is made of exactly the texts of the three grammars, which it keeps as they are, each
with the datatype of its grammar. -/
theorem number_iff (label : String) (query : Query) :
    ((number label).run query = .ok (.literal label Vocabulary.xsdInteger) query ↔
        Numeral.Integer label.toList) ∧
      ((number label).run query = .ok (.literal label Vocabulary.xsdDecimal) query ↔
        Numeral.Decimal label.toList) ∧
      ((number label).run query = .ok (.literal label Vocabulary.xsdDouble) query ↔
        Numeral.Double label.toList) ∧
      ((number label).run query = .error (.invalidNumber label) query ↔
        ¬Numeral.Integer label.toList ∧ ¬Numeral.Decimal label.toList ∧
          ¬Numeral.Double label.toList) := by
  have apart : Vocabulary.xsdInteger ≠ Vocabulary.xsdDecimal ∧
      Vocabulary.xsdInteger ≠ Vocabulary.xsdDouble ∧
        Vocabulary.xsdDecimal ≠ Vocabulary.xsdDouble := by decide
  have known := Numeral.datatype?_eq_some_iff label.toList
  refine ⟨?_, ?_, ?_, ?_⟩
  · rw [run_number_ok_iff, known]
    simp [apart]
  · rw [run_number_ok_iff, known]
    simp [apart, apart.1.symm]
  · rw [run_number_ok_iff, known]
    simp [apart.2.1.symm, apart.2.2.symm]
  · rw [run_number_error_iff, Option.eq_none_iff_forall_ne_some]
    constructor
    · intro none
      exact ⟨fun integer => none _ ((known _).mpr (.inl ⟨rfl, integer⟩)),
        fun decimal => none _ ((known _).mpr (.inr (.inl ⟨rfl, decimal⟩))),
        fun double => none _ ((known _).mpr (.inr (.inr ⟨rfl, double⟩)))⟩
    · rintro ⟨noInteger, noDecimal, noDouble⟩ datatype found
      rcases (known datatype).mp found with ⟨_, integer⟩ | ⟨_, decimal⟩ | ⟨_, double⟩
      · exact noInteger integer
      · exact noDecimal decimal
      · exact noDouble double

end Build

end Sparql
