import Sparql.Text.Cut
import Sparql.Text.Lowercase

/-!
Texts that differ in case only. Lower-casing keeps letters outside ASCII outside it, with two
exceptions, and so it does not change how a text compares with ASCII texts: `Recased.alike`.
Neither does it change whether a text starts with one that is clear of the exceptions:
`Recased.dropStart?`.
-/

namespace Sparql.Text

/-! ## Single letters -/

def kelvinSign : Char := Char.ofNat 0x212A

def dottedI : Char := Char.ofNat 0x130

theorem toNat_toLower (c : Char) :
    c.toLower.toNat = if 65 ≤ c.toNat ∧ c.toNat ≤ 90 then c.toNat + 32 else c.toNat := by
  have upper : c.val ≥ 'A'.val ∧ c.val ≤ 'Z'.val ↔ 65 ≤ c.toNat ∧ c.toNat ≤ 90 := Iff.rfl
  unfold Char.toLower
  split
  · next inside =>
      have bounds := upper.mp inside
      have sum : (c.val + ('a'.val - 'A'.val)).toNat = (c.toNat + 32) % 2 ^ 32 :=
        UInt32.toNat_add ..
      rw [if_pos bounds]
      exact sum.trans (by omega)
  · next outside => rw [if_neg (mt upper.mpr outside)]

theorem toLower_of_foreign {c : Char} (foreign : 0x80 ≤ c.toNat) : c.toLower = c := by
  refine Char.toNat_inj.mp ?_
  rw [toNat_toLower, if_neg (by omega)]

theorem toLower_ascii_iff (c : Char) : c.toLower.toNat < 0x80 ↔ c.toNat < 0x80 := by
  rw [toNat_toLower]
  split <;> omega

theorem toLower_toLower (c : Char) : c.toLower.toLower = c.toLower := by
  have shown := toNat_toLower c
  refine Char.toNat_inj.mp ?_
  rw [toNat_toLower c.toLower, if_neg]
  split at shown <;> omega

theorem lowerChar_of_ascii {c : Char} (ascii : c.toNat < 0x80) : lowerChar c = [c.toLower] :=
  if_pos ascii

theorem ascii_toLower_iff {text : List Char} :
    (∀ c ∈ text.map Char.toLower, c.toNat < 0x80) ↔ ∀ c ∈ text, c.toNat < 0x80 := by
  simp [toLower_ascii_iff]

theorem lower_of_ascii {text : List Char} (ascii : ∀ c ∈ text, c.toNat < 0x80) :
    lower text = text.map Char.toLower := by
  induction text with
  | nil => rfl
  | cons c text induction =>
      rw [List.forall_mem_cons] at ascii
      rw [lower, List.flatMap_cons, lowerChar_of_ascii ascii.1, List.map_cons, ← induction ascii.2]
      rfl

theorem cases_lowerChar (c : Char) :
    c.toNat < 0x80 ∨ c = kelvinSign ∨ c = dottedI ∨
      0x80 ≤ c.toNat ∧ ∃ d, lowerChar c = [d] ∧ 0x80 ≤ d.toNat ∧ d ≠ kelvinSign := by
  -- The table of ranges is looked through once; the case split below only reads it off.
  have apart : ∀ range ∈ caseRanges,
      (range.first = 0x212A ∧ range.last = 0x212A) ∨
        let last := range.lower + (range.last - range.first)
        0x80 ≤ range.lower ∧ (last < 0xD800 ∨ 0xE000 ≤ range.lower ∧ last < 0x110000) ∧
          (last < 0x212A ∨ 0x212A < range.lower) := by decide +kernel
  by_cases ascii : c.toNat < 0x80
  · exact .inl ascii
  by_cases kelvin : c = kelvinSign
  · exact .inr (.inl kelvin)
  by_cases dotted : c = dottedI
  · exact .inr (.inr (.inl dotted))
  refine .inr (.inr (.inr ⟨Nat.le_of_not_lt ascii, ?_⟩))
  have other : c.toNat ≠ 0x130 := fun equal => dotted (Char.toNat_inj.mp equal)
  have other' : c.toNat ≠ 0x212A := fun equal => kelvin (Char.toNat_inj.mp equal)
  rw [lowerChar, if_neg ascii, if_neg other]
  cases found : caseRanges.find? (·.covers c.toNat) with
  | none => exact ⟨c, rfl, Nat.le_of_not_lt ascii, kelvin⟩
  | some range =>
      have covered := List.find?_some found
      simp only [CaseRange.covers, Bool.and_eq_true, decide_eq_true_eq] at covered
      refine ⟨_, rfl, ?_⟩
      rcases apart range (List.mem_of_find?_eq_some found) with alone | ⟨low, valid, clear⟩
      · omega
      · have char : (range.apply c.toNat).isValidChar := by
          unfold Nat.isValidChar CaseRange.apply
          omega
        have number : (Char.ofNat (range.apply c.toNat)).toNat = range.apply c.toNat := by
          rw [Char.ofNat, dif_pos char]
          rfl
        have next : (Char.ofNat (range.apply c.toNat)).toNat ≠ 0x212A := by
          rw [number, CaseRange.apply]
          omega
        refine ⟨?_, fun equal => next (congrArg Char.toNat equal)⟩
        rw [number, CaseRange.apply]
        omega

/-! ## Texts that no ASCII text tells apart -/

def Foreign (text : List Char) : Prop := ∃ c ∈ text, 0x80 ≤ c.toNat

def Alike (text text' : List Char) : Prop := text = text' ∨ Foreign text ∧ Foreign text'

theorem Foreign.append_left {text : List Char} (foreign : Foreign text) (more : List Char) :
    Foreign (text ++ more) := by
  obtain ⟨c, inside, outside⟩ := foreign
  exact ⟨c, List.mem_append_left more inside, outside⟩

theorem Foreign.append_right {text : List Char} (foreign : Foreign text) (before : List Char) :
    Foreign (before ++ text) := by
  obtain ⟨c, inside, outside⟩ := foreign
  exact ⟨c, List.mem_append_right before inside, outside⟩

theorem Alike.append {text text' more more' : List Char} (first : Alike text text')
    (second : Alike more more') : Alike (text ++ more) (text' ++ more') := by
  rcases first with rfl | ⟨foreign, foreign'⟩
  · rcases second with rfl | ⟨foreign, foreign'⟩
    · exact .inl rfl
    · exact .inr ⟨foreign.append_right _, foreign'.append_right _⟩
  · exact .inr ⟨foreign.append_left _, foreign'.append_left _⟩

theorem Alike.lookup_eq {α : Type} {table : List (String × α)}
    (ascii : ∀ entry ∈ table, ∀ c ∈ entry.1.toList, c.toNat < 0x80) {text text' : List Char}
    (alike : Alike text text') :
    table.lookup (String.ofList text) = table.lookup (String.ofList text') := by
  have missing {text : List Char} (foreign : Foreign text) :
      table.lookup (String.ofList text) = none := by
    obtain ⟨c, inside, outside⟩ := foreign
    refine List.lookup_eq_none_iff.mpr fun entry member => ?_
    refine bne_iff_ne.mpr fun equal => ?_
    have small := ascii entry member c (by rwa [← equal, String.toList_ofList])
    omega
  rcases alike with rfl | ⟨foreign, foreign'⟩
  · rfl
  · rw [missing foreign, missing foreign']

/-! ## Texts in other cases -/

/-- A capital sigma has two lower-case forms. The second one stands at the end of a word. -/
def sigma : Char := Char.ofNat 0x3A3

def finalSigma : Char := Char.ofNat 0x3C2

/-- The second text is the first one in lower case, with capital sigmas in either form. -/
inductive Lowered : List Char → List Char → Prop
  | nil : Lowered [] []
  | cons {text text' : List Char} (c : Char) (rest : Lowered text text') :
      Lowered (c :: text) (lowerChar c ++ text')
  | sigma {text text' : List Char} (rest : Lowered text text') :
      Lowered (sigma :: text) (finalSigma :: text')

/-- The second text is the first one with letters in lower case, and with ASCII letters in any. -/
inductive Recased : List Char → List Char → Prop
  | nil : Recased [] []
  | lower {text text' : List Char} (c : Char) (rest : Recased text text') :
      Recased (c :: text) (lowerChar c ++ text')
  | sigma {text text' : List Char} (rest : Recased text text') :
      Recased (sigma :: text) (finalSigma :: text')
  | ascii {text text' : List Char} {c c' : Char} (same : c.toLower = c'.toLower)
      (rest : Recased text text') : Recased (c :: text) (c' :: text')

theorem lowered_lower (text : List Char) : Lowered text (lower text) := by
  induction text with
  | nil => exact .nil
  | cons c text induction => exact .cons c induction

theorem Lowered.recased {text text' : List Char} (lowered : Lowered text text') :
    Recased text text' := by
  induction lowered with
  | nil => exact .nil
  | cons c _ induction => exact .lower c induction
  | sigma _ induction => exact .sigma induction

theorem recased_of_toLower {text text' : List Char}
    (same : text'.map Char.toLower = text.map Char.toLower) : Recased text text' := by
  induction text generalizing text' with
  | nil =>
      rw [List.map_eq_nil_iff.mp same]
      exact .nil
  | cons c text induction =>
      cases text' with
      | nil => cases same
      | cons c' text' =>
          obtain ⟨first, rest⟩ := List.cons.inj same
          exact .ascii first.symm (induction rest)

theorem lowerChar_congr {c c' : Char} (same : c.toLower = c'.toLower) :
    lowerChar c = lowerChar c' := by
  by_cases ascii : c.toNat < 0x80
  · have ascii' : c'.toNat < 0x80 := by rwa [← toLower_ascii_iff, ← same, toLower_ascii_iff]
    rw [lowerChar_of_ascii ascii, lowerChar_of_ascii ascii', same]
  · have foreign' : 0x80 ≤ c'.toNat := by
      rw [← toLower_ascii_iff, same, toLower_ascii_iff] at ascii
      exact Nat.le_of_not_lt ascii
    rw [toLower_of_foreign (Nat.le_of_not_lt ascii), toLower_of_foreign foreign'] at same
    rw [same]

theorem alike_lowerChar (c : Char) : Alike (lowerChar c) (lower (lowerChar c)) := by
  rcases cases_lowerChar c with ascii | rfl | rfl | ⟨_, d, shown, foreign, other⟩
  · have ascii' := (toLower_ascii_iff c).mpr ascii
    refine .inl ?_
    rw [lowerChar_of_ascii ascii, lower, List.flatMap_singleton, lowerChar_of_ascii ascii',
      toLower_toLower]
  · exact .inl (by decide)
  · exact .inl (by decide)
  · refine .inr ⟨⟨d, by simp [shown], foreign⟩, ?_⟩
    rw [shown, lower, List.flatMap_singleton]
    rcases cases_lowerChar d with ascii | rfl | rfl | ⟨_, d', shown', foreign', _⟩
    · omega
    · exact absurd rfl other
    · exact ⟨Char.ofNat 0x307, by decide, by decide⟩
    · exact ⟨d', by simp [shown'], foreign'⟩

theorem Recased.alike {text text' : List Char} (recased : Recased text text') :
    Alike (Text.lower text) (Text.lower text') := by
  induction recased with
  | nil => exact .inl rfl
  | lower c _ induction =>
      rw [Text.lower, List.flatMap_cons, Text.lower, List.flatMap_append]
      exact (alike_lowerChar c).append induction
  | sigma _ induction =>
      have foreign : Alike (lowerChar Text.sigma) (lowerChar finalSigma) :=
        .inr ⟨⟨Char.ofNat 0x3C3, by decide, by decide⟩, ⟨finalSigma, by decide, by decide⟩⟩
      exact foreign.append induction
  | ascii same _ induction =>
      rw [Text.lower, List.flatMap_cons, Text.lower, List.flatMap_cons, lowerChar_congr same]
      exact Alike.append (.inl rfl) induction

theorem Lowered.alike {text text' : List Char} (lowered : Lowered text text') :
    Alike (lower text) text' := by
  induction lowered with
  | nil => exact .inl rfl
  | cons c _ induction => exact Alike.append (.inl rfl) induction
  | sigma _ induction =>
      have foreign : Alike (lowerChar Text.sigma) [finalSigma] :=
        .inr ⟨⟨Char.ofNat 0x3C3, by decide, by decide⟩, ⟨finalSigma, by decide, by decide⟩⟩
      exact foreign.append induction

/-! ## The start of a text -/

/-- ASCII letters which are the lower-case forms of no other letters, nor the beginnings of any. -/
structure IsClear (start : List Char) : Prop where
  ascii : ∀ c ∈ start, c.toNat < 0x80
  noKelvin : ∀ c ∈ start, c.toLower ≠ 'k'
  noDotted : ∀ c, start.getLast? = some c → c.toLower ≠ 'i'

theorem isClear_of_all {start : List Char}
    (letters : start.all (fun c => c.toNat < 0x80 && c.toLower != 'k') = true)
    (last : start.getLast?.all (·.toLower != 'i') = true) : IsClear start := by
  simp only [List.all_eq_true, Bool.and_eq_true, decide_eq_true_eq, bne_iff_ne] at letters
  refine ⟨fun c inside => (letters c inside).1, fun c inside => (letters c inside).2, ?_⟩
  intro c final
  simpa [final] using last

theorem IsClear.tail {p : Char} {start : List Char} (clear : IsClear (p :: start)) :
    IsClear start := by
  refine ⟨fun c inside => clear.ascii c (List.mem_cons_of_mem p inside),
    fun c inside => clear.noKelvin c (List.mem_cons_of_mem p inside), fun c last => ?_⟩
  cases start with
  | nil => cases last
  | cons p' start => exact clear.noDotted c (by rwa [List.getLast?_cons_cons])

theorem dropStart?_foreign {p c : Char} (ascii : p.toNat < 0x80) (foreign : 0x80 ≤ c.toNat)
    (start text : List Char) : dropStart? (p :: start) (c :: text) = none := by
  refine if_neg fun same => ?_
  rw [← toLower_ascii_iff, ← same, toLower_ascii_iff] at ascii
  omega

theorem dropStart?_lowerChar_foreign {p c : Char} {start : List Char}
    (clear : IsClear (p :: start)) (foreign : 0x80 ≤ c.toNat) (text : List Char) :
    dropStart? (p :: start) (lowerChar c ++ text) = none := by
  have ascii := clear.ascii p List.mem_cons_self
  rcases cases_lowerChar c with small | rfl | rfl | ⟨_, d, shown, foreign', _⟩
  · omega
  · have shown : lowerChar kelvinSign = ['k'] := by decide
    rw [shown]
    exact if_neg (clear.noKelvin p List.mem_cons_self).symm
  · have shown : lowerChar dottedI = ['i', Char.ofNat 0x307] := by decide
    rw [shown, List.cons_append, dropStart?]
    split
    · next same =>
        cases start with
        | nil => exact absurd same.symm (clear.noDotted p rfl)
        | cons p' start =>
            have ascii' := clear.tail.ascii p' List.mem_cons_self
            exact dropStart?_foreign ascii' (by decide) ..
    · rfl
  · rw [shown]
    exact dropStart?_foreign ascii foreign' ..

theorem Recased.dropStart? {start text text' : List Char} (clear : IsClear start)
    (recased : Recased text text') :
    Option.Rel Recased (Text.dropStart? start text) (Text.dropStart? start text') := by
  -- A letter outside ASCII ends the comparison in both texts, an ASCII letter goes on in both.
  induction recased generalizing start with
  | nil =>
      cases start with
      | nil => exact .some .nil
      | cons p start => exact .none
  | @lower text text' c rest induction =>
      cases start with
      | nil => exact .some (.lower c rest)
      | cons p start =>
          by_cases ascii : c.toNat < 0x80
          · rw [lowerChar_of_ascii ascii, List.singleton_append, Text.dropStart?, Text.dropStart?,
              toLower_toLower]
            split
            · exact induction clear.tail
            · exact .none
          · have foreign := Nat.le_of_not_lt ascii
            rw [dropStart?_lowerChar_foreign clear foreign,
              dropStart?_foreign (clear.ascii p List.mem_cons_self) foreign]
            exact .none
  | @sigma text text' rest induction =>
      cases start with
      | nil => exact .some (.sigma rest)
      | cons p start =>
          have ascii := clear.ascii p List.mem_cons_self
          rw [dropStart?_foreign ascii (by decide), dropStart?_foreign ascii (by decide)]
          exact .none
  | @ascii text text' c c' same rest induction =>
      cases start with
      | nil => exact .some (.ascii same rest)
      | cons p start =>
          rw [Text.dropStart?, Text.dropStart?, same]
          split
          · exact induction clear.tail
          · exact .none

end Sparql.Text
