import Mathlib.Algebra.Group.Nat.Even
import Mathlib.Algebra.Ring.Parity
import Mathlib.Data.List.Induction
import Sparql.Regex.Widened

/-!
Where a pattern is taken to be anchored. Whether its last characters are operators depends on how
many backslashes stand before them, of which one at most is looked at. So an anchor after escaped
backslashes is overlooked, and an ordinary dot is mistaken for one that matches anything. There are
no other mistakes, and a pattern once widened is not widened further: `widened_law`.
-/

namespace Sparql.Regex

variable {pattern before last : List Char}

/-! ## Backslashes at the end -/

def backslashes (text : List Char) : Nat := (text.reverse.takeWhile (· = '\\')).length

theorem backslashes_nil : backslashes [] = 0 := rfl

theorem backslashes_concat (c : Char) (text : List Char) :
    backslashes (text ++ [c]) = if c = '\\' then backslashes text + 1 else 0 := by
  by_cases escape : c = '\\' <;> simp [backslashes, escape]

theorem backslashes_append (closed : backslashes before = 0) (text : List Char) :
    backslashes (before ++ text) = backslashes text := by
  induction text using List.reverseRecOn with
  | nil => rw [List.append_nil, closed, backslashes_nil]
  | append_singleton text c induction =>
      rw [← List.append_assoc, backslashes_concat, backslashes_concat, induction]

/-! ## Endings -/

/-- The pattern ends in `last`, and so many backslashes stand before that. -/
def EndsAfter (backs : Nat → Prop) (last pattern : List Char) : Prop :=
  ∃ before, pattern = before ++ last ∧ backs (backslashes before)

theorem endsAfter_append {backs : Nat → Prop} :
    EndsAfter backs last (before ++ last) ↔ backs (backslashes before) := by
  constructor
  · rintro ⟨other, same, holds⟩
    rwa [List.append_cancel_right same]
  · exact fun holds => ⟨before, rfl, holds⟩

instance {backs : Nat → Prop} [DecidablePred backs] :
    Decidable (EndsAfter backs last pattern) :=
  decidable_of_iff
    (last <:+ pattern ∧ backs (backslashes (pattern.take (pattern.length - last.length)))) <| by
    constructor
    · rintro ⟨⟨before, rfl⟩, holds⟩
      rw [endsAfter_append]
      simpa using holds
    · rintro ⟨before, rfl, holds⟩
      exact ⟨List.suffix_append before last, by simpa using holds⟩

def AnchoredAtStart (pattern : List Char) : Prop := ['^'] <+: pattern ∨ anything <+: pattern

/-- The pattern ends in an anchor, or in what matches anything, and neither is escaped. -/
def AnchoredAtEnd (pattern : List Char) : Prop :=
  EndsAfter Even ['$'] pattern ∨ EndsAfter Even anything pattern

/-- The pattern ends in an anchor, and before that in backslashes which escape each other. -/
def Overlooked (pattern : List Char) : Prop :=
  EndsAfter (fun count => Even count ∧ count ≠ 0) ['$'] pattern

def Mistaken (pattern : List Char) : Prop := EndsAfter Odd anything pattern

instance : Decidable (AnchoredAtStart pattern) :=
  inferInstanceAs (Decidable (_ ∨ _))

instance : Decidable (AnchoredAtEnd pattern) :=
  inferInstanceAs (Decidable (_ ∨ _))

instance : Decidable (Overlooked pattern) :=
  inferInstanceAs (Decidable (EndsAfter _ _ _))

instance : Decidable (Mistaken pattern) :=
  inferInstanceAs (Decidable (EndsAfter _ _ _))

/-! ## Anchors as they are found -/

theorem startsAnchored_iff (pattern : List Char) :
    startsAnchored pattern = true ↔ AnchoredAtStart pattern := by
  rw [startsAnchored, Bool.or_eq_true, List.isPrefixOf_iff_prefix, List.isPrefixOf_iff_prefix]
  rfl

theorem endsAnchored_iff (pattern : List Char) :
    endsAnchored pattern = true ↔
      EndsAfter (· = 0) ['$'] pattern ∨ EndsAfter (fun _ => True) anything pattern := by
  -- A last character that is no backslash ends the run of backslashes, and so there are none.
  have dollar : (['$'] <:+ pattern ∧ ¬['\\', '$'] <:+ pattern) ↔
      EndsAfter (· = 0) ['$'] pattern := by
    constructor
    · rintro ⟨⟨before, rfl⟩, unescaped⟩
      rw [endsAfter_append]
      induction before using List.reverseRecOn with
      | nil => rfl
      | append_singleton before c _ =>
          have other : c ≠ '\\' := by
            rintro rfl
            exact unescaped ⟨before, by simp⟩
          rw [backslashes_concat, if_neg other]
    · rintro ⟨before, rfl, none⟩
      refine ⟨List.suffix_append before _, ?_⟩
      rintro ⟨start, same⟩
      have whole : (start ++ ['\\']) ++ ['$'] = before ++ ['$'] := by simpa using same
      rw [← List.append_cancel_right whole, backslashes_concat, if_pos rfl] at none
      exact Nat.succ_ne_zero _ none
  have dots : anything <:+ pattern ↔ EndsAfter (fun _ => True) anything pattern := by
    constructor
    · rintro ⟨before, same⟩
      exact ⟨before, same.symm, trivial⟩
    · rintro ⟨before, same, _⟩
      exact ⟨before, same.symm⟩
  rw [← dollar, ← dots, endsAnchored]
  simp [← List.isSuffixOf_iff_suffix]

theorem not_endsAfter_dollar (backs : Nat → Prop) (before : List Char) :
    ¬EndsAfter backs ['$'] (before ++ anything) := by
  rintro ⟨other, same, _⟩
  have last := congrArg List.getLast? same
  simp [anything] at last

theorem endsAnchored_iff_judged (pattern : List Char) :
    endsAnchored pattern = true ↔
      AnchoredAtEnd pattern ∧ ¬Overlooked pattern ∨ Mistaken pattern := by
  rw [endsAnchored_iff]
  constructor
  · rintro (⟨before, rfl, none⟩ | ⟨before, rfl, _⟩)
    · refine .inl ⟨.inl ⟨before, rfl, by simp [none]⟩, fun overlooked => ?_⟩
      exact (endsAfter_append.mp overlooked).2 none
    · rcases Nat.even_or_odd (backslashes before) with even | odd
      · exact .inl ⟨.inr ⟨before, rfl, even⟩, not_endsAfter_dollar _ before⟩
      · exact .inr ⟨before, rfl, odd⟩
  · rintro (⟨⟨before, rfl, even⟩ | ⟨before, rfl, _⟩, unseen⟩ | ⟨before, rfl, _⟩)
    · refine .inl ⟨before, rfl, ?_⟩
      by_contra some
      exact unseen ⟨before, rfl, even, some⟩
    · exact .inr ⟨before, rfl, trivial⟩
    · exact .inr ⟨before, rfl, trivial⟩

/-! ## Widening -/

theorem widened_of_anchored (starts : startsAnchored pattern = true)
    (ends : endsAnchored pattern = true) : widened pattern = pattern := by
  simp [widened, starts, ends]

theorem startsAnchored_append (starts : startsAnchored before = true) (text : List Char) :
    startsAnchored (before ++ text) = true := by
  rw [startsAnchored_iff] at starts ⊢
  exact starts.imp (·.trans (List.prefix_append before text))
    (·.trans (List.prefix_append before text))

theorem endsAnchored_append (closed : backslashes before = 0)
    (ends : endsAnchored pattern = true) : endsAnchored (before ++ pattern) = true := by
  rw [endsAnchored_iff] at ends ⊢
  rcases ends with ⟨start, rfl, none⟩ | ⟨start, rfl, _⟩
  · refine .inl ⟨before ++ start, (List.append_assoc ..).symm, ?_⟩
    rw [backslashes_append closed, none]
  · exact .inr ⟨before ++ start, (List.append_assoc ..).symm, trivial⟩

theorem startsAnchored_widened (pattern : List Char) :
    startsAnchored (widened pattern) = true := by
  rw [widened, List.append_assoc]
  cases starts : startsAnchored pattern with
  | true => exact startsAnchored_append starts _
  | false =>
      have dots : startsAnchored anything = true := rfl
      exact startsAnchored_append dots _

theorem endsAnchored_widened (pattern : List Char) : endsAnchored (widened pattern) = true := by
  rw [widened]
  cases ends : endsAnchored pattern with
  | true =>
      rw [if_pos rfl, List.append_nil]
      refine endsAnchored_append ?_ ends
      split <;> rfl
  | false => exact (endsAnchored_iff _).mpr (.inr ⟨_, rfl, trivial⟩)

/-- A pattern is widened where it is not anchored, but for the two endings that are judged wrongly,
and once it is widened it stays as it is. -/
theorem widened_law (pattern : List Char) :
    widened pattern =
        (if AnchoredAtStart pattern then [] else anything) ++ pattern ++
          (if AnchoredAtEnd pattern ∧ ¬Overlooked pattern ∨ Mistaken pattern then []
            else anything) ∧
      widened (widened pattern) = widened pattern := by
  constructor
  · simp only [widened, ← startsAnchored_iff, ← endsAnchored_iff_judged]
  · exact widened_of_anchored (startsAnchored_widened pattern) (endsAnchored_widened pattern)

theorem endings_misjudged :
    AnchoredAtEnd "a\\\\$".toList ∧ widened "a\\\\$".toList = ".*a\\\\$.*".toList ∧
      ¬AnchoredAtEnd "a\\.*".toList ∧ widened "a\\.*".toList = ".*a\\.*".toList := by
  decide

end Sparql.Regex
