import Mathlib.Logic.Function.Basic
import Sparql.Build.Terms

/-!
Made-up names, by their numbers. Different numbers give different names, and those of variables are
none of blank nodes.
-/

namespace Sparql

/-- A made-up name, by its number among those of its kind. -/
inductive Name where
  | var (number : Nat)
  | blank (number : Nat)

namespace Name

def text : Name → String
  | var number => s!"_v#{number}"
  | blank number => "_:" ++ s!"_b#{number}"

theorem repr_injective : Function.Injective Nat.repr := by
  intro number number' equal
  have digits := congrArg String.toList equal
  rw [Nat.toList_repr, Nat.toList_repr] at digits
  calc number = Nat.ofDigitChars 10 (Nat.toDigits 10 number) 0 :=
        Nat.ofDigitChars_ten_toDigits.symm
    _ = Nat.ofDigitChars 10 (Nat.toDigits 10 number') 0 := by rw [digits]
    _ = number' := Nat.ofDigitChars_ten_toDigits

theorem text_injective : Function.Injective text := by
  intro name name' equal
  cases name with
  | var number =>
      cases name' with
      | var number' =>
          simp only [text, toString] at equal
          exact congrArg var (repr_injective (by simpa using equal))
      | blank number' =>
          have letters := congrArg String.toList equal
          simp [text, toString] at letters
  | blank number =>
      cases name' with
      | var number' =>
          have letters := congrArg String.toList equal
          simp [text, toString] at letters
      | blank number' =>
          simp only [text, toString] at equal
          exact congrArg blank (repr_injective (by simpa using equal))

end Name

theorem bareLabel_blank (number : Nat) : bareLabel s!"_b#{number}" = s!"_b#{number}" := by
  have letters : (s!"_b#{number}").toList = '_' :: 'b' :: '#' :: (toString number).toList := by
    simp [toString]
  rw [bareLabel, letters]
  rfl

theorem ofName_var (number : Nat) :
    Variable.ofName s!"_v#{number}" = { name := (Name.var number).text } := by
  have letters : (s!"_v#{number}").toList = '_' :: 'v' :: '#' :: (toString number).toList := by
    simp [toString]
  rw [Variable.ofName, letters]
  rfl

theorem ofBlank_blank (number : Nat) :
    Variable.ofBlank s!"_b#{number}" = { name := (Name.blank number).text, blank := true } := by
  rw [Variable.ofBlank, bareLabel_blank]
  rfl

theorem constant_ofBlank_text (number : Nat) :
    (Constant.ofBlank s!"_b#{number}").text = (Name.blank number).text := by
  rw [Constant.ofBlank, bareLabel_blank]
  rfl

end Sparql
