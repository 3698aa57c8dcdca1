/-!
Cutting text at a mark, and testing how it starts. Text is handled as a list of characters, and
each cut comes with the law that nothing is lost.
-/

namespace Sparql.Text

/-! ## Cutting at a mark -/

def cutFirst? (mark : Char) : List Char → Option (List Char × List Char)
  | [] => none
  | c :: rest =>
    if c = mark then some ([], rest)
    else (cutFirst? mark rest).map fun (before, after) => (c :: before, after)

def cutLast? (mark : Char) : List Char → Option (List Char × List Char)
  | [] => none
  | c :: rest =>
    match cutLast? mark rest with
    | some (before, after) => some (c :: before, after)
    | none => if c = mark then some ([], rest) else none

example : cutFirst? '.' "a.b.c".toList = some ("a".toList, "b.c".toList) := by decide

example : cutLast? '.' "a.b.c".toList = some ("a.b".toList, "c".toList) := by decide

theorem append_of_cutFirst? {mark : Char} {text before after : List Char}
    (cut : cutFirst? mark text = some (before, after)) :
    text = before ++ mark :: after ∧ mark ∉ before := by
  induction text generalizing before with
  | nil => simp [cutFirst?] at cut
  | cons c rest induction =>
      unfold cutFirst? at cut
      split at cut
      · next equal => cases cut; simp [equal]
      · next different =>
        obtain ⟨⟨before', after'⟩, found, equal⟩ := Option.map_eq_some_iff.1 cut
        cases equal
        obtain ⟨whole, clean⟩ := induction found
        exact ⟨by simp [whole], by simp [clean, Ne.symm different]⟩

theorem cutFirst?_append {mark : Char} {before : List Char} (clean : mark ∉ before)
    (after : List Char) : cutFirst? mark (before ++ mark :: after) = some (before, after) := by
  induction before with
  | nil => simp [cutFirst?]
  | cons c before induction =>
      rw [List.mem_cons, not_or] at clean
      simp [cutFirst?, Ne.symm clean.1, induction clean.2]

theorem cutFirst?_eq_none_iff {mark : Char} {text : List Char} :
    cutFirst? mark text = none ↔ mark ∉ text := by
  induction text with
  | nil => simp [cutFirst?]
  | cons c rest induction =>
      by_cases equal : c = mark
      · simp [cutFirst?, equal]
      · simp [cutFirst?, equal, Ne.symm equal, induction]

theorem append_of_cutLast? {mark : Char} {text before after : List Char}
    (cut : cutLast? mark text = some (before, after)) :
    text = before ++ mark :: after := by
  induction text generalizing before with
  | nil => simp [cutLast?] at cut
  | cons c rest induction =>
      unfold cutLast? at cut
      split at cut
      · next found => cases cut; simp [induction found]
      · next => split at cut <;> simp_all

theorem cutLast?_eq_none_iff {mark : Char} {text : List Char} :
    cutLast? mark text = none ↔ mark ∉ text := by
  induction text with
  | nil => simp [cutLast?]
  | cons c rest induction =>
      rw [List.mem_cons, not_or, ← induction, cutLast?]
      cases cutLast? mark rest with
      | some _ => simp
      | none => simp [eq_comm]

theorem cutLast?_append {mark : Char} {after : List Char} (clean : mark ∉ after)
    (before : List Char) : cutLast? mark (before ++ mark :: after) = some (before, after) := by
  induction before with
  | nil => simp [cutLast?, cutLast?_eq_none_iff.mpr clean]
  | cons c before induction => simp [cutLast?, induction]

theorem not_mem_of_cutLast? {mark : Char} {text before after : List Char}
    (cut : cutLast? mark text = some (before, after)) : mark ∉ after := by
  induction text generalizing before with
  | nil => simp [cutLast?] at cut
  | cons c rest induction =>
      rw [cutLast?] at cut
      split at cut
      · next found =>
        cases cut
        exact induction found
      · next none =>
        split at cut <;> cases cut
        exact cutLast?_eq_none_iff.mp none

/-! ## Testing how text starts -/

/-- What follows `start`, when `text` starts with it up to ASCII letter case. -/
def dropStart? : (start text : List Char) → Option (List Char)
  | [], text => some text
  | _ :: _, [] => none
  | s :: start, c :: text => if c.toLower = s.toLower then dropStart? start text else none

theorem dropStart?_eq_some_iff {start text rest : List Char} :
    dropStart? start text = some rest ↔
      ∃ head, text = head ++ rest ∧ head.map Char.toLower = start.map Char.toLower := by
  induction start generalizing text with
  | nil => simp [dropStart?, eq_comm]
  | cons s start induction =>
      cases text with
      | nil => simp [dropStart?]
      | cons c text =>
          rw [dropStart?]
          split
          · next same =>
              rw [induction]
              constructor
              · rintro ⟨head, rfl, equal⟩
                exact ⟨c :: head, rfl, by simp [same, equal]⟩
              · rintro ⟨head, whole, equal⟩
                cases head with
                | nil => simp at equal
                | cons c' head =>
                    obtain ⟨rfl, rfl⟩ := List.cons.inj whole
                    exact ⟨head, rfl, (List.cons.inj equal).2⟩
          · next different =>
              constructor
              · nofun
              · rintro ⟨head, whole, equal⟩
                cases head with
                | nil => simp at equal
                | cons c' head =>
                    obtain ⟨rfl, rfl⟩ := List.cons.inj whole
                    exact absurd (List.cons.inj equal).1 different

def occurs (part : List Char) : List Char → Bool
  | [] => part.isEmpty
  | c :: rest => part.isPrefixOf (c :: rest) || occurs part rest

/-- What stands between `<` and `>`, when the text is enclosed by them. -/
def unbracket? : List Char → Option (List Char)
  | '<' :: rest => if rest.getLast? = some '>' then some rest.dropLast else none
  | _ => none

example : unbracket? "<urn:a>".toList = some "urn:a".toList := by decide

example : unbracket? "<".toList = none := by decide

end Sparql.Text
