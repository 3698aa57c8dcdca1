import Sparql.Operator.Names
import Sparql.Proofs.Text.Lowered

/-!
What names stand for. A name is looked up among the built-in names, which are in lower case, and in
namespaces, which are told by their ASCII letters. The namespaces keep clear of the letters that
other letters turn into, and of the built-in names, and so neither the case of a name nor the order
of the look-ups matters: `caseless`.
-/

namespace Sparql.Operator

/-! ## Built-in names -/

theorem plain_of_mem_builtins {entry : String × Operator} (known : entry ∈ builtins) :
    ∀ c ∈ entry.1.toList, c.toNat < 0x80 ∧ c ≠ ':' := by
  have all : ∀ entry ∈ builtins,
      entry.1.toList.all (fun c => c.toNat < 0x80 && c != ':') = true := by decide +kernel
  simpa using all entry known

theorem mem_of_builtin? {name : String} {operator : Operator}
    (found : builtin? name = some operator) :
    (String.ofList (Text.lower name.toList), operator) ∈ builtins := by
  rcases List.lookup_eq_some_iff.mp found with ⟨before, after, equal, _⟩
  rw [equal]
  exact List.mem_append_right _ (List.mem_cons_self ..)

theorem cases_ofName (name : String) :
    (∃ plain, builtin? plain = some (ofName name) ∧
        (plain = name ∨ local? Vocabulary.functions name = some plain)) ∨
      ofName name = .cast ∨ ofName name = .external ∨ ofName name = .undefined := by
  rw [ofName]
  split
  · next operator found => exact .inl ⟨name, found, .inl rfl⟩
  · split
    · next operator found =>
        rcases Option.bind_eq_some_iff.mp found with ⟨plain, inside, found⟩
        exact .inl ⟨plain, found, .inr inside⟩
    · split
      · exact .inr (.inl rfl)
      · split
        · exact .inr (.inr (.inl rfl))
        · exact .inr (.inr (.inr rfl))

theorem ofName_plain (name : String) :
    (ofName name).isPath = false ∧ ofName name ≠ .userFunction := by
  have all : ∀ entry ∈ builtins, entry.2.isPath = false ∧ entry.2 ≠ .userFunction := by decide
  rcases cases_ofName name with ⟨plain, found, _⟩ | equal | equal | equal
  · have plain := all _ (mem_of_builtin? found)
    exact plain
  · simp [equal, isPath, family]
  · simp [equal, isPath, family]
  · simp [equal, isPath, family]

/-! ## Namespaces -/

def spaces : List String :=
  [Vocabulary.functions, Vocabulary.xsd, Vocabulary.rdf, Vocabulary.extensions]

theorem isClear_of_mem_spaces {space : String} (known : space ∈ spaces) :
    Text.IsClear space.toList := by
  have letters : ∀ space ∈ spaces,
      space.toList.all (fun c => c.toNat < 0x80 && c.toLower != 'k') = true := by decide +kernel
  have last : ∀ space ∈ spaces,
      space.toList.getLast?.all (·.toLower != 'i') = true := by decide +kernel
  exact Text.isClear_of_all (letters space known) (last space known)

theorem local?_eq_some_iff {space name plain : String} :
    local? space name = some plain ↔ ∃ head, name.toList = head ++ plain.toList ∧
      head.map Char.toLower = space.toList.map Char.toLower := by
  rw [local?, Option.map_eq_some_iff]
  constructor
  · rintro ⟨rest, found, rfl⟩
    rw [String.toList_ofList]
    exact Text.dropStart?_eq_some_iff.mp found
  · intro found
    exact ⟨plain.toList, Text.dropStart?_eq_some_iff.mpr found, String.ofList_toList⟩

theorem isSome_local?_iff {space name : String} :
    (local? space name).isSome = true ↔
      space.toList.map Char.toLower <+: name.toList.map Char.toLower := by
  rw [Option.isSome_iff_exists]
  constructor
  · rintro ⟨plain, found⟩
    obtain ⟨head, whole, same⟩ := local?_eq_some_iff.mp found
    exact ⟨plain.toList.map Char.toLower, by rw [whole, List.map_append, same]⟩
  · rintro ⟨rest, whole⟩
    obtain ⟨head, plain, parts, same, rfl⟩ := List.map_eq_append_iff.mp whole.symm
    exact ⟨String.ofList plain, local?_eq_some_iff.mpr ⟨head, by simp [parts], same⟩⟩

theorem builtin?_of_local? {space name plain : String} (known : space ∈ spaces)
    (inside : local? space name = some plain) : builtin? name = none := by
  have colons : ∀ space ∈ spaces, ':' ∈ space.toList.map Char.toLower := by decide +kernel
  obtain ⟨head, whole, same⟩ := local?_eq_some_iff.mp inside
  have ascii : ∀ c ∈ head, c.toNat < 0x80 := by
    rw [← Text.ascii_toLower_iff, same, Text.ascii_toLower_iff]
    exact (isClear_of_mem_spaces known).ascii
  -- The namespace is ASCII text, and keeps its colon in lower case.
  have colon : ':' ∈ Text.lower name.toList := by
    rw [whole, Text.lower, List.flatMap_append, ← Text.lower, Text.lower_of_ascii ascii, same]
    exact List.mem_append_left _ (colons space known)
  cases found : builtin? name with
  | none => rfl
  | some operator =>
      have plain := plain_of_mem_builtins (mem_of_builtin? found)
      rw [String.toList_ofList] at plain
      exact absurd rfl (plain ':' colon).2

theorem local?_of_local? {space space' name plain : String} (known : space ∈ spaces)
    (known' : space' ∈ spaces) (other : space' ≠ space) (inside : local? space name = some plain) :
    local? space' name = none := by
  have apart : ∀ space ∈ spaces, ∀ space' ∈ spaces, space' ≠ space →
      ¬space'.toList.map Char.toLower <+: space.toList.map Char.toLower := by decide +kernel
  have starts := isSome_local?_iff.mp (Option.isSome_of_eq_some inside)
  cases outside : local? space' name with
  | none => rfl
  | some plain' =>
      have starts' := isSome_local?_iff.mp (Option.isSome_of_eq_some outside)
      rcases List.prefix_or_prefix_of_prefix starts' starts with inner | inner
      · exact absurd inner (apart space known space' known' other)
      · exact absurd inner (apart space' known' space known other.symm)

/-! ## Digests -/

theorem builtin?_eq_hash_iff (name : String) :
    builtin? name = some .hash ↔
      (digests.lookup (String.ofList (Text.lower name.toList))).isSome = true := by
  have digested : ∀ entry ∈ builtins, entry.2 = .hash →
      (digests.lookup entry.1).isSome = true := by decide +kernel
  have hashed : ∀ entry ∈ digests, builtins.lookup entry.1 = some .hash := by decide +kernel
  constructor
  · intro found
    have digest := digested (_, .hash) (mem_of_builtin? found)
    exact digest rfl
  · intro known
    obtain ⟨digest, found⟩ := Option.isSome_iff_exists.mp known
    rcases List.lookup_eq_some_iff.mp found with ⟨before, after, equal, _⟩
    have member : (String.ofList (Text.lower name.toList), digest) ∈ digests := by simp [equal]
    have hash := hashed _ member
    exact hash

theorem ofName_eq_hash_iff (name : String) :
    ofName name = .hash ↔ (digest? name).isSome = true := by
  have other (cast external : Bool) :
      (if cast then Operator.cast else if external then .external else .undefined) ≠ .hash := by
    cases cast <;> cases external <;> decide
  rw [digest?, ← builtin?_eq_hash_iff, ofName]
  cases inside : local? Vocabulary.functions name with
  | none =>
      rw [Option.getD_none]
      cases builtin? name with
      | none => exact ⟨fun equal => absurd equal (other _ _), nofun⟩
      | some operator => simp
  | some plain =>
      rw [Option.getD_some, builtin?_of_local? (by decide) inside]
      dsimp only [Option.bind_some]
      cases builtin? plain with
      | none => exact ⟨fun equal => absurd equal (other _ _), nofun⟩
      | some operator => simp

/-! ## Names in other cases -/

variable {name name' : String}

theorem builtin?_recased (recased : Text.Recased name.toList name'.toList) :
    builtin? name' = builtin? name :=
  (recased.alike.lookup_eq fun _ known c inside =>
    (plain_of_mem_builtins known c inside).1).symm

theorem local?_recased {space : String} (known : space ∈ spaces)
    (recased : Text.Recased name.toList name'.toList) :
    local? space name = none ∧ local? space name' = none ∨
      ∃ plain plain', local? space name = some plain ∧ local? space name' = some plain' ∧
        Text.Recased plain.toList plain'.toList := by
  have related := recased.dropStart? (isClear_of_mem_spaces known)
  rw [local?, local?]
  generalize Text.dropStart? space.toList name.toList = rest at related ⊢
  generalize Text.dropStart? space.toList name'.toList = rest' at related ⊢
  cases related with
  | none => exact .inl ⟨rfl, rfl⟩
  | some rest =>
      exact .inr ⟨_, _, rfl, rfl, by rwa [String.toList_ofList, String.toList_ofList]⟩

theorem isSome_local?_recased {space : String} (known : space ∈ spaces)
    (recased : Text.Recased name.toList name'.toList) :
    (local? space name').isSome = (local? space name).isSome := by
  rcases local?_recased known recased with ⟨outside, outside'⟩ | ⟨_, _, inside, inside', _⟩
  · rw [outside, outside']
  · rw [inside, inside', Option.isSome_some, Option.isSome_some]

theorem ofName_recased (recased : Text.Recased name.toList name'.toList) :
    ofName name' = ofName name := by
  have known : Vocabulary.functions ∈ spaces := by decide
  have within : (local? Vocabulary.functions name').bind builtin? =
      (local? Vocabulary.functions name).bind builtin? := by
    rcases local?_recased known recased with ⟨outside, outside'⟩ | ⟨_, _, inside, inside', rest⟩
    · rw [outside, outside']
    · rw [inside, inside', Option.bind_some, Option.bind_some, builtin?_recased rest]
  rw [ofName, ofName, builtin?_recased recased, within,
    isSome_local?_recased (by decide) recased, isSome_local?_recased (by decide) recased,
    isSome_local?_recased (by decide) recased]

theorem plain_recased (recased : Text.Recased name.toList name'.toList) :
    Text.Recased ((local? Vocabulary.functions name).getD name).toList
      ((local? Vocabulary.functions name').getD name').toList := by
  have known : Vocabulary.functions ∈ spaces := by decide
  rcases local?_recased known recased with ⟨outside, outside'⟩ | ⟨_, _, inside, inside', rest⟩
  · rwa [outside, outside', Option.getD_none, Option.getD_none]
  · rwa [inside, inside', Option.getD_some, Option.getD_some]

theorem ascii_of_mem_digests {entry : String × String} (known : entry ∈ digests) :
    ∀ c ∈ entry.1.toList, c.toNat < 0x80 := by
  have all : ∀ entry ∈ digests, entry.1.toList.all (·.toNat < 0x80) = true := by decide +kernel
  simpa using all entry known

theorem digest?_recased (recased : Text.Recased name.toList name'.toList) :
    digest? name' = digest? name :=
  ((plain_recased recased).alike.lookup_eq fun _ => ascii_of_mem_digests).symm

theorem ofName_of_extension
    (starts : Vocabulary.extensions.toList <+: name.toList.map Char.toLower) :
    ofName name = .external := by
  have lower : Vocabulary.extensions.toList.map Char.toLower = Vocabulary.extensions.toList := by
    decide
  have inside : (local? Vocabulary.extensions name).isSome = true := by
    rwa [isSome_local?_iff, lower]
  obtain ⟨plain, found⟩ := Option.isSome_iff_exists.mp inside
  have outside {space : String} (known : space ∈ spaces) (other : space ≠ Vocabulary.extensions) :
      local? space name = none := local?_of_local? (by decide) known other found
  rw [ofName, builtin?_of_local? (by decide) found, outside (by decide) (by decide),
    outside (by decide) (by decide), outside (by decide) (by decide), inside]
  rfl

structure Caseless (name : String) : Prop where
  lowered : ∀ name' : String, Text.Lowered name.toList name'.toList → ofName name' = ofName name
  recased : ∀ name' : String, name'.toList.map Char.toLower = name.toList.map Char.toLower →
    ofName name' = ofName name ∧ builtin? name' = builtin? name ∧ digest? name' = digest? name
  /-- The forms of a sigma do not matter where a name is looked up. -/
  builtin : ∀ text, Text.Lowered name.toList text →
    builtin? name = builtins.lookup (String.ofList text)
  digest : ∀ text,
    Text.Lowered ((local? Vocabulary.functions name).getD name).toList text →
      digest? name = digests.lookup (String.ofList text)
  hash : ofName name = .hash ↔ (digest? name).isSome = true
  external : Vocabulary.extensions.toList <+: name.toList.map Char.toLower →
    ofName name = .external

/-- However a name is found, among the built-in names or in a namespace, its case does not matter.
The names of hash functions are those of digests, and no other name hides an external call. -/
theorem caseless (name : String) : Caseless name where
  lowered _ lowered := ofName_recased lowered.recased
  recased _ same := by
    have recased := Text.recased_of_toLower same
    exact ⟨ofName_recased recased, builtin?_recased recased, digest?_recased recased⟩
  builtin _ lowered :=
    lowered.alike.lookup_eq fun _ known c inside => (plain_of_mem_builtins known c inside).1
  digest _ lowered := lowered.alike.lookup_eq fun _ => ascii_of_mem_digests
  hash := ofName_eq_hash_iff name
  external := ofName_of_extension

theorem caseless_kelvin :
    let name := String.ofList ('S' :: Text.kelvinSign :: "olem".toList)
    Text.Lowered name.toList "skolem".toList ∧ ofName "skolem" = ofName name := by
  intro name
  have lowered : Text.Lowered name.toList "skolem".toList := by
    have shown : Text.lower name.toList = "skolem".toList := by decide +kernel
    rw [← shown]
    exact Text.lowered_lower name.toList
  exact ⟨lowered, (caseless name).lowered "skolem" lowered⟩

end Sparql.Operator
