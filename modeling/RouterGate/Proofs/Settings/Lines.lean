import Mathlib.Data.List.Pairwise
import RouterGate.Proofs.Since
import RouterGate.Settings.Line
/-!
What a line of the file sets, and which line sets a name last.
-/
namespace RouterGate.Settings

theorem unquote_bare {s : List Char} (bare : ∀ inner, s ≠ '"' :: (inner ++ ['"'])) :
    unquote s = s := by
  unfold unquote
  split
  next rest =>
    rw [if_neg]
    intro closed
    obtain ⟨inner, rfl⟩ := List.getLast?_eq_some_iff.mp closed
    exact bare inner rfl
  next => rfl

/-- A line sets a name to a value. It is no comment, and the name stands before its first equals
sign, between blanks. The value is all that stands after the sign, without the one pair of double
quotes that may be around it. -/
inductive Sets (line : List Char) : List Char → List Char → Prop
  | bare {before value : List Char}
      (spelt : Text.dropReturn line = before ++ '=' :: value)
      (first : '=' ∉ before)
      (told : before.head? ≠ some '#')
      (named : Text.trim before ≠ [])
      (unquoted : ∀ inner, value ≠ '"' :: (inner ++ ['"'])) :
      Sets line (Text.trim before) value
  | quoted {before value : List Char}
      (spelt : Text.dropReturn line = before ++ '=' :: '"' :: (value ++ ['"']))
      (first : '=' ∉ before)
      (told : before.head? ≠ some '#')
      (named : Text.trim before ≠ []) :
      Sets line (Text.trim before) value

/-- A line that sets a name has a character before its equals sign. -/
theorem head?_of_named {before after : List Char} (named : Text.trim before ≠ []) :
    (before ++ '=' :: after).head? = before.head? := by
  cases before with
  | nil => exact absurd Text.trim_nil named
  | cons c rest => rfl

theorem entry?_of_spelt {line before after : List Char}
    (spelt : Text.dropReturn line = before ++ '=' :: after) (first : '=' ∉ before)
    (told : before.head? ≠ some '#') (named : Text.trim before ≠ []) :
    entry? line = some (Text.trim before, unquote after) := by
  have cut : Text.cut? '=' (Text.dropReturn line) = some (before, after) :=
    Text.cut?_eq_some_iff.mpr ⟨spelt, first⟩
  have said : (Text.dropReturn line).head? ≠ some '#' := by
    rwa [spelt, head?_of_named named]
  have filled : (Text.trim before).isEmpty = false := List.isEmpty_eq_false_iff.mpr named
  simp only [said, cut, filled, if_false, Bool.false_eq_true, entry?]

theorem entry?_eq_some_iff {line key value : List Char} :
    entry? line = some (key, value) ↔ Sets line key value := by
  constructor
  · intro read
    unfold entry? at read
    dsimp only at read
    split at read
    next => cases read
    next said =>
      split at read
      next => cases read
      next before after cut =>
        split at read
        next => cases read
        next filled =>
          cases read
          obtain ⟨spelt, first⟩ := Text.cut?_eq_some_iff.mp cut
          have named : Text.trim before ≠ [] := by
            intro none
            exact filled (by rw [none]; rfl)
          rw [spelt, head?_of_named named] at said
          by_cases quoted : ∃ inner, after = '"' :: (inner ++ ['"'])
          · obtain ⟨inner, rfl⟩ := quoted
            rw [unquote_quoted]
            exact .quoted spelt first said named
          · have unquoted : ∀ inner, after ≠ '"' :: (inner ++ ['"']) :=
              fun inner same => quoted ⟨inner, same⟩
            rw [unquote_bare unquoted]
            exact .bare spelt first said named unquoted
  · intro sets
    cases sets with
    | bare spelt first told named unquoted =>
        rw [entry?_of_spelt spelt first told named, unquote_bare unquoted]
    | quoted spelt first told named =>
        rw [entry?_of_spelt spelt first told named, unquote_quoted]

/-- What is set last under a name, in any letter case. -/
def last? {α : Type} (name : List Char) (entries : List (List Char × α)) : Option α :=
  (entries.reverse.find? fun entry => Text.sameIgnoringCase entry.1 name).map (·.2)

theorem last?_map {α β : Type} (f : α → β) (name : List Char) (entries : List (List Char × α)) :
    last? name (entries.map fun entry => (entry.1, f entry.2)) = (last? name entries).map f := by
  have same : ((fun entry : List Char × β => Text.sameIgnoringCase entry.1 name) ∘
      fun entry : List Char × α => (entry.1, f entry.2)) =
      fun entry => Text.sameIgnoringCase entry.1 name := rfl
  rw [last?, ← List.map_reverse, List.find?_map, same, last?, Option.map_map, Option.map_map]
  rfl

theorem last?_eq_none_iff {α : Type} {name : List Char} {entries : List (List Char × α)} :
    last? name entries = none ↔
      ∀ entry ∈ entries, ¬ Text.sameIgnoringCase entry.1 name = true := by
  rw [last?, Option.map_eq_none_iff, List.find?_eq_none]
  simp only [List.mem_reverse]

theorem mem_of_last? {α : Type} {name : List Char} {entries : List (List Char × α)} {value : α}
    (found : last? name entries = some value) :
    ∃ key, (key, value) ∈ entries ∧ Text.sameIgnoringCase key name = true := by
  obtain ⟨⟨key, _⟩, seen, rfl⟩ := Option.map_eq_some_iff.mp found
  have named := List.find?_some seen
  exact ⟨key, List.mem_reverse.mp (List.mem_of_find?_eq_some seen), named⟩

/-- Where no two names are the same, one entry for a name is its last. -/
theorem last?_of_mem {α : Type} {name key : List Char} {entries : List (List Char × α)}
    {value : α}
    (distinct : entries.Pairwise fun one other => ¬ Text.sameIgnoringCase one.1 other.1 = true)
    (member : (key, value) ∈ entries) (named : Text.sameIgnoringCase key name = true) :
    last? name entries = some value := by
  cases found : last? name entries with
  | none => exact absurd named (last?_eq_none_iff.mp found (key, value) member)
  | some other =>
      obtain ⟨otherKey, known, same⟩ := mem_of_last? found
      have symmetric : Std.Symm fun one other : List Char × α =>
          ¬ Text.sameIgnoringCase one.1 other.1 = true := by
        refine ⟨fun one other apart together => apart ?_⟩
        rw [Text.sameIgnoringCase_iff] at together ⊢
        exact together.symm
      by_contra differ
      have apart := distinct.forall member known fun equal => differ (by cases equal; rfl)
      rw [Text.sameIgnoringCase_iff] at apart named same
      exact apart (named.trans same.symm)

/-- The last of the lines that set a name, in any letter case, sets it to a value. -/
def SetsLast (lines : List (List Char)) (name value : List Char) : Prop :=
  ∃ earlier line later key, lines = earlier ++ line :: later ∧
    Sets line key value ∧ Text.sameIgnoringCase key name ∧
    ∀ other ∈ later, ∀ otherKey otherValue,
      Sets other otherKey otherValue → ¬ Text.sameIgnoringCase otherKey name

theorem last?_eq_some_iff {lines : List (List Char)} {name value : List Char} :
    last? name (lines.filterMap entry?) = some value ↔ SetsLast lines name value := by
  simp only [last?, ← List.filterMap_reverse, List.find?_filterMap, Option.map_eq_some_iff,
    Option.bind_eq_some_iff, find?_reverse_eq_some_iff]
  constructor
  · rintro ⟨⟨key, _⟩, ⟨line, ⟨earlier, later, whole, named, others⟩, read⟩, rfl⟩
    rw [read] at named
    refine ⟨earlier, line, later, key, whole, entry?_eq_some_iff.mp read, named, ?_⟩
    intro other member otherKey otherValue sets again
    have unset := others other member
    rw [entry?_eq_some_iff.mpr sets, Option.any_some, again] at unset
    cases unset
  · rintro ⟨earlier, line, later, key, rfl, sets, named, others⟩
    have read := entry?_eq_some_iff.mpr sets
    refine ⟨(key, value), ⟨line, ⟨earlier, later, rfl, ?_, ?_⟩, read⟩, rfl⟩
    · rw [read]
      exact named
    · intro other member
      cases found : entry? other with
      | none => rfl
      | some entry =>
          have unset := others other member entry.1 entry.2 (entry?_eq_some_iff.mp found)
          rw [Option.any_some, Bool.eq_false_iff]
          exact unset

end RouterGate.Settings
