/-!
Texts cut at a separator: once, everywhere, or into lines.
-/
namespace RouterGate.Text

def cut? (separator : Char) : List Char → Option (List Char × List Char)
  | [] => none
  | c :: rest =>
      if c = separator then some ([], rest)
      else (cut? separator rest).map fun parts => (c :: parts.1, parts.2)

def fields (separator : Char) : List Char → List (List Char)
  | [] => [[]]
  | c :: rest =>
      if c = separator then [] :: fields separator rest
      else match fields separator rest with
        | [] => [[c]]
        | first :: others => (c :: first) :: others

theorem cut?_eq_some_iff {separator : Char} {s before after : List Char} :
    cut? separator s = some (before, after) ↔
      s = before ++ separator :: after ∧ separator ∉ before := by
  induction s generalizing before with
  | nil => simp [cut?]
  | cons c rest induction =>
      by_cases isSeparator : c = separator
      · subst isSeparator
        simp only [cut?, if_true, Option.some.injEq, Prod.mk.injEq]
        constructor
        · intro same
          obtain ⟨rfl, rfl⟩ := same
          simp
        · intro split
          obtain ⟨whole, absent⟩ := split
          cases before with
          | nil => simp_all
          | cons head tail => simp_all
      · simp only [cut?, isSeparator, if_false, Option.map_eq_some_iff, Prod.exists,
          Prod.mk.injEq]
        constructor
        · intro cut
          obtain ⟨first, second, found, rfl, rfl⟩ := cut
          obtain ⟨whole, absent⟩ := induction.mp found
          exact ⟨by simp [whole], by simp [absent, Ne.symm isSeparator]⟩
        · intro split
          obtain ⟨whole, absent⟩ := split
          cases before with
          | nil => simp_all
          | cons head tail =>
              simp only [List.cons_append, List.cons.injEq] at whole
              simp only [List.mem_cons, not_or] at absent
              exact ⟨tail, after, induction.mpr ⟨whole.2, absent.2⟩, by rw [whole.1], rfl⟩

theorem fields_ne_nil (separator : Char) (s : List Char) : fields separator s ≠ [] := by
  cases s with
  | nil => simp [fields]
  | cons c rest =>
      simp only [fields]
      split
      · simp
      · split <;> simp

theorem mem_of_mem_fields {separator c : Char} {s part : List Char}
    (found : part ∈ fields separator s) (member : c ∈ part) : c ∈ s := by
  induction s generalizing part with
  | nil =>
      rw [fields, List.mem_singleton] at found
      subst found
      exact member
  | cons head rest induction =>
      rw [fields] at found
      split at found
      · rcases List.mem_cons.mp found with rfl | later
        · cases member
        · exact List.mem_cons_of_mem _ (induction later member)
      · split at found
        next none => exact absurd none (fields_ne_nil separator rest)
        next first others cut =>
          rw [cut] at induction
          rcases List.mem_cons.mp found with rfl | later
          · rcases List.mem_cons.mp member with rfl | inner
            · exact List.mem_cons_self
            · exact List.mem_cons_of_mem _ (induction List.mem_cons_self inner)
          · exact List.mem_cons_of_mem _ (induction (List.mem_cons_of_mem _ later) member)

def dropReturn (s : List Char) : List Char :=
  if s.getLast? = some '\r' then s.dropLast else s

/-- A part that a line feed ends loses one carriage return; an empty last part is no line. -/
def linesOfParts : List (List Char) → List (List Char)
  | [] => []
  | [last] => if last = [] then [] else [last]
  | part :: others => dropReturn part :: linesOfParts others

def lines (s : List Char) : List (List Char) :=
  linesOfParts (fields '\n' s)

end RouterGate.Text
