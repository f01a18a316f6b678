import RouterGate.Text.Blank
import RouterGate.Text.Cut
/-!
Texts that were put together and are cut again: at separators, into lines, and from the blanks
around them.
-/
namespace RouterGate.Text

variable {separator c : Char} {first rest s : List Char}

theorem fields_append_separator (separator : Char) (first rest : List Char) :
    fields separator (first ++ separator :: rest) =
      fields separator first ++ fields separator rest := by
  induction first with
  | nil => simp only [List.nil_append, fields, if_true, List.singleton_append]
  | cons c later induction =>
      rw [List.cons_append, fields, fields, induction]
      by_cases isSeparator : c = separator
      · rw [if_pos isSeparator, if_pos isSeparator, List.cons_append]
      · rw [if_neg isSeparator, if_neg isSeparator]
        cases cut : fields separator later with
        | nil => exact absurd cut (fields_ne_nil separator later)
        | cons part others => rfl

theorem fields_of_absent (absent : separator ∉ first) : fields separator first = [first] := by
  induction first with
  | nil => rfl
  | cons c rest induction =>
      rw [List.mem_cons, not_or] at absent
      rw [fields, if_neg (Ne.symm absent.1), induction absent.2]

theorem fields_append (absent : separator ∉ first) :
    fields separator (first ++ separator :: rest) = first :: fields separator rest := by
  rw [fields_append_separator, fields_of_absent absent, List.singleton_append]

theorem fields_eq_splitOn (separator : Char) (s : List Char) :
    fields separator s = s.splitOn separator := by
  induction s with
  | nil => rw [fields, List.splitOn_nil]
  | cons c rest induction =>
      rw [fields, List.splitOn, List.splitOnP_cons_eq_if_modifyHead, ← List.splitOn, ← induction]
      by_cases isSeparator : c = separator
      · rw [if_pos isSeparator, if_pos (beq_iff_eq.mpr isSeparator)]
      · rw [if_neg isSeparator, if_neg (isSeparator ∘ beq_iff_eq.mp)]
        cases cut : fields separator rest with
        | nil => exact absurd cut (fields_ne_nil separator rest)
        | cons part others => rfl

theorem not_mem_of_mem_fields {part : List Char} (found : part ∈ fields separator s) :
    separator ∉ part := by
  induction s generalizing part with
  | nil =>
      rw [List.mem_singleton.mp found]
      exact List.not_mem_nil
  | cons c rest induction =>
      rw [fields] at found
      split at found
      next isSeparator =>
        rcases List.mem_cons.mp found with rfl | later
        · exact List.not_mem_nil
        · exact induction later
      next notSeparator =>
        split at found
        next none => exact absurd none (fields_ne_nil separator rest)
        next first others cut =>
          rw [cut] at induction
          rcases List.mem_cons.mp found with rfl | later
          · rw [List.mem_cons, not_or]
            exact ⟨Ne.symm notSeparator, induction List.mem_cons_self⟩
          · exact induction (List.mem_cons_of_mem _ later)

/-- The first field ends at the first separator, if there is one. -/
theorem headD_fields_iff {part : List Char} :
    (fields separator s).headD [] = part ↔
      separator ∉ part ∧ (s = part ∨ ∃ rest, s = part ++ separator :: rest) := by
  have cut {part : List Char} (absent : separator ∉ part)
      (leads : s = part ∨ ∃ rest, s = part ++ separator :: rest) :
      (fields separator s).headD [] = part := by
    rcases leads with rfl | ⟨rest, rfl⟩
    · rw [fields_of_absent absent, List.headD_cons]
    · rw [fields_append absent, List.headD_cons]
  refine ⟨?_, fun found => cut found.1 found.2⟩
  intro isFirst
  subst isFirst
  by_cases present : separator ∈ s
  · obtain ⟨part, rest, whole, absent⟩ := List.eq_append_cons_of_mem present
    have leads : s = part ∨ ∃ rest, s = part ++ separator :: rest := .inr ⟨rest, whole⟩
    rw [cut absent leads]
    exact ⟨absent, leads⟩
  · rw [cut present (.inl rfl)]
    exact ⟨present, .inl rfl⟩

theorem cut?_eq_none_of_absent (absent : separator ∉ s) : cut? separator s = none := by
  cases cut : cut? separator s with
  | none => rfl
  | some parts =>
      obtain ⟨before, after⟩ := parts
      obtain ⟨rfl, -⟩ := cut?_eq_some_iff.mp cut
      exact absurd (List.mem_append_right _ List.mem_cons_self) absent

theorem absent_of_cut?_eq_none (uncut : cut? separator s = none) : separator ∉ s := by
  induction s with
  | nil => exact List.not_mem_nil
  | cons c rest induction =>
      rw [cut?] at uncut
      split at uncut
      next => cases uncut
      next notSeparator =>
        rw [List.mem_cons, not_or]
        exact ⟨Ne.symm notSeparator, induction (Option.map_eq_none_iff.mp uncut)⟩

section Lines

theorem dropReturn_prefix (s : List Char) : dropReturn s <+: s := by
  unfold dropReturn
  split
  · exact List.dropLast_prefix s
  · exact List.prefix_refl s

theorem dropReturn_return (s : List Char) : dropReturn (s ++ ['\r']) = s := by
  simp [dropReturn]

theorem dropReturn_concat (other : c ≠ '\r') : dropReturn (s ++ [c]) = s ++ [c] := by
  simp [dropReturn, other]

theorem linesOfParts_append {others : List (List Char)} (filled : others ≠ [])
    (parts : List (List Char)) :
    linesOfParts (parts ++ others) = parts.map dropReturn ++ linesOfParts others := by
  induction parts with
  | nil => rfl
  | cons part later induction =>
      have more : later ++ others ≠ [] := List.append_ne_nil_of_right_ne_nil _ filled
      rw [List.cons_append, linesOfParts, induction, List.map_cons, List.cons_append]
      intro alone
      exact more alone

theorem lines_append_newline (first rest : List Char) :
    lines (first ++ '\n' :: rest) = (fields '\n' first).map dropReturn ++ lines rest := by
  rw [lines, fields_append_separator, linesOfParts_append (fields_ne_nil '\n' rest)]
  rfl

/-- A text that ends with its last line is a text of its own. -/
theorem lines_append (ended : first = [] ∨ first.getLast? = some '\n') :
    lines (first ++ rest) = lines first ++ lines rest := by
  rcases ended with rfl | ended
  · rfl
  · obtain ⟨whole, rfl⟩ := List.getLast?_eq_some_iff.mp ended
    have alone := lines_append_newline whole []
    rw [List.append_assoc, List.singleton_append, lines_append_newline, alone,
      List.append_assoc]
    rfl

theorem lines_line (single : '\n' ∉ s) : lines (s ++ ['\n']) = [dropReturn s] := by
  rw [lines_append_newline, fields_of_absent single]
  rfl

theorem mem_lines_of_unended (single : '\n' ∉ s) {line : List Char} (member : line ∈ lines s) :
    line = s := by
  rw [lines, fields_of_absent single, linesOfParts] at member
  split at member
  · cases member
  · exact List.mem_singleton.mp member

end Lines

section Blanks

theorem trim_cons_of_isBlank {c : Char} (blank : isBlank c = true) (s : List Char) :
    trim (c :: s) = trim s := by
  rw [trim, trimStart, List.dropWhile_cons_of_pos blank]
  rfl

theorem fields_trim_cons_of_isBlank {c : Char} (blank : isBlank c = true)
    (notMark : c ≠ separator) (text : List Char) :
    (fields separator (c :: text)).map trim = (fields separator text).map trim := by
  rw [fields, if_neg notMark]
  cases cut : fields separator text with
  | nil => exact absurd cut (fields_ne_nil separator text)
  | cons first others => rw [List.map_cons, List.map_cons, trim_cons_of_isBlank blank]

def IsBlankText (s : List Char) : Prop :=
  ∀ c ∈ s, isBlank c = true

theorem trim_blanks_append {blanks : List Char} (blank : IsBlankText blanks) (s : List Char) :
    trim (blanks ++ s) = trim s := by
  rw [trim, trimStart, List.dropWhile_append_of_pos blank]
  rfl

theorem trimEnd_append_blanks {blanks : List Char} (blank : IsBlankText blanks) (s : List Char) :
    trimEnd (s ++ blanks) = trimEnd s := by
  have reversed : ∀ c ∈ blanks.reverse, isBlank c = true :=
    fun c member => blank c (List.mem_reverse.mp member)
  rw [trimEnd, List.reverse_append, List.dropWhile_append_of_pos reversed]
  rfl

theorem trim_append_blanks {blanks : List Char} (blank : IsBlankText blanks) (s : List Char) :
    trim (s ++ blanks) = trim s := by
  rw [trim, trim, trimStart, List.dropWhile_append]
  split
  next none =>
    rw [List.isEmpty_iff] at none
    have gone : (blanks ++ []).dropWhile isBlank = [] := List.dropWhile_append_of_pos blank
    rw [List.append_nil] at gone
    rw [gone, trimStart, none]
  next => exact trimEnd_append_blanks blank _

theorem trim_between {before after : List Char} (blank : IsBlankText before)
    (blank' : IsBlankText after) (s : List Char) : trim (before ++ s ++ after) = trim s := by
  rw [trim_append_blanks blank', trim_blanks_append blank]

theorem trim_trimStart (s : List Char) : trim (trimStart s) = trim s := by
  have whole : s.takeWhile isBlank ++ trimStart s = s := List.takeWhile_append_dropWhile
  have blank : IsBlankText (s.takeWhile isBlank) := List.all_eq_true.mp List.all_takeWhile
  calc
    trim (trimStart s) = trim (s.takeWhile isBlank ++ trimStart s) :=
      (trim_blanks_append blank _).symm
    _ = trim s := by rw [whole]

theorem trim_trimEnd (s : List Char) : trim (trimEnd s) = trim s := by
  have whole : trimEnd s ++ (s.reverse.takeWhile isBlank).reverse = s := by
    rw [trimEnd, ← List.reverse_append, List.takeWhile_append_dropWhile, List.reverse_reverse]
  have blank : IsBlankText (s.reverse.takeWhile isBlank).reverse := by
    intro c member
    exact List.all_eq_true.mp List.all_takeWhile c (List.mem_reverse.mp member)
  calc
    trim (trimEnd s) = trim (trimEnd s ++ (s.reverse.takeWhile isBlank).reverse) :=
      (trim_append_blanks blank _).symm
    _ = trim s := by rw [whole]

theorem trim_trim (s : List Char) : trim (trim s) = trim s := by
  calc
    trim (trim s) = trim (trimStart s) := trim_trimEnd (trimStart s)
    _ = trim s := trim_trimStart s

theorem isBlankText_of_dropWhile {s : List Char} (blank : IsBlankText (s.dropWhile isBlank)) :
    IsBlankText s := by
  rw [← List.takeWhile_append_dropWhile (p := isBlank) (l := s)]
  intro c member
  rcases List.mem_append.mp member with leading | further
  · exact List.all_eq_true.mp List.all_takeWhile c leading
  · exact blank c further

theorem isBlankText_of_trim_eq_nil {s : List Char} (gone : trim s = []) : IsBlankText s := by
  have reversed : IsBlankText (trimStart s).reverse := by
    apply isBlankText_of_dropWhile
    rw [List.reverse_eq_nil_iff.mp gone]
    exact fun c impossible => nomatch impossible
  apply isBlankText_of_dropWhile
  exact fun c member => reversed c (List.mem_reverse.mpr member)

/-- A text is trimmed on each side of a mark in it. -/
theorem trim_append_mark (shown : isBlank c = false) (before after : List Char) :
    trim (before ++ c :: after) = trimStart before ++ c :: trimEnd after := by
  have fromStart : trimStart (before ++ c :: after) = trimStart before ++ c :: after := by
    rw [trimStart, List.dropWhile_append]
    split
    next none =>
      rw [List.isEmpty_iff] at none
      rw [trimStart, none, List.dropWhile_cons_of_neg (by rw [shown]; exact Bool.false_ne_true)]
      rfl
    next => rfl
  have fromEnd (first : List Char) : trimEnd (first ++ c :: after) = first ++ c :: trimEnd after := by
    rw [trimEnd, List.reverse_append, List.reverse_cons, List.append_assoc, List.dropWhile_append]
    split
    next none =>
      rw [List.isEmpty_iff] at none
      rw [trimEnd, none, List.singleton_append,
        List.dropWhile_cons_of_neg (by rw [shown]; exact Bool.false_ne_true)]
      simp
    next => simp [trimEnd]
  rw [trim, fromStart, fromEnd]

theorem trim_of_no_blanks {s : List Char} (plain : ∀ c ∈ s, isBlank c = false) : trim s = s := by
  have kept {text : List Char} (plain : ∀ c ∈ text, isBlank c = false) :
      text.dropWhile isBlank = text := by
    cases text with
    | nil => rfl
    | cons c rest =>
        apply List.dropWhile_cons_of_neg
        rw [plain c List.mem_cons_self]
        exact Bool.false_ne_true
  rw [trim, trimStart, kept plain, trimEnd, kept, List.reverse_reverse]
  intro c member
  exact plain c (List.mem_reverse.mp member)

end Blanks

end RouterGate.Text
