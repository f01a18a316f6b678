import RouterGate.Text.Ascii
/-!
Where one text occurs in another. What lacks the character between two texts occurs in one of
them.
-/
namespace RouterGate.Text

variable {part whole first second : List Char} {c : Char}

theorem occursIn_iff : occursIn part whole = true ↔ part <:+: whole := by
  induction whole with
  | nil => simp [occursIn]
  | cons head rest induction =>
      rw [occursIn, Bool.or_eq_true, List.isPrefixOf_iff_prefix, List.infix_cons_iff, induction]

theorem infix_append_cons_iff (absent : c ∉ part) :
    part <:+: first ++ c :: second ↔ part <:+: first ∨ part <:+: second := by
  constructor
  · intro occurs
    obtain ⟨before, after, split⟩ := occurs
    rw [List.append_assoc] at split
    rcases List.append_eq_append_iff.mp split with ⟨rest, rfl, later⟩ | ⟨rest, rfl, later⟩
    -- It starts before the character, and so has to end there as well.
    · rcases List.append_eq_append_iff.mp later with ⟨after', rfl, -⟩ | ⟨beyond, rfl, tail⟩
      · exact .inl ⟨before, after', List.append_assoc _ _ _⟩
      · cases beyond with
        | nil => exact .inl ⟨before, [], by simp⟩
        | cons head others =>
            cases tail
            exact absurd (List.mem_append_right _ List.mem_cons_self) absent
    · cases rest with
      | nil =>
          cases part with
          | nil => exact .inr (List.nil_infix)
          | cons head others =>
              cases later
              exact absurd List.mem_cons_self absent
      | cons head others =>
          cases later
          exact .inr ⟨others, after, List.append_assoc _ _ _⟩
  · intro occurs
    rcases occurs with early | late
    · exact early.trans (List.prefix_append _ _).isInfix
    · exact late.trans ((List.suffix_cons c second).trans (List.suffix_append first _)).isInfix

theorem not_infix_of_absent (present : c ∈ part) (absent : c ∉ whole) : ¬part <:+: whole :=
  fun occurs => absent (occurs.subset present)

end RouterGate.Text
