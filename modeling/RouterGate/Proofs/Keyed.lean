/-!
Lists in which no two items have one key: what is found under a key is the item that has it.
-/
namespace RouterGate

theorem find?_eq_some_iff_of_distinct {α : Type} {key : α → String} {items : List α}
    (distinct : items.Pairwise fun first second => key first ≠ key second) {name : String}
    {item : α} :
    items.find? (fun other => key other == name) = some item ↔ item ∈ items ∧ key item = name := by
  induction items with
  | nil => simp
  | cons first rest induction =>
      obtain ⟨others, distinct⟩ := List.pairwise_cons.mp distinct
      by_cases named : key first = name
      · have hit : (key first == name) = true := beq_iff_eq.mpr named
        simp only [List.find?_cons, hit, Option.some.injEq, List.mem_cons]
        constructor
        · intro same
          subst same
          exact ⟨.inl rfl, named⟩
        · intro stored
          obtain ⟨rfl | later, same⟩ := stored
          · rfl
          · exact absurd (named.trans same.symm) (others item later)
      · have miss : (key first == name) = false := beq_eq_false_iff_ne.mpr named
        simp only [List.find?_cons, miss, induction distinct, List.mem_cons]
        constructor
        · intro stored
          obtain ⟨later, same⟩ := stored
          exact ⟨.inr later, same⟩
        · intro stored
          obtain ⟨rfl | later, same⟩ := stored
          · exact absurd same named
          · exact ⟨later, same⟩

end RouterGate
