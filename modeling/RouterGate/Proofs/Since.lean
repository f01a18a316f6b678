/-!
What has happened and still stands: of a list of what happened, in order, some item holds, and no
later one overrides it.
-/
namespace RouterGate

variable {α : Type} {holds overrides : α → Prop} {items : List α} {item : α}

/-- Some item holds and no later one overrides it. -/
def HoldsSince (holds overrides : α → Prop) (items : List α) : Prop :=
  ∃ before item after, items = before ++ item :: after ∧ holds item ∧
    ∀ later ∈ after, ¬overrides later

theorem not_holdsSince_nil : ¬HoldsSince holds overrides [] := by
  intro held
  obtain ⟨before, item, after, impossible, -⟩ := held
  cases before <;> cases impossible

/-- One item more either holds itself or does not override what held. -/
theorem holdsSince_concat_iff :
    HoldsSince holds overrides (items ++ [item]) ↔
      holds item ∨ (HoldsSince holds overrides items ∧ ¬overrides item) := by
  constructor
  · intro held
    obtain ⟨before, first, after, split, holding, others⟩ := held
    rcases List.eq_nil_or_concat after with rfl | ⟨between, last, rfl⟩
    · obtain ⟨-, same⟩ := List.append_inj' split rfl
      cases List.singleton_inj.mp same
      exact .inl holding
    · rw [List.concat_eq_append] at split others
      rw [← List.cons_append, ← List.append_assoc] at split
      obtain ⟨rfl, same⟩ := List.append_inj' split rfl
      cases List.singleton_inj.mp same
      refine .inr ⟨⟨before, first, between, rfl, holding, ?_⟩, ?_⟩
      · intro later member
        exact others later (List.mem_append_left _ member)
      · exact others item (List.mem_append_right _ List.mem_cons_self)
  · intro origin
    rcases origin with holding | ⟨⟨before, first, after, rfl, holding, others⟩, stays⟩
    · refine ⟨items, item, [], rfl, holding, ?_⟩
      intro later impossible
      cases impossible
    · refine ⟨before, first, after ++ [item], ?_, holding, ?_⟩
      · rw [List.append_assoc, List.cons_append]
      · intro later member
        rcases List.mem_append.mp member with earlier | last
        · exact others later earlier
        · rw [List.mem_singleton.mp last]
          exact stays

/-- What is found from the end is the last item of its kind. -/
theorem find?_reverse_eq_some_iff {kind : α → Bool} :
    items.reverse.find? kind = some item ↔
      ∃ before after, items = before ++ item :: after ∧ kind item = true ∧
        ∀ later ∈ after, kind later = false := by
  rw [List.find?_eq_some_iff_append]
  constructor
  · intro found
    obtain ⟨ofKind, after, before, split, others⟩ := found
    rw [List.reverse_eq_iff, List.reverse_append, List.reverse_cons, List.append_assoc] at split
    refine ⟨before.reverse, after.reverse, split, ofKind, ?_⟩
    intro later member
    have other := others later (List.mem_reverse.mp member)
    rw [Bool.not_eq_true'] at other
    exact other
  · intro last
    obtain ⟨before, after, rfl, ofKind, others⟩ := last
    refine ⟨ofKind, after.reverse, before.reverse, by simp, ?_⟩
    intro later member
    rw [others later (List.mem_reverse.mp member)]
    rfl

end RouterGate
