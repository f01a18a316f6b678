/-!
Letter case, for the parts of a text whose rules speak of ASCII letters only.
-/
namespace RouterGate.Text

def lower (s : String) : String :=
  String.ofList (s.toList.map Char.toLower)

def sameIgnoringCase (a b : List Char) : Bool :=
  a.map Char.toLower == b.map Char.toLower

@[simp] theorem toList_lower (s : String) :
    (lower s).toList = s.toList.map Char.toLower := by
  simp [lower]

theorem sameIgnoringCase_iff {a b : List Char} :
    sameIgnoringCase a b ↔ a.map Char.toLower = b.map Char.toLower := by
  simp [sameIgnoringCase]

/-- The longest suffix of `s` made of `c` is removed. -/
def dropTrailing (c : Char) (s : String) : String :=
  String.ofList (s.toList.reverse.dropWhile (· == c)).reverse

theorem exists_eq_dropTrailing (c : Char) (s : String) :
    ∃ count, s.toList = (dropTrailing c s).toList ++ List.replicate count c := by
  have whole := List.takeWhile_append_dropWhile (p := (· == c)) (l := s.toList.reverse)
  have dropped : s.toList.reverse.takeWhile (· == c) =
      List.replicate (s.toList.reverse.takeWhile (· == c)).length c := by
    apply List.eq_replicate_of_mem
    intro d member
    exact beq_iff_eq.mp (List.all_eq_true.mp List.all_takeWhile d member)
  refine ⟨(s.toList.reverse.takeWhile (· == c)).length, ?_⟩
  rw [dropTrailing, String.toList_ofList, ← List.reverse_replicate, ← dropped,
    ← List.reverse_append, whole, List.reverse_reverse]

theorem getLast?_dropTrailing (c : Char) (s : String) :
    (dropTrailing c s).toList.getLast? ≠ some c := by
  intro stays
  rw [dropTrailing, String.toList_ofList, List.getLast?_reverse] at stays
  have kept := List.head?_dropWhile_not (· == c) s.toList.reverse
  rw [stays] at kept
  simp at kept

def occursIn (part whole : List Char) : Bool :=
  part.isPrefixOf whole || match whole with
    | [] => false
    | _ :: rest => occursIn part rest

end RouterGate.Text
