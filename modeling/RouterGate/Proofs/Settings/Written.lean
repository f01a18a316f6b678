import RouterGate.Proofs.Settings.Lines
import RouterGate.Proofs.Text.Cutting
/-!
The file of settings as something that is written. Every pair of a name and a value can be written
on a line of its own, with any other lines in between, and is read again as it is; and a file that
is put together from two is read as the first one with the second one on top.
-/
namespace RouterGate.Settings

theorem Assignments.value?_eq_some_iff {all : Assignments} {key value : String} :
    all.value? key = some value ↔
      ∃ before after, all = before ++ (key, value) :: after ∧ ∀ later ∈ after, later.1 ≠ key := by
  simp only [value?, Option.map_eq_some_iff, find?_reverse_eq_some_iff, beq_iff_eq,
    beq_eq_false_iff_ne]
  constructor
  · intro found
    obtain ⟨⟨name, _⟩, ⟨before, after, split, rfl, others⟩, rfl⟩ := found
    exact ⟨before, after, split, others⟩
  · intro last
    obtain ⟨before, after, split, others⟩ := last
    exact ⟨(key, value), ⟨before, after, split, rfl, others⟩, rfl⟩

/-- What a text assigns is what its lines assign, one after the other. -/
theorem assignments_append {earlier : List Char}
    (ended : earlier = [] ∨ earlier.getLast? = some '\n') (later : List Char) :
    assignments (earlier ++ later) = assignments earlier ++ assignments later := by
  rw [assignments, Text.lines_append ended, List.filterMap_append, List.map_append]
  rfl

/-- A pair that can be written on a line: the name is not blank, has no equals sign and does not
look like a comment. The value may be anything on one line. -/
structure Pair where
  key : String
  value : String
  isNamed : Text.trim key.toList ≠ []
  isUnsplit : '=' ∉ key.toList
  isTold : key.toList.head? ≠ some '#'
  isOneLine : '\n' ∉ key.toList ++ value.toList

def Pair.name (pair : Pair) : String :=
  Text.lower (String.ofList (Text.trim pair.key.toList))

/-- What the pair assigns. -/
def Pair.entry (pair : Pair) : String × String :=
  (pair.name, pair.value)

/-- A line that sets nothing: an empty one, a comment, or one without an equals sign. -/
structure Remark where
  text : List Char
  isSilent : text = [] ∨ text.head? = some '#' ∨ '=' ∉ text
  isOneLine : '\n' ∉ text

inductive FileLine where
  | pair (written : Pair)
  | remark (silent : Remark)

inductive LineEnd where
  | feed
  | returnFeed

def LineEnd.text : LineEnd → List Char
  | .feed => ['\n']
  | .returnFeed => ['\r', '\n']

def FileLine.text : FileLine → List Char
  | .pair written => written.key.toList ++ '=' :: '"' :: (written.value.toList ++ ['"'])
  | .remark silent => silent.text

def FileLine.pair? : FileLine → Option Pair
  | .pair written => some written
  | .remark _ => none

/-- Lines with their ends, and a remark after them that no line feed ends. -/
def fileText (lines : List (FileLine × LineEnd)) (tail : Remark) : List Char :=
  lines.flatMap (fun line => line.1.text ++ line.2.text) ++ tail.text

def pairsOf (lines : List (FileLine × LineEnd)) : List Pair :=
  lines.filterMap fun line => line.1.pair?

theorem Remark.entry?_eq_none (silent : Remark) {line : List Char}
    (part : line <+: silent.text) : entry? line = none := by
  obtain ⟨rest, whole⟩ := (Text.dropReturn_prefix line).trans part
  have commented : silent.text.head? = some '#' ∨ '=' ∉ silent.text := by
    rcases silent.isSilent with empty | others
    · rw [empty]
      exact .inr List.not_mem_nil
    · exact others
  unfold entry?
  generalize Text.dropReturn line = shown at whole
  rw [← whole] at commented
  cases shown with
  | nil => rfl
  | cons c later =>
      rcases commented with comment | absent
      · exact if_pos comment
      · have cut : Text.cut? '=' (c :: later) = none := by
          apply Text.cut?_eq_none_of_absent
          intro member
          exact absent (List.mem_append_left rest member)
        simp only [cut, ite_self]

namespace FileLine

theorem isOneLine (line : FileLine) : '\n' ∉ line.text := by
  cases line with
  | pair written =>
      have single := written.isOneLine
      simp only [List.mem_append, not_or] at single
      simp [text, single]
  | remark silent => exact silent.isOneLine

/-- The quote at the end of a pair keeps whatever the value ends with. -/
theorem dropReturn_pair (written : Pair) :
    Text.dropReturn (pair written).text = (pair written).text := by
  have closed : (pair written).text =
      (written.key.toList ++ '=' :: '"' :: written.value.toList) ++ ['"'] := by
    simp [text]
  rw [closed]
  exact Text.dropReturn_concat (by decide)

theorem entry?_pair (written : Pair) :
    entry? (pair written).text =
      some (Text.trim written.key.toList, written.value.toList) := by
  rw [entry?_of_spelt (dropReturn_pair written) written.isUnsplit written.isTold written.isNamed,
    unquote_quoted]

/-- Whichever way a line ends, it is read as what it sets. -/
theorem filterMap_lines (line : FileLine) (ending : LineEnd) :
    (Text.lines (line.text ++ ending.text)).filterMap entry? =
      line.pair?.toList.map fun pair => (Text.trim pair.key.toList, pair.value.toList) := by
  have read : ∀ kept, kept = line.text ∨ kept = Text.dropReturn line.text →
      [kept].filterMap entry? =
        line.pair?.toList.map fun pair => (Text.trim pair.key.toList, pair.value.toList) := by
    intro kept origin
    cases line with
    | pair written =>
        rw [dropReturn_pair, or_self] at origin
        rw [origin, List.filterMap_cons_some (entry?_pair written)]
        rfl
    | remark silent =>
        have part : kept <+: silent.text := by
          rcases origin with rfl | rfl
          · exact List.prefix_refl _
          · exact Text.dropReturn_prefix _
        rw [List.filterMap_cons_none (silent.entry?_eq_none part)]
        rfl
  cases ending with
  | feed =>
      rw [LineEnd.text, Text.lines_line line.isOneLine]
      exact read _ (.inr rfl)
  | returnFeed =>
      have single : '\n' ∉ line.text ++ ['\r'] := by
        simp [line.isOneLine]
      have split : line.text ++ LineEnd.returnFeed.text = (line.text ++ ['\r']) ++ ['\n'] := by
        simp [LineEnd.text]
      rw [split, Text.lines_line single, Text.dropReturn_return]
      exact read _ (.inl rfl)

end FileLine

theorem getLast?_line (line : FileLine) (ending : LineEnd) :
    (line.text ++ ending.text).getLast? = some '\n' := by
  cases ending <;> simp [LineEnd.text]

/-- A file that was written assigns its pairs, in their order. -/
theorem assignments_fileText (lines : List (FileLine × LineEnd)) (tail : Remark) :
    assignments (fileText lines tail) =
      (pairsOf lines).map Pair.entry := by
  induction lines with
  | nil =>
      have silent : (Text.lines tail.text).filterMap entry? = [] := by
        apply List.filterMap_eq_nil_iff.mpr
        intro line member
        rw [Text.mem_lines_of_unended tail.isOneLine member]
        exact tail.entry?_eq_none (List.prefix_refl _)
      show ((Text.lines tail.text).filterMap entry?).map _ = _
      rw [silent]
      rfl
  | cons first rest induction =>
      obtain ⟨line, ending⟩ := first
      have split : fileText ((line, ending) :: rest) tail =
          (line.text ++ ending.text) ++ fileText rest tail := by
        simp [fileText]
      rw [split, assignments_append (.inr (getLast?_line line ending)), induction, assignments,
        FileLine.filterMap_lines]
      cases line with
      | pair written => simp [FileLine.pair?, pairsOf, Pair.entry, Pair.name]
      | remark silent => simp [FileLine.pair?, pairsOf]

/-- A file of settings loses nothing. The assignments of a text that ends with its last line are
overridden, name by name, by those of the text after it; and pairs that are written, each on a
line of its own, give each name the value that was written last under it. -/
theorem written_values :
    (∀ earlier later : List Char, earlier = [] ∨ earlier.getLast? = some '\n' →
      ∀ name, (assignments (earlier ++ later)).value? name =
        ((assignments later).value? name).or ((assignments earlier).value? name)) ∧
      ∀ (lines : List (FileLine × LineEnd)) (tail : Remark) (name value : String),
        (assignments (fileText lines tail)).value? name = some value ↔
          ∃ before pair after, pairsOf lines = before ++ pair :: after ∧ pair.name = name ∧
            pair.value = value ∧ ∀ later ∈ after, later.name ≠ name := by
  constructor
  · intro earlier later ended name
    rw [assignments_append ended, Assignments.value?_append]
  · intro lines tail name value
    rw [assignments_fileText, Assignments.value?_eq_some_iff]
    constructor
    · intro last
      obtain ⟨before, after, split, others⟩ := last
      obtain ⟨first, later, whole, rfl, shown⟩ := List.map_eq_append_iff.mp split
      obtain ⟨pair, rest, rfl, same, rfl⟩ := List.map_eq_cons_iff.mp shown
      obtain ⟨named, given⟩ := Prod.mk.inj same
      refine ⟨first, pair, rest, whole, named, given, ?_⟩
      intro later member
      exact others later.entry (List.mem_map_of_mem member)
    · intro last
      obtain ⟨before, pair, after, whole, rfl, rfl, others⟩ := last
      refine ⟨before.map Pair.entry, after.map Pair.entry, ?_, ?_⟩
      · rw [whole, List.map_append, List.map_cons]
        rfl
      · intro later member
        obtain ⟨other, inside, rfl⟩ := List.mem_map.mp member
        exact others other inside

/-- A value may be a lone quote with a return after it, in a file that is put on top of another. -/
theorem written_values_lone_quote :
    let pair : Pair := ⟨"PASSWORD", "\"\r", by decide, by decide, by decide, by decide⟩
    let earlier := "password=old\n".toList
    let later := fileText [(.pair pair, .returnFeed)] ⟨['#'], .inr (.inl rfl), by decide⟩
    earlier.getLast? = some '\n' ∧
      (assignments (earlier ++ later)).value? "password" = some "\"\r" := by
  intro pair earlier later
  have ended : earlier.getLast? = some '\n' := by decide
  have given : (assignments later).value? "password" = some "\"\r" := by
    apply (written_values.2 _ _ _ _).mpr
    exact ⟨[], pair, [], rfl, by decide, rfl, fun _ impossible => nomatch impossible⟩
  refine ⟨ended, ?_⟩
  rw [written_values.1 earlier later (.inr ended), given]
  rfl

end RouterGate.Settings
