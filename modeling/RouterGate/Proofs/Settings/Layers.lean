import Mathlib
import RouterGate.Proofs.Settings.Lines
import RouterGate.Settings.Layer
/-!
Layers of plain names. Such names make no tree, so each layer keeps the last text of every name,
and the variables of the environment lie above the file.
-/
namespace RouterGate

namespace Text

theorem lower_ofList (name : List Char) :
    lower (String.ofList name) = String.ofList (name.map Char.toLower) := by
  rw [lower, String.toList_ofList]

@[simp] theorem lower_lower (s : String) : lower (lower s) = lower s := by
  have again : Char.toLower ∘ Char.toLower = Char.toLower := by
    funext c
    exact Char.toLower_toLower_eq_toLower c
  rw [lower, toList_lower, List.map_map, again]
  rfl

end Text

namespace Settings

/-- A key that is a plain name: letters and digits of ASCII, spaces, low lines and hyphens. -/
def IsPlain (key : List Char) : Prop :=
  key ≠ [] ∧ (key.all fun c => c.isAlphanum || c == ' ' || c == '_' || c == '-') = true

instance (key : List Char) : Decidable (IsPlain key) :=
  inferInstanceAs (Decidable (_ ∧ _))

theorem IsPlain.isNameChar {key : List Char} (plain : IsPlain key) :
    ∀ c ∈ key, Key.isNameChar c = true :=
  List.all_eq_true.mp plain.2

theorem parse_plain {key : List Char} (plain : IsPlain key) : Key.parse key = .ok ⟨key, []⟩ := by
  have whole : key.span Key.isNameChar = (key, []) := by
    rw [List.span_eq_takeWhile_dropWhile, List.takeWhile_eq_self_iff.mpr plain.isNameChar,
      List.dropWhile_eq_nil_iff.mpr plain.isNameChar]
  unfold Key.parse
  rw [whole]
  cases key with
  | nil => exact absurd rfl plain.1
  | cons c rest => rfl

theorem isNameChar_toLower {c : Char} (named : Key.isNameChar c = true) :
    Key.isNameChar c.toLower = true := by
  by_cases capital : c.isUpper = true
  · have letter : c.toLower.isAlpha = true := by
      rw [Char.isAlpha_toLower_eq_isAlpha, Char.isAlpha, capital, Bool.true_or]
    simp [Key.isNameChar, Char.isAlphanum, letter]
  · rwa [Char.toLower_eq_of_not_isUpper capital]

theorem IsPlain.toLower {key : List Char} (plain : IsPlain key) :
    IsPlain (key.map Char.toLower) := by
  refine ⟨fun none => plain.1 (List.map_eq_nil_iff.mp none), ?_⟩
  rw [List.all_eq_true]
  intro c member
  obtain ⟨d, inner, rfl⟩ := List.mem_map.mp member
  exact isNameChar_toLower (plain.isNameChar d inner)

/-- A name as it is looked up: plain and in small letters. -/
def IsFolded (name : String) : Prop :=
  IsPlain name.toList ∧ Text.lower name = name

theorem IsPlain.isFolded {key : List Char} (plain : IsPlain key) :
    IsFolded (Text.lower (String.ofList key)) := by
  refine ⟨?_, Text.lower_lower _⟩
  rw [Text.toList_lower, String.toList_ofList]
  exact plain.toLower

namespace Assignments

def put (all : Assignments) (name value : String) : Assignments :=
  if all.any (·.1 == name) then
    all.map fun entry => if entry.1 == name then (name, value) else entry
  else all ++ [(name, value)]

/-- What was found, and then what `all` says of the same names and of others. -/
def collect (found all : Assignments) : Assignments :=
  all.foldl (fun found entry => found.put entry.1 entry.2) found

/-- One entry for each name, its last. -/
def latest (all : Assignments) : Assignments :=
  collect [] all

theorem collect_cons (found rest : Assignments) (entry : String × String) :
    collect found (entry :: rest) = collect (found.put entry.1 entry.2) rest := rfl

theorem value?_singleton (key name value : String) :
    value? key [(name, value)] = if name = key then some value else none := by
  by_cases same : name = key <;> simp [value?, same]

theorem value?_put (all : Assignments) (key name value : String) :
    (all.put name value).value? key = if name = key then some value else all.value? key := by
  unfold put
  split
  next known =>
    -- The entries keep their names, so the same entry is found before and after.
    have kept : ((·.1 == key) ∘ fun entry : String × String =>
        if entry.1 == name then (name, value) else entry) = (·.1 == key) := by
      funext entry
      simp only [Function.comp_apply]
      split
      next same => rw [beq_iff_eq.mp same]
      next => rfl
    rw [value?, ← List.map_reverse, List.find?_map, kept, value?]
    cases found : all.reverse.find? (·.1 == key) with
    | none =>
        have absent := List.find?_eq_none.mp found
        rw [if_neg]
        · rfl
        · rintro rfl
          obtain ⟨entry, member, same⟩ := List.any_eq_true.mp known
          exact absent entry (List.mem_reverse.mpr member) same
    | some entry =>
        have named : entry.1 = key := by simpa using List.find?_some found
        subst named
        by_cases same : name = entry.1
        · simp [same]
        · simp [same, Ne.symm same]
  next =>
    rw [value?_append, value?_singleton]
    split <;> rfl

theorem mem_put {all : Assignments} {name value : String} {entry : String × String}
    (member : entry ∈ all.put name value) : entry = (name, value) ∨ entry ∈ all := by
  unfold put at member
  split at member
  · obtain ⟨old, known, rfl⟩ := List.mem_map.mp member
    split
    · exact .inl rfl
    · exact .inr known
  · rcases List.mem_append.mp member with known | added
    · exact .inr known
    · exact .inl (List.mem_singleton.mp added)

theorem value?_collect (found all : Assignments) (key : String) :
    (collect found all).value? key = (all.value? key).or (found.value? key) := by
  induction all generalizing found with
  | nil => rfl
  | cons entry rest induction =>
      have split : value? key (entry :: rest) =
          (value? key rest).or (value? key [entry]) := value?_append key [entry] rest
      rw [collect_cons, induction, value?_put, split, value?_singleton, Option.or_assoc]
      congr 1
      split <;> rfl

theorem value?_latest (all : Assignments) (key : String) :
    all.latest.value? key = all.value? key := by
  rw [latest, value?_collect]
  exact Option.or_none

theorem mem_collect {found all : Assignments} {entry : String × String}
    (member : entry ∈ collect found all) : entry ∈ found ∨ entry ∈ all := by
  induction all generalizing found with
  | nil => exact .inl member
  | cons first rest induction =>
      rcases induction member with early | later
      · rcases mem_put early with rfl | known
        · exact .inr List.mem_cons_self
        · exact .inl known
      · exact .inr (List.mem_cons_of_mem _ later)

theorem mem_of_mem_latest {all : Assignments} {entry : String × String}
    (member : entry ∈ all.latest) : entry ∈ all := by
  rcases mem_collect member with early | later
  · cases early
  · exact later

/-- The entry as a slot that holds its text. -/
def held (entry : String × String) : String × Slot :=
  (entry.1, .text entry.2)

theorem put_held (all : Assignments) (name value : String) :
    Slots.put (all.map held) name (.text value) = (all.put name value).map held := by
  have names : (all.map held).any (·.1 == name) = all.any (·.1 == name) := by
    rw [List.any_map]
    rfl
  rw [Slots.put, names, put]
  split
  · simp only [List.map_map]
    congr 1
    funext entry
    by_cases same : entry.1 = name
    · simp [held, same]
    · simp [held, same]
  · rw [List.map_append]
    rfl

end Assignments

theorem slotOf_plain {key value : String} (plain : IsPlain key.toList) :
    slotOf key value = (key, .text value) := by
  rw [slotOf, parse_plain plain]

theorem checkKey_folded {entry : String × String} (folded : IsFolded entry.1) :
    checkKey entry = .ok entry := by
  obtain ⟨plain, small⟩ := folded
  rw [checkKey, parse_plain plain]
  simp only [small]

theorem slots_of_plain {all : Assignments} (plain : ∀ entry ∈ all, IsPlain entry.1.toList) :
    slots all = all.latest.map Assignments.held := by
  have after (found : Assignments) :
      all.foldl (fun (slots : Slots) entry =>
        slots.put (slotOf entry.1 entry.2).1 (slotOf entry.1 entry.2).2)
        (found.map Assignments.held) =
      (found.collect all).map Assignments.held := by
    induction all generalizing found with
    | nil => rfl
    | cons entry rest induction =>
        rw [List.foldl_cons, slotOf_plain (plain entry List.mem_cons_self),
          Assignments.put_held, Assignments.collect_cons]
        exact induction (fun other member => plain other (List.mem_cons_of_mem _ member)) _
  exact after []

theorem textOf_held (all : Assignments) : (all.map Assignments.held).mapM textOf = .ok all := by
  induction all with
  | nil => rfl
  | cons entry rest induction =>
      rw [List.map_cons, List.mapM_cons, induction]
      rfl

theorem checkKeys_folded {all : Assignments} (folded : ∀ entry ∈ all, IsFolded entry.1) :
    all.mapM checkKey = .ok all := by
  induction all with
  | nil => rfl
  | cons entry rest induction =>
      rw [List.mapM_cons, checkKey_folded (folded entry List.mem_cons_self),
        induction fun other member => folded other (List.mem_cons_of_mem _ member)]
      rfl

theorem layer_of_folded {all : Assignments} (folded : ∀ entry ∈ all, IsFolded entry.1) :
    layer all = .ok all.latest := by
  have texts : (slots all).mapM textOf = .ok all.latest := by
    rw [slots_of_plain fun entry member => (folded entry member).1, textOf_held]
  have checked : all.latest.mapM checkKey = .ok all.latest :=
    checkKeys_folded fun entry member => folded entry (Assignments.mem_of_mem_latest member)
  rw [layer, texts]
  exact checked

theorem merged_of_folded {file environment : Assignments}
    (inFile : ∀ entry ∈ file, IsFolded entry.1)
    (inEnvironment : ∀ entry ∈ environment, IsFolded entry.1) :
    ∃ all, merged file environment = .ok all ∧
      ∀ key, all.value? key = (environment.value? key).or (file.value? key) := by
  refine ⟨file.latest ++ environment.latest, ?_, ?_⟩
  · rw [merged, layer_of_folded inFile, layer_of_folded inEnvironment]
    rfl
  · intro key
    rw [Assignments.value?_append, Assignments.value?_latest, Assignments.value?_latest]

/-- The entries under their names in small letters. -/
def folded (entries : List (List Char × String)) : Assignments :=
  entries.map fun entry => (Text.lower (String.ofList entry.1), entry.2)

theorem isFolded_of_mem_folded {entries : List (List Char × String)}
    (plain : ∀ entry ∈ entries, IsPlain entry.1) :
    ∀ entry ∈ folded entries, IsFolded entry.1 := by
  intro entry member
  obtain ⟨old, known, rfl⟩ := List.mem_map.mp member
  exact (plain old known).isFolded

theorem value?_folded {name : String} (small : Text.lower name = name)
    (entries : List (List Char × String)) :
    (folded entries).value? name = last? name.toList entries := by
  have same : ((·.1 == name) ∘ fun entry : List Char × String =>
      (Text.lower (String.ofList entry.1), entry.2)) =
      fun entry => Text.sameIgnoringCase entry.1 name.toList := by
    funext entry
    rw [Function.comp_apply, Bool.eq_iff_iff, beq_iff_eq, Text.sameIgnoringCase_iff,
      ← Text.toList_lower name, small, ← String.toList_inj, Text.toList_lower,
      String.toList_ofList]
  rw [Assignments.value?, folded, ← List.map_reverse, List.find?_map, same, Option.map_map, last?]
  rfl

theorem assignments_eq (text : List Char) :
    assignments text = folded (((Text.lines text).filterMap entry?).map fun entry =>
      (entry.1, String.ofList entry.2)) := by
  rw [assignments, folded, List.map_map]
  rfl

/-- The rest of a name that begins with `TT_`, in any letter case. -/
def ownName? (name : List Char) : Option (List Char) :=
  if Text.sameIgnoringCase (name.take 3) "TT_".toList then some (name.drop 3) else none

/-- What the environment sets, by the names without their prefix. -/
def variableEntries (environment : List (String × String)) : List (List Char × String) :=
  environment.filterMap fun entry => (ownName? entry.1.toList).map (·, entry.2)

theorem smallLetters_cons (c : Char) (rest : List Char) :
    smallLetters (c :: rest) =
      (if c = '\u212A' then ['k'] else if c = '\u0130' then ['i', '\u0307'] else [c.toLower]) ++
        smallLetters rest := by
  rw [smallLetters, List.flatMap_cons]
  rfl

/-- The prefix is spelt with letters that only themselves and their capitals fold to. -/
theorem smallLetters_eq_cons_iff {p : Char} (spells : p = 't' ∨ p = '_')
    {name tail : List Char} :
    smallLetters name = p :: tail ↔
      ∃ c rest, name = c :: rest ∧ c.toLower = p ∧ smallLetters rest = tail := by
  cases name with
  | nil => simp [smallLetters]
  | cons c rest =>
      rw [smallLetters_cons]
      split
      next kelvin =>
        subst kelvin
        rcases spells with rfl | rfl <;> simp
      next =>
        split
        next dotted =>
          subst dotted
          rcases spells with rfl | rfl <;> simp
        next => simp

theorem smallLetters_of_plain {name : List Char} (plain : IsPlain name) :
    smallLetters name = name.map Char.toLower := by
  have each : ∀ c ∈ name, (if c = '\u212A' then ['k']
      else if c = '\u0130' then ['i', '\u0307'] else [c.toLower]) = [c.toLower] := by
    intro c member
    rw [if_neg, if_neg]
    · rintro rfl
      exact absurd (plain.isNameChar _ member) (by decide)
    · rintro rfl
      exact absurd (plain.isNameChar _ member) (by decide)
  rw [smallLetters, List.flatMap_congr each, ← List.map_eq_flatMap]

theorem ownName?_eq_some_iff {name rest : List Char} :
    ownName? name = some rest ↔
      ∃ a b c, name = a :: b :: c :: rest ∧
        a.toLower = 't' ∧ b.toLower = 't' ∧ c.toLower = '_' := by
  match name with
  | [] => simp [ownName?, Text.sameIgnoringCase]
  | [a] => simp [ownName?, Text.sameIgnoringCase]
  | [a, b] => simp [ownName?, Text.sameIgnoringCase]
  | a :: b :: c :: others =>
      have spelt : Text.sameIgnoringCase [a, b, c] "TT_".toList ↔
          a.toLower = 't' ∧ b.toLower = 't' ∧ c.toLower = '_' := by
        simp [Text.sameIgnoringCase_iff]
      constructor
      · intro own
        obtain ⟨starts, same⟩ := Option.ite_none_right_eq_some.mp own
        obtain rfl := Option.some.inj same
        exact ⟨a, b, c, rfl, spelt.mp starts⟩
      · rintro ⟨_, _, _, same, starts⟩
        cases same
        exact if_pos (spelt.mpr starts)

theorem smallLetters_eq_append_iff {name tail : List Char} :
    smallLetters name = variablePrefix ++ tail ↔
      ∃ rest, ownName? name = some rest ∧ smallLetters rest = tail := by
  have letters : variablePrefix ++ tail = 't' :: 't' :: '_' :: tail := rfl
  rw [letters]
  constructor
  · intro starts
    obtain ⟨a, afterA, rfl, first, others⟩ := (smallLetters_eq_cons_iff (.inl rfl)).mp starts
    obtain ⟨b, afterB, rfl, second, others⟩ := (smallLetters_eq_cons_iff (.inl rfl)).mp others
    obtain ⟨c, rest, rfl, third, rfl⟩ := (smallLetters_eq_cons_iff (.inr rfl)).mp others
    exact ⟨rest, ownName?_eq_some_iff.mpr ⟨a, b, c, rfl, first, second, third⟩, rfl⟩
  · rintro ⟨rest, own, rfl⟩
    obtain ⟨a, b, c, rfl, first, second, third⟩ := ownName?_eq_some_iff.mp own
    refine (smallLetters_eq_cons_iff (.inl rfl)).mpr ⟨a, _, rfl, first, ?_⟩
    refine (smallLetters_eq_cons_iff (.inl rfl)).mpr ⟨b, _, rfl, second, ?_⟩
    exact (smallLetters_eq_cons_iff (.inr rfl)).mpr ⟨c, _, rfl, third, rfl⟩

/-- The prefix test and the cut see the same variables as the spelling of the names does. -/
theorem variable_eq (name : List Char) (plain : ∀ rest, ownName? name = some rest → IsPlain rest) :
    (if variablePrefix.isPrefixOf (smallLetters name) then
        some (String.ofList ((smallLetters name).drop variablePrefix.length))
      else none) =
      (ownName? name).map fun rest => Text.lower (String.ofList rest) := by
  cases own : ownName? name with
  | none =>
      rw [if_neg]
      · rfl
      · intro starts
        obtain ⟨tail, whole⟩ := List.isPrefixOf_iff_prefix.mp starts
        obtain ⟨rest, found, -⟩ := smallLetters_eq_append_iff.mp whole.symm
        rw [own] at found
        cases found
  | some rest =>
      have whole := smallLetters_eq_append_iff.mpr ⟨rest, own, rfl⟩
      rw [whole, if_pos (List.isPrefixOf_iff_prefix.mpr (List.prefix_append _ _)),
        List.drop_left, smallLetters_of_plain (plain rest own), Option.map_some,
        Text.lower_ofList]

theorem ofVariables_eq {environment : List (String × String)}
    (plain : ∀ entry ∈ variableEntries environment, IsPlain entry.1) :
    ofVariables environment = folded (variableEntries environment) := by
  rw [ofVariables, folded, variableEntries, List.map_filterMap]
  apply List.filterMap_congr
  intro entry member
  have named := variable_eq entry.1.toList fun rest own =>
    plain (rest, entry.2) (List.mem_filterMap.mpr ⟨entry, member, by rw [own]; rfl⟩)
  have folds : ((ownName? entry.1.toList).map (·, entry.2)).map (fun entry =>
      (Text.lower (String.ofList entry.1), entry.2)) =
      ((ownName? entry.1.toList).map fun rest => Text.lower (String.ofList rest)).map
        (·, entry.2) := by
    rw [Option.map_map, Option.map_map]
    rfl
  rw [folds, ← named]
  by_cases starts : variablePrefix.isPrefixOf (smallLetters entry.1.toList) = true
  · rw [if_pos starts, if_pos starts, Option.map_some]
  · rw [if_neg starts, if_neg starts, Option.map_none]

end Settings

end RouterGate
