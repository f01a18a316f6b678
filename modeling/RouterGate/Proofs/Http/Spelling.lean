import RouterGate.Http.Cookie
import RouterGate.Proofs.Text.Cutting
/-!
Cookies as they are spelt in header fields. Blanks around their parts make no difference, nor does
it matter which cookies share a field.
-/
namespace RouterGate.Http.Cookie

theorem ofPair?_cons_of_isBlank {c : Char} (blank : Text.isBlank c = true) (pair : List Char) :
    ofPair? (c :: pair) = ofPair? pair := by
  simp only [ofPair?, Text.trim_cons_of_isBlank blank]

theorem ofText_cons_of_isBlank {c : Char} (blank : Text.isBlank c = true) (notMark : c ≠ ';')
    (text : List Char) : ofText (c :: text) = ofText text := by
  rw [ofText, ofText, Text.fields, if_neg notMark]
  cases cut : Text.fields ';' text with
  | nil => exact absurd cut (Text.fields_ne_nil ';' text)
  | cons first others => simp only [List.filterMap_cons, ofPair?_cons_of_isBlank blank]

theorem ofText_append {first : List Char} (absent : ';' ∉ first) (rest : List Char) :
    ofText (first ++ ';' :: rest) = (ofPair? first).toList ++ ofText rest := by
  rw [ofText, Text.fields_append absent, List.filterMap_cons]
  cases ofPair? first <;> rfl

/-- Cookies that are joined in one text are read from it one by one. -/
theorem ofText_intercalate {parts : List String} (plain : ∀ part ∈ parts, ';' ∉ part.toList) :
    ofText ("; ".intercalate parts).toList = (parts.map String.toList).filterMap ofPair? := by
  induction parts with
  | nil => rfl
  | cons first others induction =>
      cases others with
      | nil =>
          rw [String.intercalate_singleton, ofText,
            Text.fields_of_absent (plain first List.mem_cons_self)]
          rfl
      | cons second rest =>
          have mark : "; ".toList = [';', ' '] := rfl
          rw [List.map_cons, String.intercalate_cons_cons, String.toList_append,
            String.toList_append, mark, List.append_assoc, List.cons_append, List.cons_append,
            List.nil_append, ofText_append (plain first List.mem_cons_self),
            ofText_cons_of_isBlank rfl (by decide),
            induction fun part member => plain part (List.mem_cons_of_mem _ member)]
          cases read : ofPair? first.toList with
          | none => rw [List.filterMap_cons_none read, Option.toList_none, List.nil_append]
          | some cookie =>
              rw [List.filterMap_cons_some read, Option.toList_some, List.singleton_append]

theorem ofPair?_append_mark {before : List Char} (first : '=' ∉ before) (after : List Char) :
    ofPair? (before ++ '=' :: after) =
      if (Text.trim before).isEmpty then none
      else some ⟨String.ofList (Text.trim before), String.ofList (Text.trim after)⟩ := by
  have absent : '=' ∉ Text.trimStart before :=
    fun member => first ((List.dropWhile_sublist _).subset member)
  have cut : Text.cut? '=' (Text.trimStart before ++ '=' :: Text.trimEnd after) =
      some (Text.trimStart before, Text.trimEnd after) :=
    Text.cut?_eq_some_iff.mpr ⟨rfl, absent⟩
  rw [ofPair?, Text.trim_append_mark (by decide), cut]
  simp only [Text.trim_trimStart, Text.trim_trimEnd]

/-- A cookie whose name and value are what is left between blanks, with no mark in them that
would end them early. -/
structure IsSpellable (cookie : Cookie) : Prop where
  isNamed : cookie.name.toList ≠ []
  name : Text.trim cookie.name.toList = cookie.name.toList
  value : Text.trim cookie.value.toList = cookie.value.toList
  isUnsplit : '=' ∉ cookie.name.toList
  isOne : ';' ∉ cookie.name.toList ++ cookie.value.toList

/-- A text that spells a cookie, with any blanks before and after its name and its value. -/
inductive Spells (cookie : Cookie) : List Char → Prop
  | pair {beforeName afterName beforeValue afterValue : List Char}
      (blank : Text.IsBlankText (beforeName ++ afterName ++ beforeValue ++ afterValue)) :
      Spells cookie ((beforeName ++ cookie.name.toList ++ afterName) ++
        '=' :: (beforeValue ++ cookie.value.toList ++ afterValue))

/-- A text that spells some cookies, with semicolons between them. -/
inductive SpellsAll : List Cookie → List Char → Prop
  | last {cookie : Cookie} {part : List Char} (spellable : cookie.IsSpellable)
      (spells : cookie.Spells part) : SpellsAll [cookie] part
  | more {cookie : Cookie} {part : List Char} {others : List Cookie} {rest : List Char}
      (spellable : cookie.IsSpellable) (spells : cookie.Spells part)
      (later : SpellsAll others rest) : SpellsAll (cookie :: others) (part ++ ';' :: rest)

/-- Some header fields carry cookies, each of them the next few. -/
inductive Carry : List Cookie → List (List Char) → Prop
  | none : Carry [] []
  | field {cookies others : List Cookie} {text : List Char} {texts : List (List Char)}
      (spells : SpellsAll cookies text) (later : Carry others texts) :
      Carry (cookies ++ others) (text :: texts)

section Reading

variable {cookie : Cookie} {part : List Char}

theorem not_mem_blanks {c : Char} (shown : Text.isBlank c = false) {blanks : List Char}
    (blank : Text.IsBlankText blanks) : c ∉ blanks := by
  intro member
  rw [blank c member] at shown
  cases shown

theorem Spells.isOne (spells : cookie.Spells part) (spellable : cookie.IsSpellable) :
    ';' ∉ part := by
  have isOne := spellable.isOne
  cases spells with
  | pair blank =>
      have absent := not_mem_blanks (c := ';') (by decide) blank
      simp only [List.mem_append, List.mem_cons, not_or] at absent isOne ⊢
      obtain ⟨⟨⟨first, second⟩, third⟩, fourth⟩ := absent
      exact ⟨⟨⟨first, isOne.1⟩, second⟩, by decide, ⟨third, isOne.2⟩, fourth⟩

theorem Spells.ofPair?_eq (spells : cookie.Spells part) (spellable : cookie.IsSpellable) :
    ofPair? part = some cookie := by
  cases spells with
  | @pair beforeName afterName beforeValue afterValue blank =>
      have absent := not_mem_blanks (c := '=') (by decide) blank
      simp only [Text.IsBlankText, List.mem_append, or_imp, forall_and, not_or] at absent blank
      obtain ⟨⟨⟨first, second⟩, third⟩, fourth⟩ := blank
      have unsplit : '=' ∉ beforeName ++ cookie.name.toList ++ afterName := by
        simp [absent, spellable.isUnsplit]
      have filled : cookie.name.toList.isEmpty = false :=
        List.isEmpty_eq_false_iff.mpr spellable.isNamed
      rw [ofPair?_append_mark unsplit, Text.trim_between first second,
        Text.trim_between third fourth, spellable.name, spellable.value, filled]
      simp only [Bool.false_eq_true, if_false, String.ofList_toList]

end Reading

theorem SpellsAll.ofText_eq {cookies : List Cookie} {text : List Char}
    (spells : SpellsAll cookies text) : ofText text = cookies := by
  induction spells with
  | last spellable spells =>
      rw [ofText, Text.fields_of_absent (spells.isOne spellable),
        List.filterMap_cons_some (spells.ofPair?_eq spellable)]
      rfl
  | more spellable spells later induction =>
      rw [ofText_append (spells.isOne spellable), spells.ofPair?_eq spellable, induction]
      rfl

/-- Cookies are read from header fields as they were spelt, in their order, however they are
spaced and wherever one field ends and the next begins. -/
theorem Carry.flatMap_ofText {cookies : List Cookie} {texts : List (List Char)}
    (carry : Carry cookies texts) : texts.flatMap ofText = cookies := by
  induction carry with
  | none => rfl
  | field spells later induction => rw [List.flatMap_cons, spells.ofText_eq, induction]

end RouterGate.Http.Cookie
