import RouterGate.Proofs.Http.GivenBack
/-!
Cookies that were read can be written and read again. It does not matter at which semicolons their
texts are divided among header fields, and what was read comes back just as it was.
-/
namespace RouterGate.Http

namespace Header

/-- A value with a semicolon in it is text if both of its sides are. -/
theorem text?_append_mark {first second : Bytes} {text : List Char} :
    text? (first ++ 0x3B :: second) = some text ↔
      ∃ before after, text? first = some before ∧ text? second = some after ∧
        text = before ++ ';' :: after := by
  have mark : isTextByte 0x3B = true := by decide
  unfold text?
  simp only [List.all_append, List.all_cons, mark, Bool.true_and]
  cases first.all isTextByte with
  | false => simp
  | true =>
      cases second.all isTextByte with
      | false => simp
      | true => simp [eq_comm]

end Header

namespace Cookie

/-- The cookies of one header field: only a text under their name has any, those of its parts that
are pairs. -/
def inField (field : Header) : List Cookie :=
  match Header.text? field.value with
  | none => []
  | some text =>
      if field.isNamed "cookie" then (text.splitOn ';').filterMap ofPair? else []

theorem presented_singleton (field : Header) : presented [field] = inField field := by
  unfold presented Headers.texts Headers.values inField
  cases named : field.isNamed "cookie" with
  | false =>
      rw [List.filter_cons_of_neg (by rw [named]; exact Bool.false_ne_true)]
      cases Header.text? field.value <;> rfl
  | true =>
      rw [List.filter_cons_of_pos named, List.filter_nil, List.map_singleton]
      cases read : Header.text? field.value with
      | none => rw [List.filterMap_cons_none read, List.filterMap_nil, List.flatMap_nil]
      | some text =>
          rw [List.filterMap_cons_some read, List.filterMap_nil, List.flatMap_singleton, ofText,
            Text.fields_eq_splitOn]
          rfl

theorem presented_eq_flatMap (headers : Headers) : presented headers = headers.flatMap inField := by
  induction headers with
  | nil => rfl
  | cons field rest induction =>
      rw [List.flatMap_cons, ← induction, ← presented_singleton, ← presented_append,
        List.singleton_append]

theorem ofPair?_eq_some_iff {part : List Char} {cookie : Cookie} :
    ofPair? part = some cookie ↔
      ∃ before after, part = before ++ '=' :: after ∧ '=' ∉ before ∧ Text.trim before ≠ [] ∧
        cookie = ⟨String.ofList (Text.trim before), String.ofList (Text.trim after)⟩ := by
  constructor
  · intro read
    cases cut : Text.cut? '=' part with
    | none =>
        have unsplit : '=' ∉ Text.trim part :=
          fun member => Text.absent_of_cut?_eq_none cut (Text.mem_of_mem_trim member)
        rw [ofPair?, Text.cut?_eq_none_of_absent unsplit] at read
        cases read
    | some sides =>
        obtain ⟨before, after⟩ := sides
        obtain ⟨rfl, first⟩ := Text.cut?_eq_some_iff.mp cut
        rw [ofPair?_append_mark first] at read
        split at read
        next => cases read
        next named =>
          cases read
          exact ⟨before, after, rfl, first, by simpa using named, rfl⟩
  · intro pair
    obtain ⟨before, after, rfl, first, named, rfl⟩ := pair
    rw [ofPair?_append_mark first, if_neg (by simpa using named)]

theorem isSpellable_of_ofPair? {part : List Char} {cookie : Cookie} (isOne : ';' ∉ part)
    (read : ofPair? part = some cookie) : cookie.IsSpellable := by
  obtain ⟨before, after, rfl, first, named, rfl⟩ := ofPair?_eq_some_iff.mp read
  simp only [List.mem_append, List.mem_cons, not_or] at isOne
  constructor
  · rw [String.toList_ofList]
    exact named
  · rw [String.toList_ofList, Text.trim_trim]
  · rw [String.toList_ofList, Text.trim_trim]
  · rw [String.toList_ofList]
    exact fun member => first (Text.mem_of_mem_trim member)
  · rw [String.toList_ofList, String.toList_ofList, List.mem_append, not_or]
    exact ⟨fun member => isOne.1 (Text.mem_of_mem_trim member),
      fun member => isOne.2.2 (Text.mem_of_mem_trim member)⟩

theorem isSpellable_of_mem_presented {headers : Headers} {cookie : Cookie}
    (member : cookie ∈ presented headers) : cookie.IsSpellable := by
  obtain ⟨text, -, inText⟩ := List.mem_flatMap.mp member
  obtain ⟨part, inFields, read⟩ := List.mem_filterMap.mp inText
  exact isSpellable_of_ofPair? (Text.not_mem_of_mem_fields inFields) read

/-- A field of cookies that is divided at a semicolon into two. -/
structure Divides (joined first second : Header) : Prop where
  isCookie : joined.isNamed "cookie" = true
  isCookieFirst : first.isNamed "cookie" = true
  isCookieSecond : second.isNamed "cookie" = true
  value : joined.value = first.value ++ 0x3B :: second.value

section Dividing

variable {joined first second : Header} (divides : Divides joined first second)

include divides

theorem isSome_text?_iff_of_divides :
    (Header.text? joined.value).isSome = true ↔
      (Header.text? first.value).isSome = true ∧ (Header.text? second.value).isSome = true := by
  rw [divides.value]
  simp only [Option.isSome_iff_exists, Header.text?_append_mark]
  constructor
  · intro whole
    obtain ⟨_, before, after, readFirst, readSecond, -⟩ := whole
    exact ⟨⟨before, readFirst⟩, ⟨after, readSecond⟩⟩
  · intro sides
    obtain ⟨⟨before, readFirst⟩, ⟨after, readSecond⟩⟩ := sides
    exact ⟨_, before, after, readFirst, readSecond, rfl⟩

/-- Two neighbouring fields of cookies say the same as one with a semicolon between their texts. -/
theorem presented_of_divides (isText : (Header.text? joined.value).isSome = true)
    {between : Headers} (neighbours : Headers.texts "cookie" between = [])
    (before after : Headers) :
    presented (before ++ joined :: between ++ after) =
      presented (before ++ first :: between ++ second :: after) := by
  have silent : between.flatMap inField = [] := by
    rw [← presented_eq_flatMap, presented, neighbours, List.flatMap_nil]
  have divided : inField joined = inField first ++ inField second := by
    obtain ⟨text, read⟩ := Option.isSome_iff_exists.mp isText
    obtain ⟨left, right, readFirst, readSecond, rfl⟩ :=
      Header.text?_append_mark.mp (divides.value ▸ read)
    simp only [inField, read, readFirst, readSecond, divides.isCookie, divides.isCookieFirst,
      divides.isCookieSecond, if_true, ← Text.fields_eq_splitOn, Text.fields_append_separator,
      List.filterMap_append]
  simp only [presented_eq_flatMap, List.flatMap_append, List.flatMap_cons, silent, divided,
    List.append_nil, List.append_assoc]

end Dividing

section Writing

variable {headers : Headers} {cookie : Cookie} {cookies : List Cookie}

theorem IsSpellable.not_mem_pairText (spellable : cookie.IsSpellable) :
    ';' ∉ cookie.pairText.toList := by
  have isOne := spellable.isOne
  rw [List.mem_append, not_or] at isOne
  simp only [pairText, String.toList_append, List.mem_append, not_or]
  exact ⟨⟨isOne.1, by decide⟩, isOne.2⟩

/-- A pair is a spelling of its cookie without any blanks. -/
theorem IsSpellable.ofPair?_pairText (spellable : cookie.IsSpellable) :
    ofPair? cookie.pairText.toList = some cookie := by
  have spells : cookie.Spells (([] ++ cookie.name.toList ++ []) ++
      '=' :: ([] ++ cookie.value.toList ++ [])) := .pair (by rintro c ⟨⟩)
  have whole : cookie.pairText.toList = ([] ++ cookie.name.toList ++ []) ++
      '=' :: ([] ++ cookie.value.toList ++ []) := by
    simp [pairText]
  rw [whole]
  exact spells.ofPair?_eq spellable

theorem ofText_headerText (spellable : ∀ cookie ∈ cookies, cookie.IsSpellable) :
    ofText (headerText cookies).toList = cookies := by
  have isOne : ∀ part ∈ cookies.map pairText, ';' ∉ part.toList := by
    intro part member
    obtain ⟨cookie, given, rfl⟩ := List.mem_map.mp member
    exact (spellable cookie given).not_mem_pairText
  rw [headerText, ofText_intercalate isOne]
  clear isOne
  induction cookies with
  | nil => rfl
  | cons first rest induction =>
      rw [List.map_cons, List.map_cons,
        List.filterMap_cons_some (spellable first List.mem_cons_self).ofPair?_pairText,
        induction fun cookie given => spellable cookie (List.mem_cons_of_mem _ given)]

/-- Cookies that came with a request are read again from the field that they are written into. -/
theorem presented_headerText (given : ∀ cookie ∈ cookies, cookie ∈ presented headers)
    (after : Headers) :
    presented (.ofText "cookie" (headerText cookies) :: after) = cookies ++ presented after := by
  have plain : ∀ c ∈ (headerText cookies).toList, Header.isTextChar c = true := by
    apply isTextChar_of_mem_intercalate
    intro part member
    obtain ⟨cookie, isGiven, rfl⟩ := List.mem_map.mp member
    exact isTextChar_of_mem_presented (given cookie isGiven)
  rw [presented_cons (Header.text?_ofString plain),
    ofText_headerText fun cookie isGiven => isSpellable_of_mem_presented (given cookie isGiven)]

end Writing

end Cookie

end RouterGate.Http
