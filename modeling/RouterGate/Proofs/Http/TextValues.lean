import RouterGate.Http.Cookie
/-!
What arrives as the text of a header field can be sent on in another one: cutting, trimming and
joining bring in no character that a header value may not hold.
-/
namespace RouterGate.Http

namespace Header

def isTextChar (c : Char) : Bool :=
  (0x20 ≤ c.toNat && c.toNat < 0x7F) || c.toNat == 0x09

theorem isTextChar_of_text? {value : Bytes} {text : List Char}
    (read : text? value = some text) : ∀ c ∈ text, isTextChar c = true := by
  unfold text? at read
  split at read
  next isText =>
    cases read
    intro c member
    obtain ⟨b, present, rfl⟩ := List.mem_map.mp member
    have textByte := List.all_eq_true.mp isText b present
    have value : (Char.ofNat b.toNat).toNat = b.toNat := by
      have valid : b.toNat.isValidChar := .inl (Nat.lt_trans b.toNat_lt (by decide))
      rw [Char.ofNat, dif_pos valid]
      rfl
    simp only [isTextByte, Bool.or_eq_true, Bool.and_eq_true, decide_eq_true_eq, beq_iff_eq,
      UInt8.le_iff_toNat_le, UInt8.lt_iff_toNat_lt] at textByte
    simp only [isTextChar, value, Bool.or_eq_true, Bool.and_eq_true, decide_eq_true_eq,
      beq_iff_eq]
    rcases textByte with shown | tab
    · exact .inl shown
    · exact .inr (congrArg UInt8.toNat tab)
  next => cases read

theorem utf8EncodeChar_of_isTextChar {c : Char} (plain : isTextChar c = true) :
    String.utf8EncodeChar c = [c.val.toUInt8] := by
  apply String.utf8EncodeChar_eq_singleton
  simp only [isTextChar, Bool.or_eq_true, Bool.and_eq_true, decide_eq_true_eq,
    beq_iff_eq] at plain
  have small : c.val ≤ 0x7F := by
    change c.val.toNat ≤ 0x7F
    change (0x20 ≤ c.val.toNat ∧ c.val.toNat < 0x7F) ∨ c.val.toNat = 0x09 at plain
    omega
  simp [Char.utf8Size, small]

theorem isLegalByte_of_isTextChar {c : Char} (plain : isTextChar c = true) :
    isLegalByte c.val.toUInt8 = true := by
  apply isLegalByte_of_isTextByte
  simp only [isTextChar, Bool.or_eq_true, Bool.and_eq_true, decide_eq_true_eq,
    beq_iff_eq] at plain
  change (0x20 ≤ c.val.toNat ∧ c.val.toNat < 0x7F) ∨ c.val.toNat = 0x09 at plain
  have kept : c.val.toUInt8.toNat = c.val.toNat := by
    rw [UInt32.toNat_toUInt8]
    omega
  simp only [isTextByte, Bool.or_eq_true, Bool.and_eq_true, decide_eq_true_eq, beq_iff_eq,
    UInt8.le_iff_toNat_le, UInt8.lt_iff_toNat_lt, ← UInt8.toNat_inj, kept]
  exact plain

theorem isLegalValue_of_isTextChar {text : String}
    (plain : ∀ c ∈ text.toList, isTextChar c = true) :
    isLegalValue (Bytes.ofString text) = true := by
  rw [← String.ofList_toList (s := text), Bytes.ofString_ofList, isLegalValue, List.all_eq_true]
  intro b member
  obtain ⟨c, present, encoded⟩ := List.mem_flatMap.mp member
  rw [utf8EncodeChar_of_isTextChar (plain c present), List.mem_singleton] at encoded
  rw [encoded]
  exact isLegalByte_of_isTextChar (plain c present)

end Header

namespace Cookie

theorem isTextChar_of_setPair? {text : List Char} {pair : String}
    (plain : ∀ c ∈ text, Header.isTextChar c = true) (set : setPair? text = some pair) :
    ∀ c ∈ pair.toList, Header.isTextChar c = true := by
  simp only [setPair?] at set
  split at set
  next named =>
    cases set
    intro c member
    rw [String.toList_ofList] at member
    have inFirst := Text.mem_of_mem_trim member
    cases cut : Text.fields ';' text with
    | nil => exact absurd cut (Text.fields_ne_nil ';' text)
    | cons first others =>
        rw [cut] at inFirst
        apply plain
        exact Text.mem_of_mem_fields (cut ▸ List.mem_cons_self) inFirst
  next => cases set

theorem isTextChar_of_mem_setPairs {headers : Headers} {pair : String}
    (member : pair ∈ setPairs headers) : ∀ c ∈ pair.toList, Header.isTextChar c = true := by
  obtain ⟨text, found, set⟩ := List.mem_filterMap.mp member
  obtain ⟨value, -, read⟩ := List.mem_filterMap.mp found
  exact isTextChar_of_setPair? (Header.isTextChar_of_text? read) set

theorem isTextChar_of_mem_intercalate {pairs : List String}
    (plain : ∀ pair ∈ pairs, ∀ c ∈ pair.toList, Header.isTextChar c = true) :
    ∀ c ∈ ("; ".intercalate pairs).toList, Header.isTextChar c = true := by
  induction pairs with
  | nil => simp
  | cons first others induction =>
      cases others with
      | nil =>
          rw [String.intercalate_singleton]
          exact plain first List.mem_cons_self
      | cons second rest =>
          intro c member
          rw [String.intercalate_cons_cons, String.toList_append, String.toList_append,
            List.mem_append, List.mem_append] at member
          rcases member with (inFirst | inMark) | later
          · exact plain first List.mem_cons_self c inFirst
          · have marks : "; ".toList.all Header.isTextChar = true := by rfl
            exact List.all_eq_true.mp marks c inMark
          · apply induction _ c later
            intro pair inner
            exact plain pair (List.mem_cons_of_mem _ inner)

/-- The cookies of an answer can always be given back. -/
theorem isLegalValue_returned? (headers : Headers) :
    ((returned? headers).all fun text => Header.isLegalValue (Bytes.ofString text)) = true := by
  unfold returned?
  split
  next => rfl
  next =>
    apply Header.isLegalValue_of_isTextChar
    apply isTextChar_of_mem_intercalate
    intro pair member
    exact isTextChar_of_mem_setPairs member

theorem isTextChar_of_ofPair? {text : List Char} {cookie : Cookie}
    (plain : ∀ c ∈ text, Header.isTextChar c = true) (read : ofPair? text = some cookie) :
    ∀ c ∈ cookie.pairText.toList, Header.isTextChar c = true := by
  unfold ofPair? at read
  split at read
  next => cases read
  next before after cut =>
    obtain ⟨whole, -⟩ := Text.cut?_eq_some_iff.mp cut
    have part : ∀ c ∈ before ++ '=' :: after, Header.isTextChar c = true := by
      intro c member
      rw [← whole] at member
      exact plain c (Text.mem_of_mem_trim member)
    dsimp only at read
    split at read
    next => cases read
    next =>
      cases read
      intro c member
      apply part
      simp only [pairText, String.toList_append, String.toList_ofList, List.mem_append] at member
      rcases member with (inName | inMark) | inValue
      · exact List.mem_append_left _ (Text.mem_of_mem_trim inName)
      · exact List.mem_append_right _ (List.mem_singleton.mp inMark ▸ List.mem_cons_self)
      · exact List.mem_append_right _ (List.mem_cons_of_mem _ (Text.mem_of_mem_trim inValue))

theorem isTextChar_of_mem_presented {headers : Headers} {cookie : Cookie}
    (member : cookie ∈ presented headers) :
    ∀ c ∈ cookie.pairText.toList, Header.isTextChar c = true := by
  obtain ⟨text, found, inText⟩ := List.mem_flatMap.mp member
  obtain ⟨pair, inFields, read⟩ := List.mem_filterMap.mp inText
  obtain ⟨value, -, shown⟩ := List.mem_filterMap.mp found
  apply isTextChar_of_ofPair? _ read
  intro c inPair
  exact Header.isTextChar_of_text? shown c (Text.mem_of_mem_fields inFields inPair)

/-- The cookies of a request can always be shown to someone else. -/
theorem isLegalValue_headerText {headers : Headers} {cookies : List Cookie}
    (present : ∀ cookie ∈ cookies, cookie ∈ presented headers) :
    Header.isLegalValue (Bytes.ofString (headerText cookies)) = true := by
  apply Header.isLegalValue_of_isTextChar
  apply isTextChar_of_mem_intercalate
  intro pair member
  obtain ⟨cookie, given, rfl⟩ := List.mem_map.mp member
  exact isTextChar_of_mem_presented (present cookie given)

end Cookie

end RouterGate.Http
