import RouterGate.Gateway.Access
import RouterGate.Proofs.Http.Spelling
import RouterGate.Proofs.Http.TextValues
/-!
A session cookie that is given back. What an answer sets is read again from the requests that
follow, among whatever other cookies they bring.
-/
namespace RouterGate

namespace Http

namespace Header

theorem toNat_toUInt8_of_isTextChar {c : Char} (plain : isTextChar c = true) :
    c.val.toUInt8.toNat = c.toNat := by
  simp only [isTextChar, Bool.or_eq_true, Bool.and_eq_true, decide_eq_true_eq,
    beq_iff_eq] at plain
  rw [UInt32.toNat_toUInt8]
  change c.toNat % 256 = c.toNat
  omega

theorem isTextByte_of_isTextChar {c : Char} (plain : isTextChar c = true) :
    isTextByte c.val.toUInt8 = true := by
  have kept := toNat_toUInt8_of_isTextChar plain
  simp only [isTextChar, Bool.or_eq_true, Bool.and_eq_true, decide_eq_true_eq,
    beq_iff_eq] at plain
  simp only [isTextByte, Bool.or_eq_true, Bool.and_eq_true, decide_eq_true_eq, beq_iff_eq,
    UInt8.le_iff_toNat_le, UInt8.lt_iff_toNat_lt, ← UInt8.toNat_inj, kept]
  exact plain

theorem ofString_of_isTextChar {text : String} (plain : ∀ c ∈ text.toList, isTextChar c = true) :
    Bytes.ofString text = text.toList.map fun c => c.val.toUInt8 := by
  rw [← String.ofList_toList (s := text), Bytes.ofString_ofList, String.toList_ofList]
  generalize text.toList = chars at plain
  induction chars with
  | nil => rfl
  | cons c rest induction =>
      rw [List.flatMap_cons, List.map_cons,
        utf8EncodeChar_of_isTextChar (plain c List.mem_cons_self), induction]
      · rfl
      · intro inner member
        exact plain inner (List.mem_cons_of_mem _ member)

/-- Text that is written into a header field is read from it again. -/
theorem text?_ofString {text : String} (plain : ∀ c ∈ text.toList, isTextChar c = true) :
    text? (Bytes.ofString text) = some text.toList := by
  have isText : (text.toList.map fun c => c.val.toUInt8).all isTextByte = true := by
    rw [List.all_map, List.all_eq_true]
    intro c member
    exact isTextByte_of_isTextChar (plain c member)
  rw [text?, ofString_of_isTextChar plain, if_pos isText, List.map_map, Option.some.injEq]
  have same : ∀ c ∈ text.toList,
      ((fun b : UInt8 => Char.ofNat b.toNat) ∘ fun c : Char => c.val.toUInt8) c = id c := by
    intro c member
    rw [Function.comp_apply, toNat_toUInt8_of_isTextChar (plain c member), Char.ofNat_toNat]
    rfl
  rw [List.map_congr_left same, List.map_id]

end Header

namespace Cookie

theorem presented_cons {text : String} {chars : List Char}
    (read : Header.text? (Bytes.ofString text) = some chars) (after : Headers) :
    presented (.ofText "cookie" text :: after) = ofText chars ++ presented after := by
  have named : Header.isNamed "cookie" (.ofText "cookie" text) = true := beq_self_eq_true _
  have value : (Header.ofText "cookie" text).value = Bytes.ofString text := rfl
  rw [presented, Headers.texts, Headers.values, List.filter_cons_of_pos named, List.map_cons,
    value, List.filterMap_cons_some read, List.flatMap_cons]
  rfl

/-- A text that can stand beside the session cookie in a header field, and is not one itself. -/
structure IsOther (part : String) : Prop where
  isText : ∀ c ∈ part.toList, Header.isTextChar c = true
  isOne : ';' ∉ part.toList
  isNamed : ∀ cookie, ofPair? part.toList = some cookie → cookie.name ≠ sessionName

/-- The pair of a `Set-Cookie` value, without the attributes after it. -/
def leadingPair (value : String) : String :=
  String.ofList (value.toList.takeWhile (· != ';'))

def isTokenChar (c : Char) : Bool :=
  Header.isTextChar c && c != ';' && !Text.isBlank c

theorem isTokenChar_of_mem_ofBytes {bytes : Bytes} {c : Char}
    (member : c ∈ Text.Hex.ofBytes bytes) : isTokenChar c = true := by
  have digits : ∀ n, n < 16 → isTokenChar (Text.Hex.digit n) = true := by decide
  obtain ⟨b, -, digit⟩ := List.mem_flatMap.mp member
  have small := b.toNat_lt
  rcases List.mem_cons.mp digit with rfl | low
  · exact digits _ (by omega)
  · rw [List.mem_singleton.mp low]
    exact digits _ (by omega)

section Session

variable {token : String} (plain : ∀ c ∈ token.toList, isTokenChar c = true)

include plain

theorem sessionPair_plain :
    ∀ c ∈ (sessionName ++ "=" ++ token).toList, isTokenChar c = true := by
  intro c member
  rw [String.toList_append, List.mem_append] at member
  rcases member with named | inToken
  · have marks : (sessionName ++ "=").toList.all isTokenChar = true := by decide
    exact List.all_eq_true.mp marks c named
  · exact plain c inToken

theorem ofPair?_session :
    ofPair? (sessionName ++ "=" ++ token).toList = some ⟨sessionName, token⟩ := by
  have noBlanks {text : String} (plain : ∀ c ∈ text.toList, isTokenChar c = true) :
      Text.trim text.toList = text.toList := by
    apply Text.trim_of_no_blanks
    intro c member
    have isToken := plain c member
    simp only [isTokenChar, Bool.and_eq_true, Bool.not_eq_true'] at isToken
    exact isToken.2
  have cut : Text.cut? '=' (sessionName ++ "=" ++ token).toList =
      some (sessionName.toList, token.toList) := by
    rw [Text.cut?_eq_some_iff]
    refine ⟨?_, by decide⟩
    rw [String.toList_append, String.toList_append, List.append_assoc]
    rfl
  have name : Text.trim sessionName.toList = sessionName.toList := by decide
  rw [ofPair?, noBlanks (sessionPair_plain plain), cut]
  simp only [name, noBlanks plain, String.ofList_toList]
  rfl

theorem leadingPair_settingSession (lifetime : Nat) :
    leadingPair (settingSession token lifetime) = sessionName ++ "=" ++ token := by
  have kept : ∀ c ∈ (sessionName ++ "=" ++ token).toList, (c != ';') = true := by
    intro c member
    have isToken := sessionPair_plain plain c member
    simp only [isTokenChar, Bool.and_eq_true] at isToken
    exact isToken.1.2
  have stops (rest : String) : List.takeWhile (· != ';')
      ("; Path=/; HttpOnly; SameSite=Lax; Max-Age=" ++ rest).toList = [] := by
    rw [String.toList_append]
    rfl
  rw [leadingPair, settingSession, String.append_assoc, String.toList_append,
    List.takeWhile_append_of_pos kept, stops, List.append_nil, String.ofList_toList]

/-- The session cookie is the first of its name, whatever stands beside it. -/
theorem presented_session {before after : Headers} {firsts lasts : List String}
    (others : ∀ cookie ∈ presented before, cookie.name ≠ sessionName)
    (beside : ∀ part ∈ firsts ++ lasts, IsOther part) :
    ∃ earlier later,
      presented (before ++ .ofText "cookie"
          ("; ".intercalate (firsts ++ (sessionName ++ "=" ++ token) :: lasts)) :: after) =
        earlier ++ ⟨sessionName, token⟩ :: later ∧
      ∀ cookie ∈ earlier, cookie.name ≠ sessionName := by
  have isText : ∀ part ∈ firsts ++ (sessionName ++ "=" ++ token) :: lasts,
      (∀ c ∈ part.toList, Header.isTextChar c = true) ∧ ';' ∉ part.toList := by
    intro part member
    rcases List.mem_append.mp member with early | late
    · have other := beside part (List.mem_append_left _ early)
      exact ⟨other.isText, other.isOne⟩
    rcases List.mem_cons.mp late with rfl | late
    · have isToken := sessionPair_plain plain
      simp only [isTokenChar, Bool.and_eq_true, bne_iff_ne] at isToken
      exact ⟨fun c inner => (isToken c inner).1.1, fun mark => (isToken _ mark).1.2 rfl⟩
    · have other := beside part (List.mem_append_right _ late)
      exact ⟨other.isText, other.isOne⟩
  have read := Header.text?_ofString
    (isTextChar_of_mem_intercalate fun part member => (isText part member).1)
  have parts := ofText_intercalate fun part member => (isText part member).2
  rw [List.map_append, List.map_cons, List.filterMap_append,
    List.filterMap_cons_some (ofPair?_session plain)] at parts
  refine ⟨presented before ++ (firsts.map String.toList).filterMap ofPair?,
    (lasts.map String.toList).filterMap ofPair? ++ presented after, ?_, ?_⟩
  · rw [presented_append, presented_cons read, parts, List.append_assoc, List.append_assoc,
      List.cons_append]
  · intro cookie member
    rcases List.mem_append.mp member with earlier | inParts
    · exact others cookie earlier
    · obtain ⟨text, listed, read⟩ := List.mem_filterMap.mp inParts
      obtain ⟨part, early, rfl⟩ := List.mem_map.mp listed
      exact (beside part (List.mem_append_left _ early)).isNamed cookie read

end Session

end Cookie

end Http

end RouterGate
