/-!
Byte strings and their reading as UTF-8 text.
-/
namespace RouterGate

abbrev Bytes := List UInt8

namespace Bytes

def ofString (s : String) : Bytes :=
  s.toUTF8.data.toList

def text? (bytes : Bytes) : Option String :=
  String.fromUTF8? (ByteArray.mk bytes.toArray)

theorem ofString_injective {a b : String} (equal : ofString a = ofString b) : a = b := by
  have data : a.toUTF8.data = b.toUTF8.data := Array.toList_inj.mp equal
  have arrays : a.toUTF8 = b.toUTF8 := by
    cases left : a.toUTF8
    cases right : b.toUTF8
    simp_all
  exact String.toByteArray_inj.mp arrays

theorem text?_eq_some_iff {bytes : Bytes} {text : String} :
    text? bytes = some text ↔ bytes = ofString text := by
  constructor
  · intro read
    unfold text? String.fromUTF8? at read
    split at read
    next valid =>
      cases read
      rfl
    next => cases read
  · intro same
    subst same
    exact dif_pos text.isValidUTF8

@[simp] theorem ofString_append (a b : String) :
    ofString (a ++ b) = ofString a ++ ofString b := by
  simp [ofString]

theorem ofString_ofList (s : List Char) :
    ofString (String.ofList s) = s.flatMap String.utf8EncodeChar := by
  simp [ofString, List.utf8Encode]

/-- The text of the bytes, with U+FFFD for what is not UTF-8 at all. -/
def shown (bytes : Bytes) : String :=
  (text? bytes).getD "\uFFFD"

end Bytes

end RouterGate
