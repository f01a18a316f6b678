import RouterGate.Text.Bytes
/-!
Header fields in order of arrival. Names do not tell capitals from small letters; values are
bytes, and only those made of visible ASCII characters, spaces and tabs are text.
-/
namespace RouterGate.Http

structure Header where
  name : String
  value : Bytes
  deriving DecidableEq, Repr

abbrev Headers := List Header

namespace Header

def ofText (name value : String) : Header :=
  ⟨name, Bytes.ofString value⟩

def isNamed (name : String) (header : Header) : Bool :=
  header.name.toList.map Char.toLower == name.toList.map Char.toLower

def isTextByte (b : UInt8) : Bool :=
  (0x20 ≤ b && b < 0x7F) || b == 0x09

def text? (value : Bytes) : Option (List Char) :=
  if value.all isTextByte then some (value.map fun b => Char.ofNat b.toNat) else none

def isLegalByte (b : UInt8) : Bool :=
  (0x20 ≤ b && b != 0x7F) || b == 0x09

def isLegalValue (value : Bytes) : Bool :=
  value.all isLegalByte

theorem isLegalByte_of_isTextByte {b : UInt8} (isText : isTextByte b = true) :
    isLegalByte b = true := by
  simp only [isTextByte, isLegalByte, Bool.or_eq_true, Bool.and_eq_true, decide_eq_true_eq,
    bne_iff_ne, beq_iff_eq] at isText ⊢
  rcases isText with ⟨low, high⟩ | tab
  · exact .inl ⟨low, fun deleted => by subst deleted; exact absurd high (by decide)⟩
  · exact .inr tab

end Header

namespace Headers

def values (name : String) (headers : Headers) : List Bytes :=
  (headers.filter (Header.isNamed name)).map (·.value)

def texts (name : String) (headers : Headers) : List (List Char) :=
  (values name headers).filterMap Header.text?

def firstText? (name : String) (headers : Headers) : Option (List Char) :=
  (values name headers).head?.bind Header.text?

@[simp] theorem values_append (name : String) (first second : Headers) :
    values name (first ++ second) = values name first ++ values name second := by
  simp [values]

@[simp] theorem texts_append (name : String) (first second : Headers) :
    texts name (first ++ second) = texts name first ++ texts name second := by
  simp [texts]

theorem values_cons_of_other {wanted name : String}
    (other : Header.isNamed wanted (.ofText name "") = false) (value : String) (rest : Headers) :
    values wanted (.ofText name value :: rest) = values wanted rest := by
  have apart : ¬Header.isNamed wanted (.ofText name value) = true := by
    intro named
    exact Bool.false_ne_true (other.symm.trans named)
  rw [values, List.filter_cons_of_neg apart, values]

theorem values_cons_ofText (name value : String) (rest : Headers) :
    values name (.ofText name value :: rest) = Bytes.ofString value :: values name rest := by
  have named : Header.isNamed name (.ofText name value) = true := beq_self_eq_true _
  rw [values, List.filter_cons_of_pos named, List.map_cons, values]
  rfl

end Headers

end RouterGate.Http
