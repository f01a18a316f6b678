import Mathlib
import RouterGate.Settings.Basic
/-!
What a text means where a setting is a count: a word for yes or no, or a number in digits.
-/
namespace RouterGate

namespace Net

theorem decimal?_eq_some_iff {digits : List Char} {n : Nat} :
    decimal? digits = some n ↔
      digits ≠ [] ∧ (∀ c ∈ digits, c.isDigit = true) ∧ Nat.ofDigitChars 10 digits 0 = n := by
  have value : digits.foldl (fun n c => n * 10 + (c.toNat - 48)) 0 =
      Nat.ofDigitChars 10 digits 0 := by
    have step : (fun (n : Nat) (c : Char) => n * 10 + (c.toNat - 48)) =
        fun n c => 10 * n + (c.toNat - '0'.toNat) := by
      funext n c
      rw [Nat.mul_comm]
      rfl
    rw [step, Nat.ofDigitChars]
  rw [decimal?, value]
  cases digits with
  | nil => simp
  | cons c rest => simp [and_assoc]

end Net

namespace Settings

def yesWords : List String := ["true", "on", "yes"]

def noWords : List String := ["false", "off", "no"]

/-- The number that a text stands for: one for yes, zero for no, else what its digits say, if
that is a number of 64 bits. A plus sign may stand before the digits. -/
inductive Reads (text : String) : Nat → Prop
  | yes (word : Text.lower text ∈ yesWords) : Reads text 1
  | no (word : Text.lower text ∈ noWords) : Reads text 0
  | number {digits : List Char}
      (spelt : text.toList = digits ∨ text.toList = '+' :: digits)
      (filled : digits ≠ [])
      (decimal : ∀ c ∈ digits, c.isDigit = true)
      (small : Nat.ofDigitChars 10 digits 0 < UInt64.size) :
      Reads text (Nat.ofDigitChars 10 digits 0)

theorem number?_eq_some_iff {text : List Char} {n : Nat} :
    number? text = some n ↔
      ∃ digits, (text = digits ∨ text = '+' :: digits) ∧ digits ≠ [] ∧
        (∀ c ∈ digits, c.isDigit = true) ∧ Nat.ofDigitChars 10 digits 0 = n ∧
        n < UInt64.size := by
  have bounded (digits : List Char) :
      ((Net.decimal? digits).bind fun n => if n < UInt64.size then some n else none) = some n ↔
        digits ≠ [] ∧ (∀ c ∈ digits, c.isDigit = true) ∧ Nat.ofDigitChars 10 digits 0 = n ∧
          n < UInt64.size := by
    rw [Option.bind_eq_some_iff]
    constructor
    · rintro ⟨m, read, kept⟩
      obtain ⟨filled, decimal, value⟩ := Net.decimal?_eq_some_iff.mp read
      obtain ⟨small, same⟩ := Option.ite_none_right_eq_some.mp kept
      obtain rfl := Option.some.inj same
      exact ⟨filled, decimal, value, small⟩
    · rintro ⟨filled, decimal, value, small⟩
      exact ⟨n, Net.decimal?_eq_some_iff.mpr ⟨filled, decimal, value⟩, if_pos small⟩
  unfold number?
  rw [bounded]
  split
  next signed =>
    obtain ⟨digits, rfl⟩ := List.head?_eq_some_iff.mp signed
    constructor
    · intro read
      exact ⟨digits, .inr rfl, read⟩
    · rintro ⟨others, rfl | same, filled, decimal, rest⟩
      · exact absurd (decimal '+' List.mem_cons_self) (by decide)
      · obtain rfl := List.tail_eq_of_cons_eq same
        exact ⟨filled, decimal, rest⟩
  next unsigned =>
    constructor
    · intro read
      exact ⟨text, .inl rfl, read⟩
    · rintro ⟨digits, rfl | rfl, read⟩
      · exact read
      · exact absurd rfl unsigned

/-- Digits and signs have no letter case. -/
theorem lower_of_digits {text : String}
    (digits : ∀ c ∈ text.toList, c.isDigit = true ∨ c = '+') : Text.lower text = text := by
  have same : text.toList.map Char.toLower = text.toList := by
    conv_rhs => rw [← List.map_id text.toList]
    apply List.map_congr_left
    intro c member
    rcases digits c member with digit | rfl
    · apply Char.toLower_eq_of_not_isUpper
      intro capital
      simp only [Char.isDigit, Char.isUpper, Bool.and_eq_true, decide_eq_true_eq,
        UInt32.le_iff_toNat_le] at digit capital
      exact absurd (Nat.le_trans capital.1 digit.2) (by decide)
    · rfl
  rw [Text.lower, same, String.ofList_toList]

/-- No word is spelt in digits, so a text has one reading at most. -/
theorem not_digits_of_word {text : String} (word : Text.lower text ∈ yesWords ++ noWords) :
    ¬ ∀ c ∈ text.toList, c.isDigit = true ∨ c = '+' := by
  intro digits
  rw [lower_of_digits digits] at word
  have letters : ∀ word ∈ yesWords ++ noWords,
      (word.toList.all fun c => c.isDigit || c == '+') = false := by decide
  have spelt := letters text word
  rw [List.all_eq_false] at spelt
  obtain ⟨c, member, letter⟩ := spelt
  rcases digits c member with digit | rfl
  · simp [digit] at letter
  · simp at letter

theorem not_word_of_number {text : String} {digits : List Char}
    (spelt : text.toList = digits ∨ text.toList = '+' :: digits)
    (decimal : ∀ c ∈ digits, c.isDigit = true) :
    Text.lower text ∉ yesWords ∧ Text.lower text ∉ noWords := by
  have plain : ∀ c ∈ text.toList, c.isDigit = true ∨ c = '+' := by
    intro c member
    rcases spelt with same | same
    · exact .inl (decimal c (same ▸ member))
    · rw [same] at member
      rcases List.mem_cons.mp member with sign | later
      · exact .inr sign
      · exact .inl (decimal c later)
  constructor
  · intro word
    exact not_digits_of_word (List.mem_append_left _ word) plain
  · intro word
    exact not_digits_of_word (List.mem_append_right _ word) plain

theorem count?_eq_some_iff {text : String} {n : Nat} :
    count? text = some n ↔ Reads text n := by
  have apart : ∀ word ∈ yesWords, word ∉ noWords := by decide
  have unfolded : count? text =
      if Text.lower text ∈ yesWords then some 1
      else if Text.lower text ∈ noWords then some 0
      else number? text.toList := by
    simp only [count?, List.contains_eq_mem, decide_eq_true_eq]
    rfl
  rw [unfolded]
  constructor
  · intro read
    split at read
    next word => exact Option.some.inj read ▸ .yes word
    next =>
      split at read
      next word => exact Option.some.inj read ▸ .no word
      next =>
        obtain ⟨digits, spelt, filled, decimal, rfl, small⟩ := number?_eq_some_iff.mp read
        exact .number spelt filled decimal small
  · intro reads
    cases reads with
    | yes word => rw [if_pos word]
    | no word => rw [if_neg fun other => apart _ other word, if_pos word]
    | number spelt filled decimal small =>
        obtain ⟨notYes, notNo⟩ := not_word_of_number spelt decimal
        rw [if_neg notYes, if_neg notNo]
        exact number?_eq_some_iff.mpr ⟨_, spelt, filled, decimal, rfl, small⟩

/-- A text is the chosen one, or the default when none is chosen. -/
inductive Takes (chosen : String → Prop) (default : String) : String → Prop
  | set {text : String} (choice : chosen text) : Takes chosen default text
  | unset (none : ∀ text, ¬ chosen text) : Takes chosen default default

/-- A count is what the chosen text reads as, or the default when none is chosen. -/
inductive Counts (chosen : String → Prop) (default : Nat) : Nat → Prop
  | set {text : String} {n : Nat} (choice : chosen text) (reads : Reads text n) :
      Counts chosen default n
  | unset (none : ∀ text, ¬ chosen text) : Counts chosen default default

/-- The assignments give a name a text. -/
def Assignments.Gives (all : Assignments) (name text : String) : Prop :=
  all.value? name = some text

theorem Assignments.not_gives {all : Assignments} {name : String}
    (unset : all.value? name = none) (text : String) : ¬ all.Gives name text := by
  intro gives
  rw [Gives, unset] at gives
  cases gives

theorem textAt_eq_iff {default key text : String} {all : Assignments} :
    textAt default key all = text ↔ Takes (all.Gives key) default text := by
  unfold textAt
  cases found : all.value? key with
  | none =>
      constructor
      · rintro rfl
        exact .unset (Assignments.not_gives found)
      · intro takes
        cases takes with
        | set choice => exact absurd choice (Assignments.not_gives found _)
        | unset => rfl
  | some chosen =>
      constructor
      · rintro rfl
        exact .set found
      · intro takes
        cases takes with
        | set choice => exact Option.some.inj (found.symm.trans choice)
        | unset none => exact absurd found (none chosen)

theorem countAt_eq_ok_iff {default n : Nat} {key : String} {all : Assignments} :
    countAt default key all = .ok n ↔ Counts (all.Gives key) default n := by
  unfold countAt
  constructor
  · intro counted
    split at counted
    next unset =>
      cases counted
      exact .unset (Assignments.not_gives unset)
    next text found =>
      split at counted
      next m read =>
        cases counted
        exact .set found (count?_eq_some_iff.mp read)
      next => cases counted
  · intro counts
    cases counts with
    | set choice reads =>
        rw [show all.value? key = some _ from choice]
        simp only [count?_eq_some_iff.mpr reads]
    | unset none =>
        cases found : all.value? key with
        | none => rfl
        | some text => exact absurd found (none text)

/-- The fault of a count that is set to a text that reads as none. -/
def misread (name text : String) : Fault :=
  .config (.wrongType ("string " ++ Text.Quoted.encode text) "an integer" name)

theorem countAt_eq_error_iff {default : Nat} {key : String} {all : Assignments} {fault : Fault} :
    countAt default key all = .error fault ↔
      ∃ text, all.Gives key text ∧ (∀ n, ¬ Reads text n) ∧ fault = misread key text := by
  unfold countAt
  constructor
  · intro refused
    split at refused
    next => cases refused
    next text found =>
      split at refused
      next => cases refused
      next unread =>
        cases refused
        refine ⟨text, found, ?_, rfl⟩
        intro n reads
        rw [count?_eq_some_iff.mpr reads] at unread
        cases unread
  · rintro ⟨text, gives, unread, rfl⟩
    rw [show all.value? key = some text from gives]
    cases read : count? text with
    | none => simp only [read, misread]
    | some n => exact absurd (count?_eq_some_iff.mp read) (unread n)

end Settings

end RouterGate
