/-!
How alike two words are: the share of the letters of each that meet a letter of the other not
too far away, less those that meet in another order. A score is a fraction of natural numbers, so
that nothing is lost to rounding.
-/
namespace RouterGate.Text.Similarity

structure Score where
  numerator : Nat
  denominator : Nat
  deriving DecidableEq, Repr

def Score.atMost (first second : Score) : Bool :=
  first.numerator * second.denominator ≤ second.numerator * first.denominator

/-- The place of the first letter like `c` within a window, among the places that are free. -/
def meeting? (c : Char) (low high : Nat) (word : List Char) (taken : List Nat) : Option Nat :=
  (List.range word.length).find? fun place =>
    low ≤ place && place < high && word[place]? == some c && !taken.contains place

def meetings (second : List Char) (range : Nat) :
    Nat → List Nat → List Char → List Char × List Nat
  | _, taken, [] => ([], taken)
  | place, taken, c :: rest =>
      match meeting? c (place - range) (place + range + 1) second taken with
      | none => meetings second range (place + 1) taken rest
      | some met =>
          let (letters, places) := meetings second range (place + 1) (met :: taken) rest
          (c :: letters, places)

def lettersAt (word : List Char) (places : List Nat) : List Char :=
  (word.zipIdx.filter fun entry => places.contains entry.2).map (·.1)

def score (first second : List Char) : Score :=
  let range := max first.length second.length / 2 - 1
  let (letters, places) := meetings second range 0 [] first
  let met := letters.length
  let displaced :=
    ((letters.zip (lettersAt second places)).filter fun pair => pair.1 != pair.2).length / 2
  if first.isEmpty && second.isEmpty then ⟨1, 1⟩
  else if met = 0 then ⟨0, 1⟩
  else
    ⟨met * met * second.length + met * met * first.length +
        (met - displaced) * first.length * second.length,
      3 * first.length * second.length * met⟩

def areAlike (first second : List Char) : Bool :=
  !(score first second).atMost ⟨7, 10⟩

/-- The word most like `word` among those that are alike at all; the last one of equals. -/
def closest? (word : List Char) (candidates : List (List Char)) : Option (List Char) :=
  (candidates.filter (areAlike word)).foldl
    (fun best candidate =>
      match best with
      | none => some candidate
      | some other =>
          if (score word other).atMost (score word candidate) then some candidate else some other)
    none

end RouterGate.Text.Similarity
