import RouterGate.Gateway.Access
/-!
What is kept under one key. Where the digest has no collision, two identities share a key exactly
if they are the same: one username with one password, or one multiset of cookies.
-/
namespace RouterGate

namespace Verdict

/-- A length that the eight bytes before a part can tell. -/
def IsTellable (bytes : Bytes) : Prop :=
  bytes.length < Nat.pow 256 8

instance (bytes : Bytes) : Decidable (IsTellable bytes) :=
  inferInstanceAs (Decidable (bytes.length < Nat.pow 256 8))

theorem keyOf_inj {first second : Bytes} (same : keyOf first = keyOf second) :
    Digest.sha256 first = Digest.sha256 second :=
  Text.Hex.ofBytes_injective (String.ofList_injective same)

/-- A part whose length stands before it ends where it ends. -/
theorem framed_inj {first second rest others : Bytes} (fits : IsTellable first)
    (fits' : IsTellable second)
    (same : lengthBytes first ++ first ++ rest = lengthBytes second ++ second ++ others) :
    first = second ∧ rest = others := by
  rw [List.append_assoc, List.append_assoc] at same
  obtain ⟨length, parts⟩ := List.append_inj same (by simp [lengthBytes])
  exact List.append_inj parts (Digest.bigEndian_inj fits fits' length)

theorem credentialPreimage_inj {username password otherName otherPassword : String}
    (fits : IsTellable (Bytes.ofString username)) (fits' : IsTellable (Bytes.ofString otherName))
    (same : credentialPreimage username password = credentialPreimage otherName otherPassword) :
    username = otherName ∧ password = otherPassword := by
  simp only [credentialPreimage, List.append_assoc, List.append_cancel_left_eq] at same
  rw [← List.append_assoc, ← List.append_assoc (lengthBytes (Bytes.ofString otherName))] at same
  obtain ⟨names, passwords⟩ := framed_inj fits fits' same
  exact ⟨Bytes.ofString_injective names, Bytes.ofString_injective passwords⟩

theorem flatMap_pairBytes_inj {first second : List String}
    (fits : ∀ pair ∈ first, IsTellable (Bytes.ofString pair))
    (fits' : ∀ pair ∈ second, IsTellable (Bytes.ofString pair))
    (same : first.flatMap pairBytes = second.flatMap pairBytes) : first = second := by
  have ne_nil (pair : String) (rest : Bytes) : pairBytes pair ++ rest ≠ [] := by
    intro impossible
    have lengths := congrArg List.length impossible
    simp [pairBytes, lengthBytes] at lengths
  induction first generalizing second with
  | nil =>
      cases second with
      | nil => rfl
      | cons pair rest => exact absurd same.symm (ne_nil _ _)
  | cons pair rest induction =>
      cases second with
      | nil => exact absurd same (ne_nil _ _)
      | cons other others =>
          rw [List.flatMap_cons, List.flatMap_cons] at same
          obtain ⟨heads, tails⟩ := framed_inj (fits pair List.mem_cons_self)
            (fits' other List.mem_cons_self) same
          rw [Bytes.ofString_injective heads, induction _ _ tails]
          · intro inner member
            exact fits inner (List.mem_cons_of_mem _ member)
          · intro inner member
            exact fits' inner (List.mem_cons_of_mem _ member)

theorem orderedPairs_eq_iff {first second : List Http.Cookie} :
    orderedPairs first = orderedPairs second ↔
      (first.map Http.Cookie.pairText).Perm (second.map Http.Cookie.pairText) := by
  unfold orderedPairs
  constructor
  · intro same
    have sorted := List.mergeSort_perm (first.map Http.Cookie.pairText)
      fun pair other => decide (pair ≤ other)
    rw [same] at sorted
    exact sorted.symm.trans (List.mergeSort_perm _ _)
  -- Ascending lists with the same elements are the same list.
  · intro shuffled
    have ascending (pairs : List String) :
        (pairs.mergeSort fun pair other => decide (pair ≤ other)).Pairwise
          fun pair other => decide (pair ≤ other) = true := by
      apply List.pairwise_mergeSort
      · intro a b c before after
        simp only [decide_eq_true_eq] at before after ⊢
        exact String.le_trans before after
      · intro a b
        simpa using String.le_total a b
    apply List.Perm.eq_of_pairwise _ (ascending _) (ascending _)
    · exact (List.mergeSort_perm _ _).trans (shuffled.trans (List.mergeSort_perm _ _).symm)
    · intro a b _ _ before after
      exact String.le_antisymm (of_decide_eq_true before) (of_decide_eq_true after)

theorem cookiePreimage_inj {first second : List Http.Cookie}
    (fits : ∀ cookie ∈ first, IsTellable (Bytes.ofString cookie.pairText))
    (fits' : ∀ cookie ∈ second, IsTellable (Bytes.ofString cookie.pairText))
    (same : cookiePreimage first = cookiePreimage second) :
    (first.map Http.Cookie.pairText).Perm (second.map Http.Cookie.pairText) := by
  have tellable {cookies : List Http.Cookie}
      (fits : ∀ cookie ∈ cookies, IsTellable (Bytes.ofString cookie.pairText)) :
      ∀ pair ∈ orderedPairs cookies, IsTellable (Bytes.ofString pair) := by
    intro pair member
    rw [orderedPairs, List.mem_mergeSort] at member
    obtain ⟨cookie, present, rfl⟩ := List.mem_map.mp member
    exact fits cookie present
  rw [cookiePreimage, cookiePreimage, List.append_cancel_left_eq] at same
  exact orderedPairs_eq_iff.mp (flatMap_pairBytes_inj (tellable fits) (tellable fits') same)

theorem credentialPreimage_ne_cookiePreimage (username password : String)
    (cookies : List Http.Cookie) :
    credentialPreimage username password ≠ cookiePreimage cookies := by
  intro same
  have prefixes : Bytes.ofString "cred\x00" = [99, 114, 101, 100, 0] ∧
      Bytes.ofString "cookie\x00" = [99, 111, 111, 107, 105, 101, 0] := by decide
  simp [credentialPreimage, cookiePreimage, prefixes] at same

end Verdict

namespace Http.Cookie

def ofPairText? (text : String) : Option Cookie :=
  (Text.cut? '=' text.toList).map fun parts => ⟨String.ofList parts.1, String.ofList parts.2⟩

theorem ofPairText?_pairText {cookie : Cookie} (named : '=' ∉ cookie.name.toList) :
    ofPairText? cookie.pairText = some cookie := by
  have cut : Text.cut? '=' cookie.pairText.toList =
      some (cookie.name.toList, cookie.value.toList) := by
    rw [Text.cut?_eq_some_iff]
    refine ⟨?_, named⟩
    simp [pairText]
  simp [ofPairText?, cut]

theorem filterMap_ofPairText? {cookies : List Cookie}
    (named : ∀ cookie ∈ cookies, '=' ∉ cookie.name.toList) :
    (cookies.map pairText).filterMap ofPairText? = cookies := by
  induction cookies with
  | nil => rfl
  | cons cookie rest induction =>
      rw [List.map_cons, List.filterMap_cons_some
        (ofPairText?_pairText (named cookie List.mem_cons_self)), induction]
      intro inner member
      exact named inner (List.mem_cons_of_mem _ member)

theorem perm_of_pairText_perm {first second : List Cookie}
    (named : ∀ cookie ∈ first, '=' ∉ cookie.name.toList)
    (named' : ∀ cookie ∈ second, '=' ∉ cookie.name.toList)
    (shuffled : (first.map pairText).Perm (second.map pairText)) : first.Perm second := by
  have read := shuffled.filterMap ofPairText?
  rw [filterMap_ofPairText? named, filterMap_ofPairText? named'] at read
  exact read

theorem name_of_mem_presented {headers : Headers} {cookie : Cookie}
    (member : cookie ∈ presented headers) : '=' ∉ cookie.name.toList := by
  obtain ⟨text, -, inText⟩ := List.mem_flatMap.mp member
  obtain ⟨pair, -, read⟩ := List.mem_filterMap.mp inText
  unfold ofPair? at read
  split at read
  next => cases read
  next before after cut =>
    dsimp only at read
    split at read
    next => cases read
    next =>
      cases read
      rw [String.toList_ofList]
      intro inName
      exact (Text.cut?_eq_some_iff.mp cut).2 (Text.mem_of_mem_trim inName)

end Http.Cookie

namespace Presented

/-- The same identity: one username with one password, or one multiset of cookies. -/
def Matches : Presented → Presented → Prop
  | .credentials given, .credentials other => given = other
  | .cookies given, .cookies other => given.Perm other
  | _, _ => False

def preimage : Presented → Bytes
  | .credentials given => Verdict.credentialPreimage given.username given.password
  | .cookies given => Verdict.cookiePreimage given

/-- The lengths that stand in the preimage can be told by eight bytes, as those of all texts in
the memory of a machine can. -/
def Fits : Presented → Prop
  | .credentials given => Verdict.IsTellable (Bytes.ofString given.username)
  | .cookies given => ∀ cookie ∈ given, Verdict.IsTellable (Bytes.ofString cookie.pairText)

def IsNamed : Presented → Prop
  | .credentials _ => True
  | .cookies given => ∀ cookie ∈ given, '=' ∉ cookie.name.toList

theorem key_eq (asked : Presented) : asked.key = Verdict.keyOf asked.preimage := by
  cases asked <;> rfl

theorem fits_of_small {asked : Presented} (small : asked.preimage.length < UInt64.size) :
    asked.Fits := by
  have sizes : UInt64.size = Nat.pow 256 8 := by decide
  rw [sizes] at small
  cases asked with
  | credentials given =>
      simp only [preimage, Verdict.credentialPreimage, List.length_append] at small
      show (Bytes.ofString given.username).length < Nat.pow 256 8
      omega
  | cookies given =>
      intro cookie member
      -- Each pair is a part of the preimage, in whichever place it was sorted to.
      have inOrder : cookie.pairText ∈ Verdict.orderedPairs given :=
        List.mem_mergeSort.mpr (List.mem_map_of_mem member)
      obtain ⟨before, after, order⟩ := List.append_of_mem inOrder
      simp only [preimage, Verdict.cookiePreimage, order, List.flatMap_append, List.flatMap_cons,
        Verdict.pairBytes, List.length_append] at small
      show (Bytes.ofString cookie.pairText).length < Nat.pow 256 8
      omega

theorem isNamed_of_ofHeaders? {headers : Http.Headers} {asked : Presented}
    (presents : ofHeaders? headers = some asked) : asked.IsNamed := by
  unfold ofHeaders? at presents
  split at presents
  next =>
    cases presents
    trivial
  next =>
    split at presents
    next => cases presents
    next first rest cookies =>
      cases presents
      intro cookie member
      rw [← cookies] at member
      exact Http.Cookie.name_of_mem_presented (List.mem_filter.mp member).1

theorem key_eq_of_matches {first second : Presented} (same : first.Matches second) :
    first.key = second.key := by
  cases first with
  | credentials given =>
      cases second with
      | credentials other => rw [show given = other from same]
      | cookies other => cases same
  | cookies given =>
      cases second with
      | credentials other => cases same
      | cookies other =>
          have shuffled : given.Perm other := same
          have ordered := Verdict.orderedPairs_eq_iff.mpr (shuffled.map Http.Cookie.pairText)
          simp only [key, Verdict.cookieKey, Verdict.cookiePreimage, ordered]

theorem matches_of_preimage_eq {first second : Presented} (fits : first.Fits)
    (fits' : second.Fits) (named : first.IsNamed) (named' : second.IsNamed)
    (same : first.preimage = second.preimage) : first.Matches second := by
  cases first with
  | credentials given =>
      cases second with
      | credentials other =>
          obtain ⟨username, password⟩ := given
          obtain ⟨otherName, otherPassword⟩ := other
          obtain ⟨rfl, rfl⟩ := Verdict.credentialPreimage_inj fits fits' same
          rfl
      | cookies other => exact absurd same (Verdict.credentialPreimage_ne_cookiePreimage _ _ _)
  | cookies given =>
      cases second with
      | credentials other =>
          exact absurd same.symm (Verdict.credentialPreimage_ne_cookiePreimage _ _ _)
      | cookies other =>
          exact Http.Cookie.perm_of_pairText_perm named named'
            (Verdict.cookiePreimage_inj fits fits' same)

end Presented

end RouterGate
