import RouterGate.Proofs.Http.Spelling
import RouterGate.Proofs.Verdict.Access
/-!
Which requests share a key. A key stands for what was presented and for nothing else: not for the
order of the cookies, nor for how they are spelt or which header fields they stand in.
-/
namespace RouterGate

namespace Presented

/-- The key under which the verdict on a request is kept, if it presents anything. -/
def keyOf? (headers : Http.Headers) : Option String :=
  (ofHeaders? headers).map key

theorem keyOf?_eq_none_iff {headers : Http.Headers} :
    keyOf? headers = none ↔
      Credentials.presented? headers = none ∧ routerCookies headers = [] := by
  rw [keyOf?, Option.map_eq_none_iff, ofHeaders?]
  cases Credentials.presented? headers with
  | some given => simp
  | none =>
      cases routerCookies headers <;> simp

section Hashed

variable {hashed : Bytes → Prop} (noCollision : Digest.IsCollisionFree hashed)
  (small : ∀ message, hashed message → message.length < UInt64.size)

include noCollision small

theorem key_eq_iff_matches {first second : Presented} (named : first.IsNamed)
    (named' : second.IsNamed) (isHashed : hashed first.preimage)
    (isHashed' : hashed second.preimage) : first.key = second.key ↔ first.Matches second := by
  constructor
  · exact matches_of_same_key noCollision isHashed isHashed' (fits_of_small (small _ isHashed))
      (fits_of_small (small _ isHashed')) named named'
  · exact key_eq_of_matches

theorem exists_key_iff_matches {headers others : Http.Headers}
    (isHashed : ∀ asked, ofHeaders? headers = some asked → hashed asked.preimage)
    (isHashed' : ∀ asked, ofHeaders? others = some asked → hashed asked.preimage) :
    (∃ key, keyOf? headers = some key ∧ keyOf? others = some key) ↔
      ∃ first second, ofHeaders? headers = some first ∧ ofHeaders? others = some second ∧
        first.Matches second := by
  simp only [keyOf?, Option.map_eq_some_iff]
  constructor
  · intro shared
    obtain ⟨_, ⟨first, presents, rfl⟩, second, presents', same⟩ := shared
    refine ⟨first, second, presents, presents', ?_⟩
    exact (key_eq_iff_matches noCollision small (isNamed_of_ofHeaders? presents)
      (isNamed_of_ofHeaders? presents') (isHashed _ presents) (isHashed' _ presents')).mp same.symm
  · intro alike
    obtain ⟨first, second, presents, presents', same⟩ := alike
    exact ⟨first.key, ⟨first, presents, rfl⟩, second, presents', (key_eq_of_matches same).symm⟩

end Hashed

/-- Two requests present the same: one username with one password, or else the same cookies for
the router, in any order. -/
theorem exists_matches_iff {headers others : Http.Headers} :
    (∃ first second, ofHeaders? headers = some first ∧ ofHeaders? others = some second ∧
        first.Matches second) ↔
      (∃ given, Credentials.presented? headers = some given ∧
          Credentials.presented? others = some given) ∨
        (Credentials.presented? headers = none ∧ Credentials.presented? others = none ∧
          routerCookies headers ≠ [] ∧ (routerCookies headers).Perm (routerCookies others)) := by
  constructor
  · intro alike
    obtain ⟨first, second, presents, presents', same⟩ := alike
    rcases ofHeaders?_eq_some_iff.mp presents with ⟨given, found, rfl⟩ | ⟨bare, filled, rfl⟩
    · rcases ofHeaders?_eq_some_iff.mp presents' with ⟨other, found', rfl⟩ | ⟨-, -, rfl⟩
      · obtain rfl : given = other := same
        exact .inl ⟨given, found, found'⟩
      · cases same
    · rcases ofHeaders?_eq_some_iff.mp presents' with ⟨other, -, rfl⟩ | ⟨bare', -, rfl⟩
      · cases same
      · exact .inr ⟨bare, bare', filled, same⟩
  · intro alike
    rcases alike with ⟨given, found, found'⟩ | ⟨bare, bare', filled, shuffled⟩
    · exact ⟨_, _, ofHeaders?_eq_some_iff.mpr (.inl ⟨given, found, rfl⟩),
        ofHeaders?_eq_some_iff.mpr (.inl ⟨given, found', rfl⟩), rfl⟩
    · have filled' : routerCookies others ≠ [] := by
        intro empty
        rw [empty] at shuffled
        exact filled shuffled.eq_nil
      exact ⟨_, _, ofHeaders?_eq_some_iff.mpr (.inr ⟨bare, filled, rfl⟩),
        ofHeaders?_eq_some_iff.mpr (.inr ⟨bare', filled', rfl⟩), shuffled⟩

end Presented

/-- Keys tell apart what is presented. Among messages on which the digest has no collision, two
pairs of a username and a password share a key exactly if they are equal, two lists of cookies
exactly if one is a reordering of the other, and no pair shares a key with cookies. So two requests
share a key exactly if they present the same pair, or present no pair and the same cookies for the
router, some at least; and these are the same in whatever way they are spelt. -/
theorem keys_tell_apart (hashed : Bytes → Prop) (noCollision : Digest.IsCollisionFree hashed)
    (small : ∀ message, hashed message → message.length < UInt64.size) :
    (∀ username password otherName otherPassword : String,
      hashed (Verdict.credentialPreimage username password) →
      hashed (Verdict.credentialPreimage otherName otherPassword) →
      (Verdict.credentialKey username password = Verdict.credentialKey otherName otherPassword ↔
        username = otherName ∧ password = otherPassword)) ∧
    (∀ cookies others : List Http.Cookie,
      (∀ cookie ∈ cookies, '=' ∉ cookie.name.toList) →
      (∀ cookie ∈ others, '=' ∉ cookie.name.toList) →
      hashed (Verdict.cookiePreimage cookies) → hashed (Verdict.cookiePreimage others) →
      (Verdict.cookieKey cookies = Verdict.cookieKey others ↔ cookies.Perm others)) ∧
    (∀ (username password : String) (cookies : List Http.Cookie),
      hashed (Verdict.credentialPreimage username password) →
      hashed (Verdict.cookiePreimage cookies) →
      Verdict.credentialKey username password ≠ Verdict.cookieKey cookies) ∧
    (∀ headers others : Http.Headers,
      (∀ asked, Presented.ofHeaders? headers = some asked → hashed asked.preimage) →
      (∀ asked, Presented.ofHeaders? others = some asked → hashed asked.preimage) →
      ((∃ key, Presented.keyOf? headers = some key ∧ Presented.keyOf? others = some key) ↔
        (∃ given, Credentials.presented? headers = some given ∧
            Credentials.presented? others = some given) ∨
          (Credentials.presented? headers = none ∧ Credentials.presented? others = none ∧
            Presented.routerCookies headers ≠ [] ∧
            (Presented.routerCookies headers).Perm (Presented.routerCookies others)))) ∧
    (∀ headers : Http.Headers, Presented.keyOf? headers = none ↔
      Credentials.presented? headers = none ∧ Presented.routerCookies headers = []) ∧
    ∀ (headers : Http.Headers) (cookies : List Http.Cookie),
      Http.Cookie.Carry cookies (Http.Headers.texts "cookie" headers) →
      Presented.routerCookies headers =
        cookies.filter (·.name != Http.Cookie.sessionName) := by
  have alike (first second : Presented) (named : first.IsNamed) (named' : second.IsNamed)
      (isHashed : hashed first.preimage) (isHashed' : hashed second.preimage) :
      first.key = second.key ↔ first.Matches second :=
    Presented.key_eq_iff_matches noCollision small named named' isHashed isHashed'
  refine ⟨?_, ?_, ?_, ?_, ?_, ?_⟩
  · intro username password otherName otherPassword isHashed isHashed'
    have same : Verdict.credentialKey username password =
          Verdict.credentialKey otherName otherPassword ↔
        (⟨username, password⟩ : Credentials) = ⟨otherName, otherPassword⟩ :=
      alike (.credentials ⟨username, password⟩) (.credentials ⟨otherName, otherPassword⟩)
        trivial trivial isHashed isHashed'
    rw [same, Credentials.mk.injEq]
  · intro cookies others named named' isHashed isHashed'
    exact alike (.cookies cookies) (.cookies others) named named' isHashed isHashed'
  · intro username password cookies isHashed isHashed' same
    rw [Verdict.credentialKey, Verdict.cookieKey] at same
    exact Verdict.credentialPreimage_ne_cookiePreimage username password cookies
      (noCollision _ _ isHashed isHashed' (Verdict.keyOf_inj same))
  · intro headers others isHashed isHashed'
    rw [Presented.exists_key_iff_matches noCollision small isHashed isHashed',
      Presented.exists_matches_iff]
  · intro headers
    exact Presented.keyOf?_eq_none_iff
  · intro headers cookies carry
    rw [Presented.routerCookies, Http.Cookie.presented, carry.flatMap_ofText]

/-- A username and a password that are cut elsewhere have another key; the same cookies in other
fields and between other blanks have the same one. -/
theorem keys_tell_apart_cut_elsewhere :
    let spaced : Http.Headers := [.ofText "cookie" "b=2 ;tt_session=t; a = 1"]
    let divided : Http.Headers := [.ofText "Cookie" "a=1", .ofText "cookie" "b=2"]
    Verdict.credentialKey "ab" "c" ≠ Verdict.credentialKey "a" "bc" ∧
      ∃ key, Presented.keyOf? spaced = some key ∧ Presented.keyOf? divided = some key := by
  intro spaced divided
  let messages : List Bytes := [Verdict.credentialPreimage "ab" "c",
    Verdict.credentialPreimage "a" "bc",
    Bytes.ofString "cookie\x00" ++ ["a=1", "b=2"].flatMap Verdict.pairBytes]
  have sorted : Verdict.orderedPairs [⟨"a", "1"⟩, ⟨"b", "2"⟩] = ["a=1", "b=2"] := by
    apply List.mergeSort_of_pairwise
    decide
  have shuffled : [⟨"b", "2"⟩, ⟨"a", "1"⟩].Perm [(⟨"a", "1"⟩ : Http.Cookie), ⟨"b", "2"⟩] :=
    .swap _ _ _
  have sorted' := Verdict.orderedPairs_eq_iff.mpr (shuffled.map Http.Cookie.pairText)
  have noCollision : ∀ first ∈ messages, ∀ second ∈ messages,
      Digest.sha256 first = Digest.sha256 second → first = second := by decide +kernel
  obtain ⟨credentials, -, -, requests, -, -⟩ := keys_tell_apart (· ∈ messages)
    (fun first second member member' => noCollision first member second member')
    (by decide +kernel)
  constructor
  · intro same
    obtain ⟨impossible, -⟩ := (credentials "ab" "c" "a" "bc" (by simp [messages])
      (by simp [messages])).mp same
    exact absurd impossible (by decide)
  · have presents : Presented.ofHeaders? spaced = some (.cookies [⟨"b", "2"⟩, ⟨"a", "1"⟩]) := by
      rfl
    have presents' : Presented.ofHeaders? divided = some (.cookies [⟨"a", "1"⟩, ⟨"b", "2"⟩]) := by
      rfl
    refine (requests spaced divided ?_ ?_).mpr (.inr ⟨rfl, rfl, by decide, shuffled⟩)
    · intro asked found
      rw [presents] at found
      cases found
      simp [messages, Presented.preimage, Verdict.cookiePreimage, sorted', sorted]
    · intro asked found
      rw [presents'] at found
      cases found
      simp [messages, Presented.preimage, Verdict.cookiePreimage, sorted]

end RouterGate
