import Mathlib.Data.List.Forall2
import RouterGate.Proofs.Router.ReturnedCookies
import RouterGate.Proofs.Http.Respelling
/-!
Cookies that an answer sets, given back and read again. Between the two readers nothing is merged,
split, dropped or moved: each `Set-Cookie` that sets a pair is one cookie of the later request.
-/
namespace RouterGate.Http.Cookie

/-- A pair stands for the cookie with what is before its first mark as a name and what is after as
a value, both without the blanks around them. -/
def StandsFor (pair : String) (cookie : Cookie) : Prop :=
  ∃ before after, pair.toList = before ++ '=' :: after ∧ '=' ∉ before ∧
    cookie.name.toList = Text.trim before ∧ cookie.value.toList = Text.trim after

section Reading

variable {text : List Char} {pair : String} {values : List Bytes} {pairs : List String}

theorem standsFor_of_ofPair? {cookie : Cookie} (read : ofPair? pair.toList = some cookie) :
    StandsFor pair cookie := by
  obtain ⟨before, after, cut, first, -, rfl⟩ := ofPair?_eq_some_iff.mp read
  exact ⟨before, after, cut, first, String.toList_ofList, String.toList_ofList⟩

/-- A name stands at the very beginning of a trimmed pair, so that it cannot be blank. -/
theorem trim_name_ne_nil {name value : List Char} (filled : name ≠ []) (absent : '=' ∉ name)
    (trimmed : Text.trim (name ++ '=' :: value) = name ++ '=' :: value) :
    Text.trim name ≠ [] := by
  intro gone
  have blank := Text.isBlankText_of_trim_eq_nil gone
  have leads : name ++ '=' :: value = '=' :: Text.trimEnd value := by
    calc
      name ++ '=' :: value = Text.trim (name ++ '=' :: value) := trimmed.symm
      _ = Text.trim ('=' :: value) := Text.trim_blanks_append blank _
      _ = '=' :: Text.trimEnd value := Text.trim_append_mark (by decide) [] value
  obtain ⟨c, rest, rfl⟩ := List.exists_cons_of_ne_nil filled
  rw [List.cons_append] at leads
  obtain rfl := (List.cons.inj leads).1
  exact absent List.mem_cons_self

/-- The reader of cookies refuses nothing that was set. -/
theorem Sets.exists_ofPair? (sets : Sets text pair) :
    ∃ cookie, ofPair? pair.toList = some cookie := by
  have trimmed := sets.isSingle.trimmed
  obtain ⟨-, -, -, -, name, value, whole, filled, absent⟩ := sets
  rw [whole] at trimmed ⊢
  exact ⟨_, ofPair?_eq_some_iff.mpr
    ⟨name, value, rfl, absent, trim_name_ne_nil filled absent trimmed, rfl⟩⟩

theorem SetInOrder.forall₂_standsFor (set : SetInOrder values pairs) :
    List.Forall₂ StandsFor pairs ((pairs.map String.toList).filterMap ofPair?) := by
  induction set with
  | none => exact .nil
  | pair read sets later induction =>
      obtain ⟨cookie, reread⟩ := sets.exists_ofPair?
      rw [List.map_cons, List.filterMap_cons_some reread]
      exact .cons (standsFor_of_ofPair? reread) induction
  | nothing without later induction => exact induction

end Reading

/-- One pair is given back for each `Set-Cookie` that sets one, in the order of their arrival, in a
field that can always be sent; who receives it reads one cookie from each pair. -/
theorem returned_cookies_reread (headers : Headers) :
    ∃ pairs, (∀ other, SetBy headers other ↔ other = pairs) ∧
      returned? headers = joined? pairs ∧
      (returned? headers = none ↔ pairs = []) ∧
      ∀ text, returned? headers = some text →
        Header.isLegalValue (Bytes.ofString text) = true ∧
        (text.toList.splitOn ';').map Text.trim = pairs.map String.toList ∧
        ∃ cookies, List.Forall₂ StandsFor pairs cookies ∧
          ∀ before after, presented (before ++ .ofText "cookie" text :: after) =
            presented before ++ cookies ++ presented after := by
  have set := setBy_setPairs headers
  have given := returned?_eq_joined? headers
  refine ⟨setPairs headers, ?_, given, ?_, ?_⟩
  · intro other
    rw [SetBy, setInOrder_iff, setInOrder_iff.mp set, eq_comm]
  · rw [given, joined?_eq_none_iff]
  · intro text returned
    have joined : joined? (setPairs headers) = some text := given.symm.trans returned
    have legal := isLegalValue_returned? headers
    rw [returned, Option.all_some] at legal
    refine ⟨legal, splitOn_joined? set.isSingle joined, _, set.forall₂_standsFor, ?_⟩
    intro before after
    obtain ⟨-, rfl⟩ := joined?_eq_some_iff.mp joined
    have plain : ∀ c ∈ ("; ".intercalate (setPairs headers)).toList,
        Header.isTextChar c = true :=
      isTextChar_of_mem_intercalate fun pair member => isTextChar_of_mem_setPairs member
    rw [presented_append, presented_cons (Header.text?_ofString plain),
      ofText_intercalate fun pair member => (set.isSingle pair member).uncut, List.append_assoc]

theorem returned_cookies_reread_mixed :
    let headers : Headers := [.ofText "set-cookie" "sid=abc; Path=/; HttpOnly",
      .ofText "set-cookie" " =none", .ofText "set-cookie" "garbage; a=b",
      ⟨"set-cookie", [0x61, 0x3D, 0xE9]⟩, .ofText "set-cookie" "\tlang = en =;Secure"]
    returned? headers = some "sid=abc; lang = en =" ∧
      ∃ pairs cookies, SetBy headers pairs ∧ List.Forall₂ StandsFor pairs cookies ∧
        cookies = [⟨"sid", "abc"⟩, ⟨"lang", "en ="⟩] := by
  intro headers
  have returned : returned? headers = some "sid=abc; lang = en =" := by rfl
  obtain ⟨pairs, set, -, -, received⟩ := returned_cookies_reread headers
  obtain ⟨-, -, cookies, stand, read⟩ := received _ returned
  refine ⟨returned, pairs, cookies, (set pairs).mpr rfl, stand, ?_⟩
  have alone : presented [.ofText "cookie" "sid=abc; lang = en ="] = cookies ++ [] := read [] []
  rw [List.append_nil] at alone
  exact alone.symm.trans (by rfl)

end RouterGate.Http.Cookie
