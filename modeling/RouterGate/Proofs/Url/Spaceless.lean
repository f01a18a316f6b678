import RouterGate.Url.Parse
/-!
Addresses of the web hold no spaces: what is read of them is percent-coded, or may not hold any.
-/
namespace RouterGate

def Text.IsSpaceless (text : String) : Prop :=
  ' ' ∉ text.toList

namespace Text.IsSpaceless

theorem of_contains {text : String} (plain : text.toList.contains ' ' = false) :
    IsSpaceless text := by
  intro present
  rw [List.contains_iff_mem.mpr present] at plain
  cases plain

theorem append {first second : String} (left : IsSpaceless first) (right : IsSpaceless second) :
    IsSpaceless (first ++ second) := by
  intro present
  rw [String.toList_append, List.mem_append] at present
  exact present.elim left right

theorem intercalate {separator : String} (between : IsSpaceless separator) {parts : List String}
    (each : ∀ part ∈ parts, IsSpaceless part) : IsSpaceless (separator.intercalate parts) := by
  induction parts with
  | nil => exact List.not_mem_nil
  | cons first others induction =>
      cases others with
      | nil =>
          rw [String.intercalate_singleton]
          exact each first List.mem_cons_self
      | cons second rest =>
          rw [String.intercalate_cons_cons]
          exact ((each first List.mem_cons_self).append between).append
            (induction fun part member => each part (List.mem_cons_of_mem _ member))

theorem of_digits {base : Nat} (large : 1 < base) (n : Nat) :
    IsSpaceless (String.ofList (Nat.toDigits base n)) := by
  have digit (m : Nat) : ' ' ∉ [m.digitChar] := by
    rw [List.mem_singleton]
    exact (Nat.digitChar_ne ' ' (by decide)).symm
  rw [IsSpaceless, String.toList_ofList]
  induction n using Nat.strongRecOn with
  | ind n induction =>
      by_cases small : n < base
      · rw [Nat.toDigits_of_lt_base small]
        exact digit n
      · rw [Nat.toDigits_of_base_le large (Nat.not_lt.mp small), List.mem_append, not_or]
        have less : n / base < n := Nat.div_lt_self (by omega) large
        exact ⟨induction _ less, digit _⟩

theorem toString (n : Nat) : IsSpaceless (ToString.toString n) := by
  have digits := of_digits (by decide : 1 < 10) n
  rw [← Nat.repr_eq_ofList_toDigits] at digits
  exact digits

end Text.IsSpaceless

open Text (IsSpaceless)

namespace Net

theorem isSpaceless_ipv4Text (address : Nat) : IsSpaceless (ipv4Text address) := by
  apply IsSpaceless.intercalate (.of_contains rfl)
  intro part member
  obtain ⟨place, -, rfl⟩ := List.mem_map.mp member
  exact .toString _

theorem isSpaceless_groupsText (groups : List Nat) : IsSpaceless (groupsText groups) := by
  apply IsSpaceless.intercalate (.of_contains rfl)
  intro part member
  obtain ⟨group, -, rfl⟩ := List.mem_map.mp member
  exact .of_digits (by decide) group

theorem isSpaceless_ipv6Text (groups : List Nat) : IsSpaceless (ipv6Text groups) := by
  unfold ipv6Text
  simp only
  split
  · have colons : IsSpaceless "::" := .of_contains rfl
    exact ((isSpaceless_groupsText _).append colons).append (isSpaceless_groupsText _)
  · exact isSpaceless_groupsText groups

end Net

namespace Url

theorem isSpaceless_percentEncode {hidden : Char → Bool} (hides : hidden ' ' = true)
    (s : List Char) : IsSpaceless (String.ofList (percentEncode hidden s)) := by
  rw [IsSpaceless, String.toList_ofList]
  intro present
  obtain ⟨c, -, coded⟩ := List.mem_flatMap.mp present
  split at coded
  next =>
    obtain ⟨b, -, digits⟩ := List.mem_flatMap.mp coded
    have capital : ∀ n, n < 16 → Text.Hex.capitalDigit n ≠ ' ' := by decide
    have small := b.toNat_lt
    simp only [percentByte, List.mem_cons, List.not_mem_nil, or_false] at digits
    rcases digits with impossible | high | low
    · cases impossible
    · exact capital _ (by omega) high.symm
    · exact capital _ (by omega) low.symm
  next shown =>
    cases List.mem_singleton.mp coded
    exact shown hides

variable {hosts : HostMapping}

section Hosts

variable {text : List Char} {name : String}

theorem isSpaceless_readBracketed (read : readBracketed text = .ok name) : IsSpaceless name := by
  unfold readBracketed at read
  split at read
  next =>
    split at read
    next groups _ =>
      cases read
      have opens : IsSpaceless "[" := .of_contains rfl
      have closes : IsSpaceless "]" := .of_contains rfl
      exact (opens.append (Net.isSpaceless_ipv6Text groups)).append closes
    next => cases read
  next => cases read

/-- Whatever the mapping gives is looked at before it is taken for a name. -/
theorem isSpaceless_readDomain {decoded : String} (read : readDomain hosts decoded = .ok name) :
    IsSpaceless name := by
  unfold readDomain at read
  split at read
  next => cases read
  next mapped _ =>
    split at read
    next => cases read
    next =>
      split at read
      next => cases read
      next allowed =>
        split at read
        next =>
          split at read
          next address _ =>
            cases read
            exact Net.isSpaceless_ipv4Text address
          next => cases read
        next =>
          cases read
          rw [IsSpaceless, String.toList_ofList]
          intro present
          exact allowed (List.any_eq_true.mpr ⟨' ', present, by decide⟩)

theorem isSpaceless_readHost (read : readHost hosts text = .ok name) : IsSpaceless name := by
  unfold readHost at read
  split at read
  next => cases read
  next => exact isSpaceless_readBracketed read
  next =>
    split at read
    next => cases read
    next => exact isSpaceless_readDomain read

end Hosts

/-- No part of an address holds a space. -/
structure IsSpaceless (url : Url) : Prop where
  scheme : Text.IsSpaceless url.scheme
  username : Text.IsSpaceless url.username
  password : Text.IsSpaceless url.password
  host : Text.IsSpaceless url.host
  path : ∀ segment ∈ url.path, Text.IsSpaceless segment
  query : ∀ query, url.query = some query → Text.IsSpaceless query
  fragment : ∀ fragment, url.fragment = some fragment → Text.IsSpaceless fragment

namespace IsSpaceless

variable {url : Url} (spaceless : url.IsSpaceless)

include spaceless

theorem userText : Text.IsSpaceless url.userText := by
  unfold Url.userText
  split
  · exact .of_contains rfl
  · refine (spaceless.username.append ?_).append (.of_contains rfl)
    split
    · exact .of_contains rfl
    · exact .append (.of_contains rfl) spaceless.password

theorem pathText : Text.IsSpaceless url.pathText := by
  intro present
  rw [Url.pathText, String.toList_join, List.mem_flatMap] at present
  obtain ⟨part, listed, present⟩ := present
  obtain ⟨segment, member, rfl⟩ := List.mem_map.mp listed
  exact (Text.IsSpaceless.of_contains rfl).append (spaceless.path segment member) present

theorem text : Text.IsSpaceless url.text := by
  have portText : Text.IsSpaceless url.portText := by
    unfold Url.portText
    split
    · exact .of_contains rfl
    · exact .append (.of_contains rfl) (.toString _)
  have queryText : Text.IsSpaceless url.queryText := by
    unfold Url.queryText
    split
    next => exact .of_contains rfl
    next query asked => exact .append (.of_contains rfl) (spaceless.query query asked)
  have fragmentText : Text.IsSpaceless url.fragmentText := by
    unfold Url.fragmentText
    split
    next => exact .of_contains rfl
    next fragment named =>
      exact .append (.of_contains rfl) (spaceless.fragment fragment named)
  exact ((((((spaceless.scheme.append (.of_contains rfl)).append spaceless.userText).append
    spaceless.host).append portText).append spaceless.pathText).append queryText).append
      fragmentText

end IsSpaceless

theorem isSpaceless_of_usualPort? {scheme : String} (isUsual : (usualPort? scheme).isSome = true) :
    Text.IsSpaceless scheme := by
  rw [usualPort?, Option.isSome_map, List.find?_isSome] at isUsual
  obtain ⟨usual, listed, same⟩ := isUsual
  rw [beq_iff_eq] at same
  subst same
  have marks : ∀ usual ∈ usualPorts, usual.1.toList.contains ' ' = false := by decide
  exact .of_contains (marks usual listed)

section Paths

variable {above : List String} (clean : ∀ segment ∈ above, Text.IsSpaceless segment)

include clean

theorem isSpaceless_cons {first : String} (plain : Text.IsSpaceless first) :
    ∀ segment ∈ first :: above, Text.IsSpaceless segment := by
  intro segment member
  rcases List.mem_cons.mp member with rfl | later
  · exact plain
  · exact clean segment later

theorem isSpaceless_tail : ∀ segment ∈ above.tail, Text.IsSpaceless segment :=
  fun segment member => clean segment (List.mem_of_mem_tail member)

theorem isSpaceless_descend (parts : List (List Char)) :
    ∀ segment ∈ descend above parts, Text.IsSpaceless segment := by
  have coded (part : List Char) : Text.IsSpaceless (segmentText part) :=
    isSpaceless_percentEncode rfl part
  induction parts generalizing above with
  | nil => exact clean
  | cons part others induction =>
      cases others with
      | nil =>
          rw [descend]
          split
          · exact isSpaceless_cons (isSpaceless_tail clean) (.of_contains rfl)
          · split
            · exact isSpaceless_cons clean (.of_contains rfl)
            · exact isSpaceless_cons clean (coded part)
      | cons second rest =>
          rw [descend]
          · split
            · exact induction (isSpaceless_tail clean)
            · split
              · exact induction clean
              · exact induction (isSpaceless_cons clean (coded part))
          · exact List.cons_ne_nil second rest

theorem isSpaceless_pathUnder (s : List Char) :
    ∀ segment ∈ pathUnder above s, Text.IsSpaceless segment := by
  intro segment member
  rw [pathUnder, List.mem_reverse] at member
  apply isSpaceless_descend _ _ segment member
  intro other listed
  exact clean other (List.mem_reverse.mp listed)

end Paths

section Tails

variable (s : List Char)

theorem isSpaceless_cutTail_query :
    ∀ query, (cutTail s).query = some query → Text.IsSpaceless query := by
  intro query cut
  obtain ⟨text, -, rfl⟩ := Option.map_eq_some_iff.mp cut
  exact isSpaceless_percentEncode rfl text

theorem isSpaceless_cutTail_fragment :
    ∀ fragment, (cutTail s).fragment = some fragment → Text.IsSpaceless fragment := by
  intro fragment cut
  obtain ⟨text, -, rfl⟩ := Option.map_eq_some_iff.mp cut
  exact isSpaceless_percentEncode rfl text

end Tails

theorem isSpaceless_withAuthority {scheme : String} (usual : Text.IsSpaceless scheme)
    {s : List Char} {url : Url} (read : withAuthority hosts scheme s = .ok url) :
    url.IsSpaceless := by
  unfold withAuthority at read
  simp only [bind, Except.bind, pure, Except.pure] at read
  split at read
  next => cases read
  next name named =>
    split at read
    next => cases read
    next port _ =>
      cases read
      exact ⟨usual, isSpaceless_percentEncode rfl _, isSpaceless_percentEncode rfl _,
        isSpaceless_readHost named, isSpaceless_pathUnder (by simp) _,
        isSpaceless_cutTail_query _, isSpaceless_cutTail_fragment _⟩

theorem isSpaceless_beside {base : Url} (spaceless : base.IsSpaceless) (s : List Char) :
    (relative.beside base s).IsSpaceless := by
  unfold relative.beside
  simp only
  split
  · refine ⟨spaceless.scheme, spaceless.username, spaceless.password, spaceless.host,
      spaceless.path, ?_, isSpaceless_cutTail_fragment s⟩
    intro query asked
    simp only at asked
    split at asked
    next => exact isSpaceless_cutTail_query s query asked
    next => exact spaceless.query query asked
  · refine ⟨spaceless.scheme, spaceless.username, spaceless.password, spaceless.host, ?_,
      isSpaceless_cutTail_query s, isSpaceless_cutTail_fragment s⟩
    simp only
    split
    · exact isSpaceless_pathUnder (by simp) _
    · apply isSpaceless_pathUnder
      intro segment member
      exact spaceless.path segment ((List.dropLast_sublist _).subset member)

theorem isSpaceless_relative {base url : Url} (spaceless : base.IsSpaceless) {s : List Char}
    (read : relative hosts base s = .ok url) : url.IsSpaceless := by
  unfold relative at read
  split at read
  next =>
    split at read
    next => exact isSpaceless_withAuthority spaceless.scheme read
    next =>
      cases read
      exact isSpaceless_beside spaceless _
  next =>
    cases read
    exact isSpaceless_beside spaceless _

theorem eq_other_of_other {whole rest : List Char} {scheme : String} {address : Address}
    (read : other hosts whole scheme rest = .ok address) :
    address = .other (String.ofList whole) := by
  unfold other at read
  generalize (if scheme == "file" then checkFile hosts rest else checkOther rest) = checked at read
  cases checked with
  | error defect => cases read
  | ok _ =>
      cases read
      rfl

theorem isSpaceless_of_map {read : Except Defect Url} {url : Url}
    (spaceless : ∀ found, read = .ok found → found.IsSpaceless)
    (same : read.map .web = .ok (Address.web url)) : url.IsSpaceless := by
  cases read with
  | error defect => cases same
  | ok found =>
      cases same
      exact spaceless _ rfl

theorem isSpaceless_parse {text : String} {url : Url}
    (parsed : parse hosts text = .ok (.web url)) : url.IsSpaceless := by
  unfold parse at parsed
  simp only at parsed
  split at parsed
  next => cases parsed
  next scheme rest named =>
    split at parsed
    next usual =>
      refine isSpaceless_of_map ?_ parsed
      intro found read
      exact isSpaceless_withAuthority (isSpaceless_of_usualPort? usual) read
    next => cases eq_other_of_other parsed

theorem isSpaceless_join {base url : Url} (spaceless : base.IsSpaceless) {reference : String}
    (joined : join hosts base reference = .ok (.web url)) : url.IsSpaceless := by
  have ofRelative {s : List Char}
      (same : (relative hosts base s).map .web = .ok (Address.web url)) : url.IsSpaceless :=
    isSpaceless_of_map (fun found read => isSpaceless_relative spaceless read) same
  unfold join at joined
  simp only at joined
  split at joined
  next => exact ofRelative joined
  next scheme rest named =>
    split at joined
    next usual =>
      split at joined
      next => exact ofRelative joined
      next =>
        refine isSpaceless_of_map ?_ joined
        intro found read
        exact isSpaceless_withAuthority (isSpaceless_of_usualPort? usual) read
    next => cases eq_other_of_other joined

section Cleaned

variable {outer keeps : Char → Bool} {s rest : List Char} {c : Char}

theorem not_of_dropWhile (same : s.dropWhile outer = c :: rest) : outer c = false := by
  have stops := List.head?_dropWhile_not outer s
  rw [same] at stops
  exact stops

theorem dropWhile_filter (kept : ∀ c, outer c = false → keeps c = true)
    (starts : ∀ c rest, s = c :: rest → outer c = false) :
    (s.filter keeps).dropWhile outer = s.filter keeps := by
  cases s with
  | nil => rfl
  | cons c rest =>
      have stops := starts c rest rfl
      rw [List.filter_cons_of_pos (kept c stops), List.dropWhile_cons_of_neg]
      rw [stops]
      exact Bool.false_ne_true

/-- What is left when both ends are taken off starts as it did after the first of them. -/
theorem not_of_stripped
    (same : ((s.dropWhile outer).reverse.dropWhile outer).reverse = c :: rest) :
    outer c = false := by
  have early : ((s.dropWhile outer).reverse.dropWhile outer).reverse <+: s.dropWhile outer := by
    rw [← List.reverse_suffix, List.reverse_reverse]
    exact List.dropWhile_suffix outer
  obtain ⟨others, whole⟩ := early
  rw [same, List.cons_append] at whole
  exact not_of_dropWhile whole.symm

theorem cleaned_cleaned (s : List Char) : cleaned (cleaned s) = cleaned s := by
  have kept : ∀ c : Char, decide (c.toNat ≤ 0x20) = false →
      (c != '\t' && c != '\n' && c != '\r') = true := by
    intro c large
    have shown := of_decide_eq_false large
    simp only [Bool.and_eq_true, bne_iff_ne]
    refine ⟨⟨?_, ?_⟩, ?_⟩
    all_goals
      intro same
      subst same
      exact shown (by decide)
  unfold cleaned
  simp only
  rw [dropWhile_filter kept fun c rest same => not_of_stripped same, ← List.filter_reverse,
    List.reverse_reverse, dropWhile_filter kept fun c rest same => not_of_dropWhile same,
    ← List.filter_reverse, List.filter_filter]
  simp only [Bool.and_self]

end Cleaned

theorem map_web_ne_other (read : Except Defect Url) (text : String) :
    read.map .web ≠ .ok (Address.other text) := by
  intro same
  cases read with
  | error defect => cases same
  | ok found => cases same

/-- What is no address of the web is none either when it is read again. -/
theorem parse_of_join_other {base : Url} {reference text : String}
    (joined : join hosts base reference = .ok (.other text)) (url : Url) :
    parse hosts text ≠ .ok (.web url) := by
  intro parsed
  unfold join at joined
  simp only at joined
  split at joined
  next => exact map_web_ne_other _ _ joined
  next scheme rest named =>
    split at joined
    next =>
      split at joined
      next => exact map_web_ne_other _ _ joined
      next => exact map_web_ne_other _ _ joined
    next unusual =>
      cases eq_other_of_other joined
      unfold parse at parsed
      simp only [String.toList_ofList, cleaned_cleaned, named, unusual] at parsed
      cases eq_other_of_other parsed

end Url

end RouterGate
