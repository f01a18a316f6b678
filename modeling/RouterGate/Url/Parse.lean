import RouterGate.Url.Basic
import RouterGate.Text.Ascii
/-!
Reading addresses: whole ones, and references that are resolved against an address.
-/
namespace RouterGate.Url

/-- An address is one of the web, with all its parts, or of another scheme, kept as text. -/
inductive Address where
  | web (url : Url)
  | other (text : String)
  deriving DecidableEq, Repr

def Address.text : Address → String
  | .web url => url.text
  | .other text => text

/-- Controls and spaces at both ends and line breaks and tabs anywhere are passed over. -/
def cleaned (s : List Char) : List Char :=
  let outer (c : Char) : Bool := c.toNat ≤ 0x20
  let inner := ((s.dropWhile outer).reverse.dropWhile outer).reverse
  inner.filter fun c => c != '\t' && c != '\n' && c != '\r'

def isSchemeChar (c : Char) : Bool :=
  c.isAlphanum || c == '+' || c == '-' || c == '.'

def scheme? (s : List Char) : Option (String × List Char) :=
  match s with
  | [] => none
  | first :: _ =>
      let (name, rest) := s.span isSchemeChar
      match first.isAlpha, rest with
      | true, ':' :: after => some (String.ofList (name.map Char.toLower), after)
      | _, _ => none

def isSlash (c : Char) : Bool :=
  c == '/' || c == '\\'

def endsAuthority (c : Char) : Bool :=
  isSlash c || c == '?' || c == '#'

/-- The user part ends at the last at sign. -/
def cutUser (s : List Char) : List Char × List Char :=
  let hostReversed := s.reverse.takeWhile (· != '@')
  if hostReversed.length = s.length then ([], s)
  else (s.take (s.length - hostReversed.length - 1), hostReversed.reverse)

/-- The host ends at the first colon that is not inside brackets. -/
def cutHost (bracketed : Bool) : List Char → List Char × List Char
  | [] => ([], [])
  | c :: rest =>
      if c = ':' ∧ bracketed = false then ([], c :: rest)
      else
        let inside := if c = '[' then true else if c = ']' then false else bracketed
        let parts := cutHost inside rest
        (c :: parts.1, parts.2)

/-- The port after its colon; none when it is missing or the usual one of the scheme. -/
def readPort (scheme : String) : List Char → Except Defect (Option Nat)
  | [] => .ok none
  | [_] => .ok none
  | _ :: digits =>
      match Net.decimal? digits with
      | some n =>
          if n > 65535 then .error .badPort
          else .ok (if usualPort? scheme = some n then none else some n)
      | none => .error .badPort

def isSingleDot (segment : List Char) : Bool :=
  let s := segment.map Char.toLower
  s == ['.'] || s == ['%', '2', 'e']

def isDoubleDot (segment : List Char) : Bool :=
  let s := segment.map Char.toLower
  s == ['.', '.'] || s == ['.', '%', '2', 'e'] || s == ['%', '2', 'e', '.'] ||
    s == ['%', '2', 'e', '%', '2', 'e']

def segmentText (segment : List Char) : String :=
  String.ofList (percentEncode hiddenInPath segment)

/-- Segments added to the ones above, the latest first: a dot stays, two dots go up. -/
def descend : List String → List (List Char) → List String
  | above, [] => above
  | above, [last] =>
      if isDoubleDot last then "" :: above.tail
      else if isSingleDot last then "" :: above
      else segmentText last :: above
  | above, segment :: others =>
      if isDoubleDot segment then descend above.tail others
      else if isSingleDot segment then descend above others
      else descend (segmentText segment :: above) others

def slashed (s : List Char) : List (List Char) :=
  Text.fields '/' (s.map fun c => if c = '\\' then '/' else c)

def pathUnder (above : List String) (s : List Char) : List String :=
  (descend above.reverse (slashed s)).reverse

structure Tail where
  path : List Char
  query : Option String
  fragment : Option String

def cutTail (s : List Char) : Tail :=
  let (beforeFragment, fragment) := match Text.cut? '#' s with
    | none => (s, none)
    | some (before, after) => (before, some after)
  let (path, query) := match Text.cut? '?' beforeFragment with
    | none => (beforeFragment, none)
    | some (before, after) => (before, some after)
  { path := path
    query := query.map fun q => String.ofList (percentEncode hiddenInQuery q)
    fragment := fragment.map fun f => String.ofList (percentEncode hiddenInFragment f) }

def withAuthority (hosts : HostMapping) (scheme : String) (s : List Char) : Except Defect Url := do
  let (authority, rest) := s.span fun c => !endsAuthority c
  let (user, hostAndPort) := cutUser authority
  let (hostPart, portPart) := cutHost false hostAndPort
  let name ← readHost hosts hostPart
  let portNumber ← readPort scheme portPart
  let (userName, passWord) := match Text.cut? ':' user with
    | none => (user, [])
    | some parts => parts
  let tail := cutTail rest
  return {
    scheme := scheme
    username := String.ofList (percentEncode hiddenInUser userName)
    password := String.ofList (percentEncode hiddenInUser passWord)
    host := name
    port := portNumber
    path := pathUnder [] (tail.path.drop 1)
    query := tail.query
    fragment := tail.fragment }

def checkOther (s : List Char) : Except Defect Unit :=
  match s with
  | '/' :: '/' :: rest => do
      let authority := rest.takeWhile fun c => c != '/' && c != '?' && c != '#'
      let (hostPart, portPart) := cutHost false (cutUser authority).2
      if hostPart.isEmpty && !portPart.isEmpty then throw .emptyHost
      readOpaqueHost hostPart
      let _ ← readPort "" portPart
  | _ => .ok ()

def checkFile (hosts : HostMapping) (s : List Char) : Except Defect Unit :=
  match s with
  | a :: b :: rest =>
      if isSlash a && isSlash b then
        let hostPart := rest.takeWhile fun c => !endsAuthority c
        let isDrive := match hostPart with
          | [letter, mark] => letter.isAlpha && (mark == ':' || mark == '|')
          | _ => false
        if hostPart.isEmpty || isDrive then .ok () else (readHost hosts hostPart).map fun _ => ()
      else .ok ()
  | _ => .ok ()

def other (hosts : HostMapping) (whole : List Char) (scheme : String) (rest : List Char) :
    Except Defect Address :=
  (if scheme == "file" then checkFile hosts rest else checkOther rest).map fun _ =>
    .other (String.ofList whole)

def relative (hosts : HostMapping) (base : Url) (s : List Char) : Except Defect Url :=
  match s with
  | a :: b :: rest =>
      if isSlash a && isSlash b then withAuthority hosts base.scheme (rest.dropWhile isSlash)
      else .ok (beside (a :: b :: rest))
  | _ => .ok (beside s)
where
  beside (s : List Char) : Url :=
    let tail := cutTail s
    match tail.path with
    | [] =>
        { base with
          query := if tail.query.isSome then tail.query else base.query
          fragment := tail.fragment }
    | c :: rest =>
        { base with
          path := if isSlash c then pathUnder [] rest else pathUnder base.path.dropLast (c :: rest)
          query := tail.query
          fragment := tail.fragment }

def parse (hosts : HostMapping) (s : String) : Except Defect Address :=
  let text := cleaned s.toList
  match scheme? text with
  | none => .error .relativeWithoutBase
  | some (scheme, rest) =>
      if (usualPort? scheme).isSome then
        (withAuthority hosts scheme (rest.dropWhile isSlash)).map .web
      else other hosts text scheme rest

def join (hosts : HostMapping) (base : Url) (reference : String) : Except Defect Address :=
  let text := cleaned reference.toList
  match scheme? text with
  | none => (relative hosts base text).map .web
  | some (scheme, rest) =>
      if (usualPort? scheme).isSome then
        if scheme == base.scheme && (rest.takeWhile isSlash).length < 2 then
          (relative hosts base rest).map .web
        else (withAuthority hosts scheme (rest.dropWhile isSlash)).map .web
      else other hosts text scheme rest

end RouterGate.Url
