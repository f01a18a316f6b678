import RouterGate.Proofs.Settings.Counts
import RouterGate.Proofs.Settings.Layers
/-!
Settings as they are loaded. Each one is what its variable says, else what the file says last,
else its default, and no other name plays a part.
-/
namespace RouterGate.Settings

/-- The text that a setting is taken from: that of its variable, which may be empty, else that of
the last line for it. -/
inductive IsChosen (file : Option String) (environment : List (String × String)) (name : String) :
    String → Prop
  | ofVariable {key : List Char} {text : String}
      (set : (key, text) ∈ variableEntries environment)
      (named : Text.sameIgnoringCase key name.toList) :
      IsChosen file environment name text
  | ofLine {value : List Char}
      (unset : ∀ entry ∈ variableEntries environment,
        ¬ Text.sameIgnoringCase entry.1 name.toList)
      (last : SetsLast (Text.lines (file.getD "").toList) name.toList value) :
      IsChosen file environment name (String.ofList value)

/-- All names that are set are plain, in the file and in the environment, and no two variables
differ in letter case only. -/
structure PlainNames (file : Option String) (environment : List (String × String)) : Prop where
  inFile : ∀ line ∈ Text.lines (file.getD "").toList, ∀ key value,
    Sets line key value → IsPlain key
  inEnvironment : ∀ entry ∈ variableEntries environment, IsPlain entry.1
  distinct : (variableEntries environment).Pairwise fun one other =>
    ¬ Text.sameIgnoringCase one.1 other.1

/-- The settings that are chosen, each apart from the others. -/
structure Follows (settings : Settings) (chosen : String → String → Prop) : Prop where
  listenAddr : Takes (chosen "listen_addr") ":8080" settings.listenAddr
  authMode : Takes (chosen "auth_mode") "" settings.authMode
  username : Takes (chosen "username") "admin" settings.username
  password : Takes (chosen "password") "" settings.password
  rciUrl : Takes (chosen "rci_url") "http://localhost:79" settings.rciUrl
  sessionTtlSecs : Counts (chosen "session_ttl_secs") 86400 settings.sessionTtlSecs
  cacheTtlSecs : Counts (chosen "cache_ttl_secs") 30 settings.cacheTtlSecs
  reapIntervalSecs : Counts (chosen "reap_interval_secs") 600 settings.reapIntervalSecs
  routerTimeoutSecs : Counts (chosen "router_timeout_secs") 5 settings.routerTimeoutSecs
  delegation : Takes (chosen "delegation") "session" settings.delegation

theorem Follows.of_same {settings : Settings} {first second : String → String → Prop}
    (follows : settings.Follows first) (same : ∀ name ∈ names, first name = second name) :
    settings.Follows second where
  listenAddr := same "listen_addr" (by decide) ▸ follows.listenAddr
  authMode := same "auth_mode" (by decide) ▸ follows.authMode
  username := same "username" (by decide) ▸ follows.username
  password := same "password" (by decide) ▸ follows.password
  rciUrl := same "rci_url" (by decide) ▸ follows.rciUrl
  sessionTtlSecs := same "session_ttl_secs" (by decide) ▸ follows.sessionTtlSecs
  cacheTtlSecs := same "cache_ttl_secs" (by decide) ▸ follows.cacheTtlSecs
  reapIntervalSecs := same "reap_interval_secs" (by decide) ▸ follows.reapIntervalSecs
  routerTimeoutSecs := same "router_timeout_secs" (by decide) ▸ follows.routerTimeoutSecs
  delegation := same "delegation" (by decide) ▸ follows.delegation

def countNames : List String :=
  ["session_ttl_secs", "cache_ttl_secs", "reap_interval_secs", "router_timeout_secs"]

theorem Follows.counts {settings : Settings} {chosen : String → String → Prop}
    (follows : settings.Follows chosen) {name : String} (member : name ∈ countNames) :
    ∃ default n, Counts (chosen name) default n := by
  simp only [countNames, List.mem_cons, List.not_mem_nil, or_false] at member
  rcases member with rfl | rfl | rfl | rfl
  · exact ⟨_, _, follows.sessionTtlSecs⟩
  · exact ⟨_, _, follows.cacheTtlSecs⟩
  · exact ⟨_, _, follows.reapIntervalSecs⟩
  · exact ⟨_, _, follows.routerTimeoutSecs⟩

theorem bind_eq_ok_iff {α β : Type} {first : Except Fault α} {next : α → Except Fault β} {b : β} :
    (first >>= next) = .ok b ↔ ∃ a, first = .ok a ∧ next a = .ok b := by
  cases first with
  | error fault => simp [bind, Except.bind]
  | ok a => simp [bind, Except.bind]

theorem bind_eq_error_iff {α β : Type} {first : Except Fault α} {next : α → Except Fault β}
    {fault : Fault} :
    (first >>= next) = .error fault ↔
      first = .error fault ∨ ∃ a, first = .ok a ∧ next a = .error fault := by
  cases first with
  | error fault => simp [bind, Except.bind]
  | ok a => simp [bind, Except.bind]

theorem ofAssignments_eq_ok_iff {all : Assignments} {settings : Settings} :
    ofAssignments all = .ok settings ↔ settings.Follows all.Gives := by
  simp only [ofAssignments, bind_eq_ok_iff, countAt_eq_ok_iff]
  constructor
  · rintro ⟨sessionTtl, session, cacheTtl, cache, reapInterval, reap, routerTimeout, router, made⟩
    cases made
    exact
      { listenAddr := textAt_eq_iff.mp rfl, authMode := textAt_eq_iff.mp rfl,
        username := textAt_eq_iff.mp rfl, password := textAt_eq_iff.mp rfl,
        rciUrl := textAt_eq_iff.mp rfl, sessionTtlSecs := session, cacheTtlSecs := cache,
        reapIntervalSecs := reap, routerTimeoutSecs := router,
        delegation := textAt_eq_iff.mp rfl }
  · intro follows
    refine ⟨_, follows.sessionTtlSecs, _, follows.cacheTtlSecs, _, follows.reapIntervalSecs, _,
      follows.routerTimeoutSecs, congrArg Except.ok ?_⟩
    cases settings
    congr 1
    · exact textAt_eq_iff.mpr follows.listenAddr
    · exact textAt_eq_iff.mpr follows.authMode
    · exact textAt_eq_iff.mpr follows.username
    · exact textAt_eq_iff.mpr follows.password
    · exact textAt_eq_iff.mpr follows.rciUrl
    · exact textAt_eq_iff.mpr follows.delegation

/-- A refusal is that of one count. -/
theorem misread_of_ofAssignments {all : Assignments} {fault : Fault}
    (refused : ofAssignments all = .error fault) :
    ∃ name ∈ countNames, ∃ text, all.Gives name text ∧ (∀ n, ¬ Reads text n) ∧
      fault = misread name text := by
  simp only [ofAssignments, bind_eq_error_iff, countAt_eq_error_iff] at refused
  rcases refused with session | ⟨_, -, cache | ⟨_, -, reap | ⟨_, -, router | ⟨_, -, made⟩⟩⟩⟩
  · exact ⟨"session_ttl_secs", by decide, session⟩
  · exact ⟨"cache_ttl_secs", by decide, cache⟩
  · exact ⟨"reap_interval_secs", by decide, reap⟩
  · exact ⟨"router_timeout_secs", by decide, router⟩
  · cases made

theorem ofAssignments_refused {all : Assignments} {name text : String}
    (member : name ∈ countNames) (gives : all.Gives name text) (unread : ∀ n, ¬ Reads text n) :
    ∃ fault, ofAssignments all = .error fault := by
  cases made : ofAssignments all with
  | error fault => exact ⟨fault, rfl⟩
  | ok settings =>
      obtain ⟨default, n, counts⟩ := (ofAssignments_eq_ok_iff.mp made).counts member
      cases counts with
      | set choice reads =>
          cases choice.symm.trans gives
          exact absurd reads (unread n)
      | unset none => exact absurd gives (none text)

/-- Only the names of settings are looked up. -/
theorem ofAssignments_congr {first second : Assignments}
    (same : ∀ name ∈ names, first.value? name = second.value? name) :
    ofAssignments first = ofAssignments second := by
  have text (default : String) {name : String} (member : name ∈ names) :
      textAt default name first = textAt default name second := by
    rw [textAt, same name member, textAt]
  have count (default : Nat) {name : String} (member : name ∈ names) :
      countAt default name first = countAt default name second := by
    rw [countAt, same name member, countAt]
  unfold ofAssignments
  rw [count _ (by decide), count _ (by decide), count _ (by decide), count _ (by decide),
    text _ (by decide), text _ (by decide), text _ (by decide), text _ (by decide),
    text _ (by decide), text _ (by decide)]

/-- The entries of the lines are plain as the names that the lines set are. -/
theorem plain_entries_iff {lines : List (List Char)} :
    (∀ entry ∈ lines.filterMap entry?, IsPlain entry.1) ↔
      ∀ line ∈ lines, ∀ key value, Sets line key value → IsPlain key := by
  constructor
  · intro plain line member key value sets
    exact plain (key, value) (List.mem_filterMap.mpr ⟨line, member, entry?_eq_some_iff.mpr sets⟩)
  · intro plain entry member
    obtain ⟨line, known, read⟩ := List.mem_filterMap.mp member
    exact plain line known entry.1 entry.2 (entry?_eq_some_iff.mp read)

theorem isChosen_iff {file : Option String} {environment : List (String × String)}
    (plain : PlainNames file environment) {name text : String} :
    (last? name.toList (variableEntries environment)).or
        ((last? name.toList ((Text.lines (file.getD "").toList).filterMap entry?)).map
          String.ofList) = some text ↔
      IsChosen file environment name text := by
  constructor
  · intro found
    cases set : last? name.toList (variableEntries environment) with
    | some value =>
        rw [set, Option.some_or] at found
        cases found
        obtain ⟨key, member, named⟩ := mem_of_last? set
        exact .ofVariable member named
    | none =>
        rw [set, Option.none_or] at found
        obtain ⟨value, last, rfl⟩ := Option.map_eq_some_iff.mp found
        exact .ofLine (last?_eq_none_iff.mp set) (last?_eq_some_iff.mp last)
  · intro chosen
    cases chosen with
    | ofVariable member named => rw [last?_of_mem plain.distinct member named, Option.some_or]
    | ofLine unset last =>
        rw [last?_eq_none_iff.mpr unset, Option.none_or, last?_eq_some_iff.mpr last,
          Option.map_some]

theorem load_eq {file : Option String} {environment : List (String × String)}
    (plain : PlainNames file environment) :
    ∃ all, load file environment = ofAssignments all ∧
      ∀ name ∈ names, all.Gives name = IsChosen file environment name := by
  have inFile : ∀ entry ∈ ((Text.lines (file.getD "").toList).filterMap entry?).map fun entry =>
      (entry.1, String.ofList entry.2), IsPlain entry.1 := by
    intro entry member
    obtain ⟨old, known, rfl⟩ := List.mem_map.mp member
    exact plain_entries_iff.mpr plain.inFile old known
  obtain ⟨all, merges, values⟩ := merged_of_folded (isFolded_of_mem_folded inFile)
    (isFolded_of_mem_folded plain.inEnvironment)
  refine ⟨all, ?_, ?_⟩
  · rw [load, assignments_eq, ofVariables_eq plain.inEnvironment, merges]
    rfl
  · intro name member
    have small : Text.lower name = name := by
      revert name
      decide
    funext text
    rw [Assignments.Gives, values, value?_folded small, value?_folded small, last?_map,
      isChosen_iff plain]

/-- When all names that are set are plain, the settings are made of the chosen texts, and of the
defaults where none is chosen. They are refused exactly when a count is set to a text that reads
as none, with a fault that tells this count, and names that are no setting play no part. -/
theorem load_layers (file : Option String) (environment : List (String × String))
    (plain : PlainNames file environment) :
    (∀ settings, load file environment = .ok settings ↔
      settings.Follows (IsChosen file environment)) ∧
    ((∃ fault, load file environment = .error fault) ↔
      ∃ name ∈ countNames, ∃ text, IsChosen file environment name text ∧
        ∀ n, ¬ Reads text n) ∧
    (∀ fault, load file environment = .error fault →
      ∃ name ∈ countNames, ∃ text, IsChosen file environment name text ∧
        (∀ n, ¬ Reads text n) ∧ fault = misread name text) ∧
    ∀ otherFile otherEnvironment, PlainNames otherFile otherEnvironment →
      (∀ name ∈ names, ∀ text,
        IsChosen otherFile otherEnvironment name text ↔ IsChosen file environment name text) →
      load otherFile otherEnvironment = load file environment := by
  obtain ⟨all, loaded, gives⟩ := load_eq plain
  have known : ∀ name ∈ countNames, name ∈ names := by decide
  have told (fault : Fault) (refused : load file environment = .error fault) :
      ∃ name ∈ countNames, ∃ text, IsChosen file environment name text ∧
        (∀ n, ¬ Reads text n) ∧ fault = misread name text := by
    obtain ⟨name, member, text, given, unread, same⟩ :=
      misread_of_ofAssignments (loaded.symm.trans refused)
    exact ⟨name, member, text, gives name (known name member) ▸ given, unread, same⟩
  refine ⟨?_, ⟨?_, ?_⟩, told, ?_⟩
  · intro settings
    rw [loaded, ofAssignments_eq_ok_iff]
    constructor
    · intro follows
      exact follows.of_same gives
    · intro follows
      exact follows.of_same fun name member => (gives name member).symm
  · rintro ⟨fault, refused⟩
    obtain ⟨name, member, text, chosen, unread, -⟩ := told fault refused
    exact ⟨name, member, text, chosen, unread⟩
  · rintro ⟨name, member, text, chosen, unread⟩
    rw [← gives name (known name member)] at chosen
    rw [loaded]
    exact ofAssignments_refused member chosen unread
  · intro otherFile otherEnvironment otherPlain same
    obtain ⟨others, otherLoaded, otherGives⟩ := load_eq otherPlain
    rw [loaded, otherLoaded]
    apply ofAssignments_congr
    intro name member
    apply Option.ext
    intro text
    show others.Gives name text ↔ all.Gives name text
    rw [otherGives name member, gives name member]
    exact same name member text

/-- An empty variable stands before a line of the file, in any letter case of both. -/
theorem load_layers_overridden :
    PlainNames (some "Password=\"abc\"\nCACHE_TTL_SECS=On\nPORT=1\n")
      [("tt_PASSWORD", ""), ("HOME", "/root")] ∧
    load (some "Password=\"abc\"\nCACHE_TTL_SECS=On\nPORT=1\n")
      [("tt_PASSWORD", ""), ("HOME", "/root")] = .ok { password := "", cacheTtlSecs := 1 } ∧
    Follows { password := "", cacheTtlSecs := 1 }
      (IsChosen (some "Password=\"abc\"\nCACHE_TTL_SECS=On\nPORT=1\n")
        [("tt_PASSWORD", ""), ("HOME", "/root")]) := by
  have plain : PlainNames (some "Password=\"abc\"\nCACHE_TTL_SECS=On\nPORT=1\n")
      [("tt_PASSWORD", ""), ("HOME", "/root")] :=
    ⟨plain_entries_iff.mp (by decide), by decide, by decide⟩
  exact ⟨plain, rfl, ((load_layers _ _ plain).1 _).mp rfl⟩

end RouterGate.Settings
