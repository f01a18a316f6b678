import RouterGate.Proofs.Session.Store
import RouterGate.Proofs.Since
/-!
A store of sessions and its history. A token counts exactly if the last that happened to it is
that it was given out, not too long ago; when the reaper wakes does not show.
-/
namespace RouterGate.SessionStore

/-- What is done with a store. Its reaper may wake at any moment, and the clock may also move
while the reaper is held up. -/
inductive Use where
  | create (owner : String) (draws : List Draw)
  | lookup (token : String)
  | validate (token : String)
  | destroy (token : String)
  | reap
  | wake
  | shutdown
  | wait (milliseconds : Nat)
  | stall (milliseconds : Nat)

inductive Answer where
  | created (result : Except Fault String)
  | found (session : Option Session)
  | validated (isValid : Bool)
  | reaped (count : Nat)
  | done

structure Deed where
  use : Use
  answer : Answer
  moment : Nat

/-- A store at some moment. -/
structure Timed where
  store : SessionStore
  now : Nat

namespace Timed

def start (ttl reapEvery born : Nat) : Timed :=
  ⟨.start ttl reapEvery born, born⟩

def answer (state : Timed) : Use → Answer × Timed
  | .create owner draws =>
      match state.store.create state.now owner draws with
      | .error fault => (.created (.error fault), state)
      | .ok (token, grown) => (.created (.ok token), { state with store := grown })
  | .lookup token => (.found (state.store.lookup? state.now token), state)
  | .validate token => (.validated (state.store.validates state.now token), state)
  | .destroy token => (.done, { state with store := state.store.destroy token })
  | .reap =>
      (.reaped (state.store.reapCount state.now),
        { state with store := state.store.reap state.now })
  | .wake =>
      (.done, if state.store.isShutDown then state
        else { state with store := state.store.reap state.now })
  | .shutdown => (.done, { state with store := state.store.shutdown })
  | .wait milliseconds =>
      (.done, ⟨state.store.passTime state.now (state.now + milliseconds),
        state.now + milliseconds⟩)
  | .stall milliseconds => (.done, { state with now := state.now + milliseconds })

def run (state : Timed) : List Use → List Deed × Timed
  | [] => ([], state)
  | use :: rest =>
      let (answer, next) := state.answer use
      let (deeds, last) := next.run rest
      (⟨use, answer, state.now⟩ :: deeds, last)

@[simp] theorem run_nil (state : Timed) : state.run [] = ([], state) := rfl

@[simp] theorem run_cons (state : Timed) (use : Use) (rest : List Use) :
    state.run (use :: rest) =
      (⟨use, (state.answer use).1, state.now⟩ :: ((state.answer use).2.run rest).1,
        ((state.answer use).2.run rest).2) := rfl

end Timed

/-- What can happen to a token. -/
inductive Change where
  | created (owner token : String) (moment : Nat)
  | destroyed (token : String)

def Change.token : Change → String
  | .created _ token _ => token
  | .destroyed token => token

def Deed.change? : Deed → Option Change
  | ⟨.create owner _, .created (.ok token), moment⟩ => some (.created owner token moment)
  | ⟨.destroy token, _, _⟩ => some (.destroyed token)
  | _ => none

/-- All that happened to tokens: those that were given out, and those that were ended. -/
def history (deeds : List Deed) : List Change :=
  deeds.filterMap Deed.change?

/-- The last that happened to the token of a session is that it was given out, and this gave the
session. -/
def Stands (history : List Change) (ttl : Nat) (session : Session) : Prop :=
  HoldsSince
    (fun change => ∃ moment, change = .created session.owner session.token moment ∧
      session.expiresAt = moment + ttl)
    (fun change => change.token = session.token) history

/-- What one use makes of a store: it gives a token out, ends one, or leaves the sessions as they
are but for what is expired. -/
inductive Effect (state : Timed) : Option Change → Timed → Prop
  | quiet {next : Timed} (later : state.now ≤ next.now)
      (trims : Trims next.now state.store next.store) : Effect state none next
  | created {owner token : String} (fresh : state.store.find? token = none) :
      Effect state (some (.created owner token state.now))
        ⟨state.store.add state.now owner token, state.now⟩
  | destroyed {token : String} :
      Effect state (some (.destroyed token)) ⟨state.store.destroy token, state.now⟩

theorem effect_answer (state : Timed) (use : Use) :
    Effect state (Deed.change? ⟨use, (state.answer use).1, state.now⟩) (state.answer use).2 := by
  have idle : Effect state none state := .quiet (Nat.le_refl _) (.refl _ _)
  have swept : Effect state none ⟨state.store.reap state.now, state.now⟩ :=
    .quiet (Nat.le_refl _) (trims_reap _ _)
  cases use with
  | create owner draws =>
      cases made : state.store.create state.now owner draws with
      | error fault =>
          simp only [Timed.answer, made]
          exact idle
      | ok issued =>
          obtain ⟨drawn, grows⟩ := create_eq_ok_iff.mp made
          simp only [Timed.answer, made, grows]
          exact .created (find?_freshToken drawn)
  | lookup token => exact idle
  | validate token => exact idle
  | destroy token => exact .destroyed
  | reap => exact swept
  | wake =>
      simp only [Timed.answer]
      split
      next => exact idle
      next => exact swept
  | shutdown => exact .quiet (Nat.le_refl _) ⟨rfl, List.Sublist.refl _, fun _ stored _ => stored⟩
  | wait milliseconds => exact .quiet (Nat.le_add_right _ _) (trims_passTime _ _ _)
  | stall milliseconds => exact .quiet (Nat.le_add_right _ _) (.refl _ _)

/-- The sessions of a store are those that stand in its history: each of them does, none that
still counts is missing, and no two have one token. -/
structure Timed.Reflects (state : Timed) (ttl : Nat) (history : List Change) : Prop where
  lasts : state.store.ttl = ttl
  stands : ∀ session ∈ state.store.sessions, Stands history ttl session
  complete : ∀ session, Stands history ttl session → state.now < session.expiresAt →
    session ∈ state.store.sessions
  distinct : state.store.sessions.Pairwise fun first second => first.token ≠ second.token

namespace Timed.Reflects

variable {state next : Timed} {ttl : Nat} {history : List Change}

theorem start (ttl reapEvery born : Nat) : (Timed.start ttl reapEvery born).Reflects ttl [] := by
  refine ⟨rfl, ?_, ?_, List.Pairwise.nil⟩
  · intro session impossible
    cases impossible
  · intro session stands
    exact absurd stands not_holdsSince_nil

theorem effect (reflects : state.Reflects ttl history) {change : Option Change}
    (effect : Effect state change next) : next.Reflects ttl (history ++ change.toList) := by
  have same := reflects.lasts
  subst same
  cases effect with
  | quiet later trims =>
      rw [Option.toList_none, List.append_nil]
      refine ⟨trims.ttl, ?_, ?_, reflects.distinct.sublist trims.sublist⟩
      · intro session stored
        exact reflects.stands session (trims.sublist.subset stored)
      · intro session stands live
        have earlier := reflects.complete session stands (Nat.lt_of_le_of_lt later live)
        exact trims.live session earlier live
  | created fresh =>
      have others := find?_eq_none_iff.mp fresh
      refine ⟨rfl, ?_, ?_, ?_⟩
      · intro session stored
        rcases List.mem_cons.mp stored with rfl | earlier
        · exact holdsSince_concat_iff.mpr (.inl ⟨state.now, rfl, rfl⟩)
        · exact holdsSince_concat_iff.mpr
            (.inr ⟨reflects.stands session earlier, (others session earlier).symm⟩)
      · intro session stands live
        rcases holdsSince_concat_iff.mp stands with ⟨moment, same, expires⟩ | ⟨earlier, -⟩
        · obtain ⟨_, _, _⟩ := session
          cases same
          cases expires
          exact List.mem_cons_self
        · exact List.mem_cons_of_mem _ (reflects.complete session earlier live)
      · refine List.pairwise_cons.mpr ⟨?_, reflects.distinct⟩
        intro session stored
        exact (others session stored).symm
  | destroyed =>
      refine ⟨rfl, ?_, ?_, reflects.distinct.sublist List.filter_sublist⟩
      · intro session stored
        obtain ⟨earlier, other⟩ := mem_destroy_iff.mp stored
        exact holdsSince_concat_iff.mpr (.inr ⟨reflects.stands session earlier, other.symm⟩)
      · intro session stands live
        rcases holdsSince_concat_iff.mp stands with ⟨moment, impossible, -⟩ | ⟨earlier, other⟩
        · cases impossible
        · exact mem_destroy_iff.mpr ⟨reflects.complete session earlier live, Ne.symm other⟩

/-- What happens to no token leaves the history as it is. -/
theorem still (reflects : state.Reflects ttl history) {use : Use}
    (unchanged : Deed.change? ⟨use, (state.answer use).1, state.now⟩ = none) :
    (state.answer use).2.Reflects ttl history := by
  have kept := reflects.effect (effect_answer state use)
  rw [unchanged, Option.toList_none, List.append_nil] at kept
  exact kept

theorem run (reflects : state.Reflects ttl history) (uses : List Use) :
    (state.run uses).2.Reflects ttl (history ++ SessionStore.history (state.run uses).1) := by
  induction uses generalizing state history with
  | nil =>
      rw [run_nil, SessionStore.history, List.filterMap_nil, List.append_nil]
      exact reflects
  | cons use rest induction =>
      have continued := induction (reflects.effect (effect_answer state use))
      rw [List.append_assoc] at continued
      rw [run_cons, SessionStore.history, List.filterMap_cons]
      cases changed : Deed.change? ⟨use, (state.answer use).1, state.now⟩ with
      | none =>
          rw [changed] at continued
          exact continued
      | some change =>
          rw [changed] at continued
          exact continued

theorem lookup?_eq_some_iff (reflects : state.Reflects ttl history) {token : String}
    {session : Session} :
    state.store.lookup? state.now token = some session ↔
      Stands history ttl session ∧ session.token = token ∧ state.now < session.expiresAt := by
  rw [SessionStore.lookup?_eq_some_iff, find?_eq_some_iff reflects.distinct]
  constructor
  · intro found
    obtain ⟨⟨stored, same⟩, live⟩ := found
    exact ⟨reflects.stands session stored, same, live⟩
  · intro counts
    obtain ⟨stands, same, live⟩ := counts
    exact ⟨⟨reflects.complete session stands live, same⟩, live⟩

/-- The history and the clock are all that the answer about a token depends on. -/
theorem answer_eq {other : Timed} (reflects : state.Reflects ttl history)
    (reflects' : other.Reflects ttl history) (sameNow : other.now = state.now) {token : String}
    {ask : Use} (asks : ask ∈ [Use.lookup token, .validate token]) :
    (other.answer ask).1 = (state.answer ask).1 := by
  have same : other.store.lookup? other.now token = state.store.lookup? state.now token := by
    apply Option.ext
    intro session
    rw [reflects.lookup?_eq_some_iff, reflects'.lookup?_eq_some_iff, sameNow]
  simp only [List.mem_cons, List.not_mem_nil, or_false] at asks
  rcases asks with rfl | rfl
  · exact congrArg Answer.found same
  · exact congrArg (fun found : Option Session => Answer.validated found.isSome) same

end Timed.Reflects

def Stores (store : SessionStore) (token : String) : Prop :=
  ∃ session ∈ store.sessions, session.token = token

theorem find?_isSome_iff {store : SessionStore} {token : String} :
    (store.find? token).isSome ↔ store.Stores token := by
  simp [find?, Stores]

section Draws

variable {store : SessionStore} {known : List String} {rest : List Draw} {token : String}

theorem freshToken_append (stored : ∀ text ∈ known, store.Stores text) :
    store.freshToken (known.map .token ++ rest) = store.freshToken rest := by
  induction known with
  | nil => rfl
  | cons text others induction =>
      obtain ⟨first, stored⟩ := List.forall_mem_cons.mp stored
      rw [List.map_cons, List.cons_append, freshToken, if_pos (find?_isSome_iff.mpr first),
        induction stored]

theorem freshToken_token (unstored : ¬store.Stores token) :
    store.freshToken (.token token :: rest) = .ok token := by
  rw [freshToken, if_neg (mt find?_isSome_iff.mp unstored)]

/-- The first token that no stored session has is taken, if the source gives one. -/
theorem freshToken_eq_ok_iff {draws : List Draw} :
    store.freshToken draws = .ok token ↔
      ∃ (known : List String) (rest : List Draw),
        draws = known.map .token ++ .token token :: rest ∧
          (∀ text ∈ known, store.Stores text) ∧ ¬store.Stores token := by
  constructor
  · intro drawn
    induction draws with
    | nil => cases drawn
    | cons draw others induction =>
        cases draw with
        | failure reason => cases drawn
        | token text =>
            rw [freshToken] at drawn
            split at drawn
            next taken =>
              obtain ⟨known, rest, rfl, stored, unstored⟩ := induction drawn
              refine ⟨text :: known, rest, rfl, ?_, unstored⟩
              exact List.forall_mem_cons.mpr ⟨find?_isSome_iff.mp taken, stored⟩
            next free =>
              cases drawn
              refine ⟨[], others, rfl, ?_, mt find?_isSome_iff.mpr free⟩
              intro text impossible
              cases impossible
  · intro split
    obtain ⟨known, rest, rfl, stored, unstored⟩ := split
    rw [freshToken_append stored, freshToken_token unstored]

end Draws

namespace Timed

variable {state : Timed} {owner : String} {draws : List Draw}

theorem answer_create_eq_ok_iff {token : String} :
    (state.answer (.create owner draws)).1 = .created (.ok token) ↔
      state.store.freshToken draws = .ok token := by
  cases drawn : state.store.freshToken draws with
  | error fault => simp [answer, SessionStore.create, drawn]
  | ok first => simp [answer, SessionStore.create, drawn]

theorem sessions_of_created {token : String}
    (created : (state.answer (.create owner draws)).1 = .created (.ok token)) :
    (state.answer (.create owner draws)).2.store.sessions =
      ⟨token, owner, state.now + state.store.ttl⟩ :: state.store.sessions := by
  simp [answer, SessionStore.create, answer_create_eq_ok_iff.mp created]

theorem answer_of_create_error {fault : Fault}
    (failed : state.store.freshToken draws = .error fault) :
    state.answer (.create owner draws) = (.created (.error fault), state) := by
  simp [answer, SessionStore.create, failed]

theorem now_of_quiet (state : Timed) {use : Use} (quiet : use ∈ [Use.reap, .wake, .shutdown]) :
    (state.answer use).2.now = state.now := by
  simp only [List.mem_cons, List.not_mem_nil, or_false] at quiet
  rcases quiet with rfl | rfl | rfl
  · rfl
  · simp only [answer]
    split <;> rfl
  · rfl

end Timed

/-- The sessions that a store knows are decided by what happened to their tokens and by the
clock alone, whenever the reaper wakes. Only a token that no stored session has is ever given out,
and that adds one session and touches no other; without a token nothing changes. -/
theorem history_decides (ttl reapEvery born : Nat) (uses : List Use) :
    let deeds := ((Timed.start ttl reapEvery born).run uses).1
    let state := ((Timed.start ttl reapEvery born).run uses).2
    (∀ token session, (state.answer (.lookup token)).1 = .found (some session) ↔
        ∃ before owner moment after,
          history deeds = before ++ .created owner token moment :: after ∧
            (∀ change ∈ after, change.token ≠ token) ∧ state.now < moment + ttl ∧
            session = ⟨token, owner, moment + ttl⟩) ∧
      (∀ token, ∃ found, (state.answer (.lookup token)).1 = .found found ∧
        (state.answer (.validate token)).1 = .validated found.isSome) ∧
      (∀ reapEvery' born' uses',
        let other := (Timed.start ttl reapEvery' born').run uses'
        history other.1 = history deeds → other.2.now = state.now →
          ∀ token, ∀ ask ∈ [Use.lookup token, .validate token],
            (other.2.answer ask).1 = (state.answer ask).1) ∧
      (∀ quiet ∈ [Use.reap, .wake, .shutdown], ∀ pause token,
        ∀ ask ∈ [Use.lookup token, .validate token],
          ((state.run [quiet, .stall pause]).2.answer ask).1 =
            ((state.run [.stall pause]).2.answer ask).1) ∧
      (∀ owner draws token,
        (state.answer (.create owner draws)).1 = .created (.ok token) ↔
          ∃ (known : List String) (rest : List Draw),
            draws = known.map .token ++ .token token :: rest ∧
              (∀ text ∈ known, state.store.Stores text) ∧ ¬state.store.Stores token) ∧
      (∀ owner draws token, (state.answer (.create owner draws)).1 = .created (.ok token) →
        (state.answer (.create owner draws)).2.store.sessions =
          ⟨token, owner, state.now + ttl⟩ :: state.store.sessions) ∧
      (∀ owner (known : List String) reason (rest : List Draw),
        (∀ text ∈ known, state.store.Stores text) →
          state.answer (.create owner (known.map .token ++ .failure reason :: rest)) =
            (.created (.error (.internal (.randomSource reason))), state)) := by
  intro deeds state
  have reflects : state.Reflects ttl (history deeds) := (Timed.Reflects.start _ _ _).run uses
  refine ⟨?_, ?_, ?_, ?_, ?_, ?_, ?_⟩
  · intro token session
    rw [Timed.answer, Answer.found.injEq, reflects.lookup?_eq_some_iff]
    constructor
    · intro counts
      obtain ⟨⟨before, _, after, split, ⟨moment, rfl, expires⟩, others⟩, rfl, live⟩ := counts
      rw [expires] at live
      exact ⟨before, session.owner, moment, after, split, others, live, by rw [← expires]⟩
    · intro created
      obtain ⟨before, owner, moment, after, split, others, live, rfl⟩ := created
      exact ⟨⟨before, _, after, split, ⟨moment, rfl, rfl⟩, others⟩, rfl, live⟩
  · intro token
    exact ⟨_, rfl, rfl⟩
  · intro reapEvery' born' uses' other sameHistory sameNow token ask asks
    have reflects' : other.2.Reflects ttl (history other.1) :=
      (Timed.Reflects.start _ _ _).run uses'
    rw [sameHistory] at reflects'
    exact reflects.answer_eq reflects' sameNow asks
  · intro quiet isQuiet pause token ask asks
    have swept : (state.answer quiet).2.Reflects ttl (history deeds) := by
      apply reflects.still
      simp only [List.mem_cons, List.not_mem_nil, or_false] at isQuiet
      rcases isQuiet with rfl | rfl | rfl <;> rfl
    have later : (state.answer (.stall pause)).2.Reflects ttl (history deeds) :=
      reflects.still rfl
    have sweptLater :
        ((state.answer quiet).2.answer (.stall pause)).2.Reflects ttl (history deeds) :=
      swept.still rfl
    have sameNow := state.now_of_quiet isQuiet
    exact later.answer_eq sweptLater (congrArg (· + pause) sameNow) asks
  · intro owner draws token
    rw [Timed.answer_create_eq_ok_iff, freshToken_eq_ok_iff]
  · intro owner draws token created
    rw [Timed.sessions_of_created created, reflects.lasts]
  · intro owner known reason rest stored
    apply Timed.answer_of_create_error
    rw [freshToken_append stored]
    rfl

end RouterGate.SessionStore
