import RouterGate.Gateway.Login
import RouterGate.Proofs.Keyed
import RouterGate.Proofs.Router.LoginOutcome
/-!
What a login makes of the sessions: a confirmed one adds a session under a token that no stored
session has, and otherwise only what is expired is ever swept away.
-/
namespace RouterGate

namespace SessionStore

/-- Nothing was swept away but what is expired at some moment. -/
structure Trims (now : Nat) (before after : SessionStore) : Prop where
  ttl : after.ttl = before.ttl
  sublist : after.sessions.Sublist before.sessions
  live : ∀ session ∈ before.sessions, now < session.expiresAt → session ∈ after.sessions

theorem Trims.refl (now : Nat) (store : SessionStore) : Trims now store store :=
  ⟨rfl, List.Sublist.refl _, fun _ stored _ => stored⟩

theorem Trims.later {now later : Nat} {before after : SessionStore}
    (trims : Trims now before after) (forward : now ≤ later) : Trims later before after :=
  ⟨trims.ttl, trims.sublist, fun session stored live =>
    trims.live session stored (Nat.lt_of_le_of_lt forward live)⟩

theorem trims_reap (store : SessionStore) (now : Nat) : Trims now store (store.reap now) := by
  refine ⟨rfl, List.filter_sublist, ?_⟩
  intro session stored live
  exact mem_reap_iff.mpr ⟨stored, live⟩

theorem trims_passTime (store : SessionStore) (earlier later : Nat) :
    Trims later store (store.passTime earlier later) := by
  unfold passTime
  split
  next => exact trims_reap store later
  next => exact .refl later store

theorem find?_eq_none_iff {store : SessionStore} {token : String} :
    store.find? token = none ↔ ∀ session ∈ store.sessions, session.token ≠ token := by
  simp [find?, List.find?_eq_none]

theorem find?_eq_some_iff {store : SessionStore} {token : String} {session : Session}
    (distinct : store.sessions.Pairwise fun first second => first.token ≠ second.token) :
    store.find? token = some session ↔ session ∈ store.sessions ∧ session.token = token :=
  find?_eq_some_iff_of_distinct distinct

theorem lookup?_eq_some_iff {store : SessionStore} {now : Nat} {token : String}
    {session : Session} :
    store.lookup? now token = some session ↔
      store.find? token = some session ∧ now < session.expiresAt := by
  unfold lookup?
  cases store.find? token with
  | none => simp
  | some found =>
      by_cases expired : found.isExpiredAt now = true
      · simp only [expired, if_true, Option.some.injEq]
        rw [Session.isExpiredAt, decide_eq_true_eq] at expired
        constructor
        · intro impossible
          cases impossible
        · intro found
          obtain ⟨rfl, live⟩ := found
          exact absurd live (Nat.not_lt.mpr expired)
      · simp only [expired, Bool.false_eq_true, if_false, Option.some.injEq]
        rw [Session.isExpiredAt, decide_eq_true_eq, Nat.not_le] at expired
        constructor
        · intro same
          subst same
          exact ⟨rfl, expired⟩
        · intro found
          obtain ⟨rfl, -⟩ := found
          rfl

theorem find?_freshToken {store : SessionStore} {draws : List Draw} {token : String}
    (drawn : store.freshToken draws = .ok token) : store.find? token = none := by
  induction draws with
  | nil => cases drawn
  | cons draw rest induction =>
      cases draw with
      | failure reason => cases drawn
      | token text =>
          unfold freshToken at drawn
          split at drawn
          next => exact induction drawn
          next unknown =>
            cases drawn
            rw [Option.not_isSome_iff_eq_none] at unknown
            exact unknown

theorem create_eq_ok_iff {store grown : SessionStore} {now : Nat} {owner token : String}
    {draws : List Draw} :
    store.create now owner draws = .ok (token, grown) ↔
      store.freshToken draws = .ok token ∧ grown = store.add now owner token := by
  unfold create
  cases store.freshToken draws with
  | error fault => simp
  | ok drawn =>
      simp only [Except.ok.injEq, Prod.mk.injEq]
      constructor
      · intro pair
        obtain ⟨rfl, rfl⟩ := pair
        exact ⟨rfl, rfl⟩
      · intro made
        obtain ⟨rfl, rfl⟩ := made
        exact ⟨rfl, rfl⟩

/-- What a login can make of the sessions. -/
inductive LoggedIn (store : SessionStore) (now : Nat) (username : String) :
    List Router.Exchange → Except Fault LoginResult → SessionStore → Prop
  | failed {exchanges : List Router.Exchange} {fault : Fault} {kept : SessionStore}
      (trims : Trims (now + Router.Dialogue.duration exchanges) store kept) :
      LoggedIn store now username exchanges (.error fault) kept
  | issued {exchanges : List Router.Exchange} {token : String} {trimmed : SessionStore}
      (confirmed : Router.Confirmed exchanges)
      (trims : Trims (now + Router.Dialogue.duration exchanges) store trimmed)
      (fresh : trimmed.find? token = none) :
      LoggedIn store now username exchanges (.ok ⟨username, some token⟩)
        (trimmed.add (now + Router.Dialogue.duration exchanges) username token)

open Router.Dialogue in
theorem loggedIn_of_yields {store : SessionStore} {endpoint : Router.Endpoint} {now : Nat}
    {username password : String} {draws : List Draw} {exchanges : List Router.Exchange}
    {result : Except Fault LoginResult} {kept : SessionStore}
    (held : (store.login endpoint now username password draws).Yields exchanges
      (result, kept)) :
    store.LoggedIn now username exchanges result kept := by
  unfold login at held
  obtain ⟨first, ⟨reached, took⟩, second, rfl, asked, later⟩ := yields_bind_iff.mp held
  obtain ⟨plain, rfl⟩ := yields_timed_iff.mp asked
  have conversed := Router.conversed_of_yields plain
  -- The reaper may wake while the router is asked, so before the token is drawn.
  have trims := store.trims_passTime now (now + duration first)
  cases reached with
  | error fault =>
      simp only [yields_pure_iff, Prod.mk.injEq] at later
      obtain ⟨rfl, rfl, rfl⟩ := later
      rw [List.append_nil]
      exact .failed trims
  | ok confirmed =>
      simp only at later
      split at later
      next =>
        simp only [yields_pure_iff, Prod.mk.injEq] at later
        obtain ⟨rfl, rfl, rfl⟩ := later
        rw [List.append_nil]
        exact .failed trims
      next token grown created =>
        obtain ⟨drawn, rfl⟩ := create_eq_ok_iff.mp created
        simp only [yields_say_iff, yields_pure_iff, Prod.mk.injEq] at later
        obtain ⟨rfl, rfl, rfl⟩ := later
        rw [List.append_nil, conversed.username_eq]
        exact .issued conversed.vouched.confirmed trims (find?_freshToken drawn)

end SessionStore

end RouterGate
