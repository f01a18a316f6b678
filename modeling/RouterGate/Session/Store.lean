import RouterGate.Fault.Basic
/-!
Sessions that the gateway gave out itself. A session counts until it expires, whether or not it
has been swept away by then: sweeping only bounds what is stored.

Times are milliseconds since some start.
-/
namespace RouterGate

structure Session where
  token : String
  owner : String
  expiresAt : Nat
  deriving DecidableEq, Repr

/-- A session ends at the very moment of its expiry. -/
def Session.isExpiredAt (now : Nat) (session : Session) : Bool :=
  session.expiresAt ≤ now

inductive Draw where
  | token (text : String)
  | failure (reason : String)
  deriving DecidableEq, Repr

/-- The sessions, and the reaper that sweeps them. It wakes every `reapEvery` after `born`; one
that should wake every zero milliseconds never does. -/
structure SessionStore where
  ttl : Nat
  reapEvery : Nat
  born : Nat
  sessions : List Session
  isShutDown : Bool
  deriving DecidableEq, Repr

namespace SessionStore

def start (ttl reapEvery now : Nat) : SessionStore :=
  ⟨ttl, reapEvery, now, [], false⟩

def find? (store : SessionStore) (token : String) : Option Session :=
  store.sessions.find? (·.token == token)

def lookup? (store : SessionStore) (now : Nat) (token : String) : Option Session :=
  match store.find? token with
  | none => none
  | some session => if session.isExpiredAt now then none else some session

def validates (store : SessionStore) (now : Nat) (token : String) : Bool :=
  (store.lookup? now token).isSome

/-- The first token drawn that no stored session has. A source that gives nothing more has
failed. -/
def freshToken (store : SessionStore) : List Draw → Except Fault String
  | [] => .error (.internal (.randomSource "no token was drawn"))
  | .failure reason :: _ => .error (.internal (.randomSource reason))
  | .token token :: rest =>
      if (store.find? token).isSome then store.freshToken rest else .ok token

def add (store : SessionStore) (now : Nat) (owner token : String) : SessionStore :=
  { store with sessions := ⟨token, owner, now + store.ttl⟩ :: store.sessions }

def create (store : SessionStore) (now : Nat) (owner : String) (draws : List Draw) :
    Except Fault (String × SessionStore) :=
  match store.freshToken draws with
  | .error fault => .error fault
  | .ok token => .ok (token, store.add now owner token)

/-- End a session; unknown tokens are passed over. -/
def destroy (store : SessionStore) (token : String) : SessionStore :=
  { store with sessions := store.sessions.filter (·.token != token) }

def reap (store : SessionStore) (now : Nat) : SessionStore :=
  { store with sessions := store.sessions.filter fun session => !session.isExpiredAt now }

def reapCount (store : SessionStore) (now : Nat) : Nat :=
  store.sessions.countP (Session.isExpiredAt now)

def shutdown (store : SessionStore) : SessionStore :=
  { store with isShutDown := true }

/-- Whether the reaper wakes after one moment, up to and including a later one. -/
def wakesBetween (store : SessionStore) (earlier later : Nat) : Bool :=
  !store.isShutDown && store.reapEvery != 0 &&
    (earlier - store.born) / store.reapEvery < (later - store.born) / store.reapEvery

/-- The clock leaps ahead. A reaper that was to wake meanwhile gets its turn only after the leap:
it reads the clock then, and so sweeps what is expired in the end, not just what was at the last
wake-up. Where it gets its turn at every wake-up, time passes in several leaps, each up to the
next one. -/
def passTime (store : SessionStore) (earlier later : Nat) : SessionStore :=
  if store.wakesBetween earlier later then store.reap later else store

@[simp] theorem add_sessions (store : SessionStore) (now : Nat) (owner token : String) :
    (store.add now owner token).sessions =
      ⟨token, owner, now + store.ttl⟩ :: store.sessions := rfl

theorem mem_destroy_iff {store : SessionStore} {token : String} {session : Session} :
    session ∈ (store.destroy token).sessions ↔
      session ∈ store.sessions ∧ session.token ≠ token := by
  simp [destroy]

theorem mem_reap_iff {store : SessionStore} {now : Nat} {session : Session} :
    session ∈ (store.reap now).sessions ↔
      session ∈ store.sessions ∧ now < session.expiresAt := by
  simp [reap, Session.isExpiredAt]

theorem length_reap (store : SessionStore) (now : Nat) :
    (store.reap now).sessions.length + store.reapCount now = store.sessions.length := by
  simp only [reap, reapCount, ← List.countP_eq_length_filter]
  induction store.sessions with
  | nil => rfl
  | cons session rest induction =>
      cases expired : session.isExpiredAt now <;> simp_all <;> omega

end SessionStore

end RouterGate
