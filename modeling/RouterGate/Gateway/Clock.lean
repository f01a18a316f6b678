import RouterGate.Gateway.Basic
/-!
The clock of the host, which cannot hold every moment. The program breaks off where a time is added
to the present and the sum lies beyond the clock. Whatever is added up is stored at once, so that
it shows in what is stored.
-/
namespace RouterGate

/-- Whole seconds are held in a signed word of 64 bits. -/
def Clock.holds (moment : Nat) : Bool :=
  moment / 1000 < UInt64.size / 2

theorem Clock.holds_iff {moment : Nat} :
    holds moment = true ↔ moment / 1000 < 9223372036854775808 := by
  rw [holds, decide_eq_true_eq]
  rfl

def SessionStore.fitsClock (store : SessionStore) : Bool :=
  store.sessions.all fun session => Clock.holds session.expiresAt

def VerdictCache.fitsClock (cache : VerdictCache) : Bool :=
  cache.verdicts.all fun verdict => Clock.holds verdict.expiresAt

namespace Gateway

/-- All that is kept expires at moments that the clock holds. -/
def fitsClock (gateway : Gateway) : Bool :=
  match gateway.backend with
  | .delegated _ (.sessions store) => store.fitsClock
  | .delegated _ (.verdicts cache) => cache.fitsClock
  | _ => true

/-- A reaper has to have a period, which it adds to the moment at which it is started. -/
def reaperStarts (gateway : Gateway) : Bool :=
  match gateway.backend with
  | .delegated _ (.sessions store) =>
      store.reapEvery != 0 && Clock.holds (store.born + store.reapEvery)
  | _ => true

end Gateway

end RouterGate
