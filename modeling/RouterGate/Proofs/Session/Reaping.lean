import RouterGate.Proofs.Session.History
/-!
The reaper at work. A sweep takes away what is expired and nothing else. As long as the reaper is
left at work, what it has not got to yet expired less than one of its periods ago; once it is shut
down, nothing is swept away but on request.
-/
namespace RouterGate.SessionStore

/-- The last moment at which the reaper was to wake. -/
def lastWake (store : SessionStore) (now : Nat) : Nat :=
  store.born + (now - store.born) / store.reapEvery * store.reapEvery

section Waking

variable {store : SessionStore} {earlier now later : Nat}

theorem lastWake_le (born : store.born ≤ now) : store.lastWake now ≤ now := by
  have whole := Nat.div_mul_le_self (now - store.born) store.reapEvery
  rw [lastWake]
  omega

theorem lt_lastWake_add (periodic : 0 < store.reapEvery) :
    now < store.lastWake now + store.reapEvery := by
  have next := Nat.lt_div_mul_add periodic (a := now - store.born)
  rw [lastWake]
  omega

theorem lastWake_of_asleep (atWork : store.isShutDown = false) (periodic : 0 < store.reapEvery)
    (forward : earlier ≤ later) (asleep : store.wakesBetween earlier later = false) :
    store.lastWake later = store.lastWake earlier := by
  have monotone : (earlier - store.born) / store.reapEvery ≤
      (later - store.born) / store.reapEvery :=
    Nat.div_le_div_right (Nat.sub_le_sub_right forward _)
  have same : ¬(earlier - store.born) / store.reapEvery <
      (later - store.born) / store.reapEvery := by
    simpa [wakesBetween, atWork, Nat.ne_of_gt periodic] using asleep
  rw [lastWake, lastWake, Nat.le_antisymm (Nat.not_lt.mp same) monotone]

end Waking

/-- The reaper is neither shut down nor held up. -/
def Use.SparesReaper : Use → Prop
  | .shutdown => False
  | .stall _ => False
  | _ => True

/-- The reaper is at work, and nothing is stored that it had to sweep away by now. -/
structure Timed.IsTended (state : Timed) : Prop where
  atWork : state.store.isShutDown = false
  periodic : 0 < state.store.reapEvery
  born : state.store.born ≤ state.now
  swept : ∀ session ∈ state.store.sessions,
    state.store.lastWake state.now ≤ session.expiresAt

namespace Timed.IsTended

variable {state : Timed}

theorem start {ttl reapEvery born : Nat} (periodic : 0 < reapEvery) :
    (Timed.start ttl reapEvery born).IsTended := by
  refine ⟨rfl, periodic, Nat.le_refl _, ?_⟩
  intro session impossible
  cases impossible

theorem fewer (tended : state.IsTended) {kept : List Session}
    (fewer : kept ⊆ state.store.sessions) :
    Timed.IsTended ⟨{ state.store with sessions := kept }, state.now⟩ :=
  ⟨tended.atWork, tended.periodic, tended.born, fun session stored =>
    tended.swept session (fewer stored)⟩

theorem reaped (tended : state.IsTended) :
    Timed.IsTended ⟨state.store.reap state.now, state.now⟩ :=
  tended.fewer List.filter_sublist.subset

theorem passTime (tended : state.IsTended) (milliseconds : Nat) :
    Timed.IsTended ⟨state.store.passTime state.now (state.now + milliseconds),
      state.now + milliseconds⟩ := by
  have forward := Nat.le_add_right state.now milliseconds
  have born := Nat.le_trans tended.born forward
  cases wakes : state.store.wakesBetween state.now (state.now + milliseconds) with
  | false =>
      rw [SessionStore.passTime, if_neg (Bool.eq_false_iff.mp wakes)]
      refine ⟨tended.atWork, tended.periodic, born, ?_⟩
      intro session stored
      rw [lastWake_of_asleep tended.atWork tended.periodic forward wakes]
      exact tended.swept session stored
  | true =>
      rw [SessionStore.passTime, if_pos wakes]
      refine ⟨tended.atWork, tended.periodic, born, ?_⟩
      -- What survives the sweep is live in the end, so it was live at any wake-up before.
      intro session stored
      obtain ⟨-, live⟩ := mem_reap_iff.mp stored
      exact Nat.le_trans (lastWake_le born) (Nat.le_of_lt live)

theorem answer (tended : state.IsTended) {use : Use} (spares : use.SparesReaper) :
    (state.answer use).2.IsTended := by
  cases use with
  | create owner draws =>
      cases made : state.store.create state.now owner draws with
      | error fault =>
          simp only [Timed.answer, made]
          exact tended
      | ok issued =>
          obtain ⟨-, grown⟩ := create_eq_ok_iff.mp made
          simp only [Timed.answer, made, grown]
          refine ⟨tended.atWork, tended.periodic, tended.born, ?_⟩
          intro session stored
          rcases List.mem_cons.mp stored with rfl | earlier
          · exact Nat.le_trans (lastWake_le tended.born) (Nat.le_add_right _ _)
          · exact tended.swept session earlier
  | lookup token => exact tended
  | validate token => exact tended
  | destroy token => exact tended.fewer List.filter_sublist.subset
  | reap => exact tended.reaped
  | wake =>
      simp only [Timed.answer, tended.atWork, Bool.false_eq_true, if_false]
      exact tended.reaped
  | shutdown => cases spares
  | wait milliseconds => exact tended.passTime milliseconds
  | stall milliseconds => cases spares

theorem run (tended : state.IsTended) {uses : List Use}
    (spares : ∀ use ∈ uses, use.SparesReaper) : (state.run uses).2.IsTended := by
  induction uses generalizing state with
  | nil => exact tended
  | cons use rest induction =>
      obtain ⟨first, later⟩ := List.forall_mem_cons.mp spares
      rw [run_cons]
      exact induction (tended.answer first) later

theorem lt_expiresAt_add (tended : state.IsTended) {session : Session}
    (stored : session ∈ state.store.sessions) :
    state.now < session.expiresAt + state.store.reapEvery :=
  calc
    state.now < state.store.lastWake state.now + state.store.reapEvery :=
      lt_lastWake_add tended.periodic
    _ ≤ session.expiresAt + state.store.reapEvery :=
      Nat.add_le_add_right (tended.swept session stored) _

end Timed.IsTended

/-- A session is ended by request, or swept away by request after it has expired. -/
inductive Deed.Removes (session : Session) : Deed → Prop
  | destroyed {answer : Answer} {moment : Nat} :
      Removes session ⟨.destroy session.token, answer, moment⟩
  | reaped {answer : Answer} {moment : Nat} (expired : session.expiresAt ≤ moment) :
      Removes session ⟨.reap, answer, moment⟩

namespace Timed

variable {state : Timed} {uses : List Use} {session : Session}

/-- A use changes nothing about a store but its sessions and whether its reaper is shut down. -/
theorem store_answer (state : Timed) (use : Use) :
    ∃ kept ended,
      (state.answer use).2.store =
          { state.store with sessions := kept, isShutDown := ended } ∧
        (state.store.isShutDown = true → ended = true) := by
  cases use with
  | create owner draws =>
      simp only [answer, SessionStore.create]
      cases state.store.freshToken draws with
      | error fault => exact ⟨_, _, rfl, id⟩
      | ok token => exact ⟨_, _, rfl, id⟩
  | wake =>
      simp only [answer]
      split
      next => exact ⟨_, _, rfl, id⟩
      next => exact ⟨_, _, rfl, id⟩
  | shutdown => exact ⟨_, _, rfl, fun _ => rfl⟩
  | wait milliseconds =>
      simp only [answer, SessionStore.passTime]
      split
      next => exact ⟨_, _, rfl, id⟩
      next => exact ⟨_, _, rfl, id⟩
  | lookup token => exact ⟨_, _, rfl, id⟩
  | validate token => exact ⟨_, _, rfl, id⟩
  | destroy token => exact ⟨_, _, rfl, id⟩
  | reap => exact ⟨_, _, rfl, id⟩
  | stall milliseconds => exact ⟨_, _, rfl, id⟩

theorem reapEvery_run (state : Timed) (uses : List Use) :
    (state.run uses).2.store.reapEvery = state.store.reapEvery := by
  induction uses generalizing state with
  | nil => rfl
  | cons use rest induction =>
      obtain ⟨kept, ended, same, -⟩ := store_answer state use
      rw [run_cons, induction, same]

theorem isShutDown_answer (ended : state.store.isShutDown = true) (use : Use) :
    (state.answer use).2.store.isShutDown = true := by
  obtain ⟨kept, stays, same, still⟩ := store_answer state use
  rw [same]
  exact still ended

theorem isShutDown_run (ended : state.store.isShutDown = true ∨ Use.shutdown ∈ uses) :
    (state.run uses).2.store.isShutDown = true := by
  induction uses generalizing state with
  | nil => exact ended.resolve_right List.not_mem_nil
  | cons use rest induction =>
      rw [run_cons]
      apply induction
      rcases ended with already | within
      · exact .inl (isShutDown_answer already use)
      · rcases List.mem_cons.mp within with rfl | later
        · exact .inl rfl
        · exact .inr later

/-- A reaper that is shut down takes nothing away. -/
theorem removes_of_answer (ended : state.store.isShutDown = true) {use : Use}
    (stored : session ∈ state.store.sessions)
    (gone : session ∉ (state.answer use).2.store.sessions) :
    Deed.Removes session ⟨use, (state.answer use).1, state.now⟩ := by
  cases use with
  | create owner draws =>
      apply absurd _ gone
      simp only [answer, SessionStore.create]
      cases state.store.freshToken draws with
      | error fault => exact stored
      | ok token => exact List.mem_cons_of_mem _ stored
  | destroy token =>
      by_cases own : session.token = token
      · subst own
        exact .destroyed
      · exact absurd (mem_destroy_iff.mpr ⟨stored, own⟩) gone
  | reap =>
      apply Deed.Removes.reaped
      apply Nat.le_of_not_lt
      intro live
      exact gone (mem_reap_iff.mpr ⟨stored, live⟩)
  | wake =>
      apply absurd _ gone
      simp only [answer, ended, if_true]
      exact stored
  | wait milliseconds =>
      apply absurd _ gone
      simp only [answer, SessionStore.passTime, wakesBetween, ended, Bool.not_true,
        Bool.false_and, Bool.false_eq_true, if_false]
      exact stored
  | lookup token => exact absurd stored gone
  | validate token => exact absurd stored gone
  | shutdown => exact absurd stored gone
  | stall milliseconds => exact absurd stored gone

theorem removes_of_run (ended : state.store.isShutDown = true)
    (stored : session ∈ state.store.sessions)
    (gone : session ∉ (state.run uses).2.store.sessions) :
    ∃ deed ∈ (state.run uses).1, deed.Removes session := by
  induction uses generalizing state with
  | nil => exact absurd stored gone
  | cons use rest induction =>
      rw [run_cons] at gone ⊢
      by_cases kept : session ∈ (state.answer use).2.store.sessions
      · obtain ⟨deed, later, removes⟩ := induction (isShutDown_answer ended use) kept gone
        exact ⟨deed, List.mem_cons_of_mem _ later, removes⟩
      · exact ⟨_, List.mem_cons_self, removes_of_answer ended stored kept⟩

end Timed

/-- A sweep at any moment takes away what is expired then, tells how much that was, and touches
nothing else. A reaper that is left at work keeps nothing for a whole period after its expiry. One
that was shut down, however often, keeps everything that is not ended or swept away by request. -/
theorem reaper_keeps_pace (ttl reapEvery born : Nat) (uses : List Use) :
    let state := ((Timed.start ttl reapEvery born).run uses).2
    (∀ moment, ∃ count kept,
        (Timed.mk state.store moment).answer .reap =
            (.reaped count, ⟨{ state.store with sessions := kept }, moment⟩) ∧
          (kept.map (·.token)).Nodup ∧
          (∀ session, session ∈ kept ↔
            session ∈ state.store.sessions ∧ moment < session.expiresAt) ∧
          kept.length + count = state.store.sessions.length) ∧
      (0 < reapEvery → (∀ use ∈ uses, use.SparesReaper) →
        ∀ session ∈ state.store.sessions,
          state.now < session.expiresAt ∨ state.now - session.expiresAt < reapEvery) ∧
      (Use.shutdown ∈ uses → ∀ later, ∀ session ∈ state.store.sessions,
        session ∉ (state.run later).2.store.sessions →
          ∃ deed ∈ (state.run later).1, deed.Removes session) := by
  intro state
  have reflects : state.Reflects ttl _ := (Timed.Reflects.start ttl reapEvery born).run uses
  refine ⟨?_, ?_, ?_⟩
  · intro moment
    refine ⟨_, _, rfl, ?_, fun session => mem_reap_iff, state.store.length_reap moment⟩
    rw [List.Nodup, List.pairwise_map]
    exact reflects.distinct.sublist List.filter_sublist
  · intro periodic spares session stored
    have tended : state.IsTended := (Timed.IsTended.start periodic).run spares
    have recent := tended.lt_expiresAt_add stored
    rw [show state.store.reapEvery = reapEvery from Timed.reapEvery_run _ uses] at recent
    omega
  · intro ended later session stored gone
    exact Timed.removes_of_run (Timed.isShutDown_run (.inr ended)) stored gone

/-- Between two wake-ups a session is kept though it has expired; once the reaper is shut down, it
is kept until a sweep is asked for. -/
theorem reaper_keeps_pace_between :
    let uses : List Use := [.create "alice" [.token "a"], .wake, .wait 40,
      .create "bob" [.token "b"], .validate "a"]
    let state := ((Timed.start 30 50 7).run uses).2
    let ended := ((Timed.start 30 50 7).run (uses ++ [.shutdown])).2
    state.store.sessions = [⟨"b", "bob", 77⟩, ⟨"a", "alice", 37⟩] ∧ state.now = 47 ∧
      (∀ use ∈ uses, use.SparesReaper) ∧
      (∀ session ∈ state.store.sessions,
        state.now < session.expiresAt ∨ state.now - session.expiresAt < 50) ∧
      (ended.run [.wait 1000]).2.store.sessions = state.store.sessions ∧
      ∃ deed ∈ (ended.run [.wait 1000, .reap]).1, deed.Removes ⟨"a", "alice", 37⟩ := by
  intro uses state ended
  have spares : ∀ use ∈ uses, use.SparesReaper := by simp [uses, Use.SparesReaper]
  obtain ⟨-, recent, -⟩ := reaper_keeps_pace 30 50 7 uses
  obtain ⟨-, -, onRequest⟩ := reaper_keeps_pace 30 50 7 (uses ++ [.shutdown])
  refine ⟨by decide, by decide, spares, recent (by decide) spares, by decide, ?_⟩
  exact onRequest (by simp) [.wait 1000, .reap] ⟨"a", "alice", 37⟩ (by decide) (by decide)

end RouterGate.SessionStore
