import RouterGate.Proofs.Session.History
import RouterGate.Proofs.Verdict.History
/-!
Many tasks at one store of sessions and one cache of verdicts. Each gets the lock for one step at a
time. Who sweeps the sessions or records a verdict has read the clock before that, and may have
waited for the lock meanwhile, so that it acts as of a moment long past. Still nothing is lost
before its time and nothing is given after it.
-/
namespace RouterGate

/-- What has read the clock already and waits for the lock. -/
inductive Waiting where
  | put (key : String) (isValid : Bool) (read : Nat)
  | reap (read : Nat)

def Waiting.read : Waiting → Nat
  | .put _ _ read => read
  | .reap read => read

structure Shared where
  store : SessionStore
  cache : VerdictCache
  now : Nat
  waiting : List Waiting

namespace Shared

/-- What happens next, in whichever task. -/
inductive Turn where
  | tick (milliseconds : Nat)
  | beginPut (key : String) (isValid : Bool)
  | beginReap
  /-- One of those that wait gets the lock, in no particular order. -/
  | proceed (position : Nat)
  | create (owner : String) (draws : List Draw)
  | destroy (token : String)
  | lookup (token : String)
  | get (key : String)

inductive Happening where
  | nothing
  | put (key : String) (isValid : Bool) (read : Nat)
  | reaped (read count : Nat)
  | created (owner : String) (result : Except Fault String)
  | destroyed (token : String)
  | found (token : String) (session : Option Session)
  | told (key : String) (verdict : Option Bool)

structure Event where
  happening : Happening
  moment : Nat

def start (ttl reapEvery cacheTtl born : Nat) : Shared :=
  ⟨.start ttl reapEvery born, .start cacheTtl, born, []⟩

def step (state : Shared) : Turn → Happening × Shared
  | .tick milliseconds => (.nothing, { state with now := state.now + milliseconds })
  | .beginPut key isValid =>
      (.nothing, { state with waiting := .put key isValid state.now :: state.waiting })
  | .beginReap => (.nothing, { state with waiting := .reap state.now :: state.waiting })
  | .proceed position =>
      match state.waiting[position]? with
      | none => (.nothing, state)
      | some (.put key isValid read) =>
          (.put key isValid read,
            { state with
              cache := state.cache.put read key isValid
              waiting := state.waiting.eraseIdx position })
      | some (.reap read) =>
          (.reaped read (state.store.reapCount read),
            { state with
              store := state.store.reap read
              waiting := state.waiting.eraseIdx position })
  | .create owner draws =>
      match state.store.create state.now owner draws with
      | .error fault => (.created owner (.error fault), state)
      | .ok (token, grown) => (.created owner (.ok token), { state with store := grown })
  | .destroy token => (.destroyed token, { state with store := state.store.destroy token })
  | .lookup token => (.found token (state.store.lookup? state.now token), state)
  | .get key => (.told key (state.cache.get? state.now key), state)

def run (state : Shared) : List Turn → List Event × Shared
  | [] => ([], state)
  | turn :: rest =>
      let (happening, next) := state.step turn
      let (events, last) := next.run rest
      (⟨happening, state.now⟩ :: events, last)

@[simp] theorem run_nil (state : Shared) : state.run [] = ([], state) := rfl

@[simp] theorem run_cons (state : Shared) (turn : Turn) (rest : List Turn) :
    state.run (turn :: rest) =
      (⟨(state.step turn).1, state.now⟩ :: ((state.step turn).2.run rest).1,
        ((state.step turn).2.run rest).2) := rfl

namespace Event

/-- What an event did to a token. -/
def change? : Event → Option SessionStore.Change
  | ⟨.created owner (.ok token), moment⟩ => some (.created owner token moment)
  | ⟨.destroyed token, _⟩ => some (.destroyed token)
  | _ => none

/-- The verdict that an event recorded, with the moment that was read for it. -/
def put? : Event → Option VerdictCache.Put
  | ⟨.put key isValid read, _⟩ => some ⟨key, isValid, read⟩
  | _ => none

/-- How a session can come to be stored no longer. -/
inductive Ends (session : Session) : Event → Prop
  | destroyed {moment : Nat} : Ends session ⟨.destroyed session.token, moment⟩
  | swept {read count moment : Nat} (expired : session.expiresAt ≤ moment) :
      Ends session ⟨.reaped read count, moment⟩

/-- How a verdict can come to be stored no longer. -/
inductive Drops (verdict : Verdict) : Event → Prop
  | replaced {isValid : Bool} {read moment : Nat} :
      Drops verdict ⟨.put verdict.key isValid read, moment⟩
  | swept {key : String} {isValid : Bool} {read moment : Nat}
      (expired : verdict.expiresAt ≤ moment) : Drops verdict ⟨.put key isValid read, moment⟩

end Event

def changes (events : List Event) : List SessionStore.Change :=
  events.filterMap Event.change?

def puts (events : List Event) : List VerdictCache.Put :=
  events.filterMap Event.put?

theorem changes_concat (events : List Event) (event : Event) :
    changes (events ++ [event]) = changes events ++ event.change?.toList := by
  rw [changes, List.filterMap_append, ← changes, List.append_cancel_left_eq]
  cases changed : event.change? <;> simp [changed]

theorem puts_concat (events : List Event) (event : Event) :
    puts (events ++ [event]) = puts events ++ event.put?.toList := by
  rw [puts, List.filterMap_append, ← puts, List.append_cancel_left_eq]
  cases recorded : event.put? <;> simp [recorded]

/-- Nothing that waits has read a moment that is still to come. -/
def IsTimely (state : Shared) : Prop :=
  ∀ waiting ∈ state.waiting, waiting.read ≤ state.now

section Turns

variable {state : Shared} {turn : Turn} {turns : List Turn} {session : Session}
  {verdict : Verdict}

theorem IsTimely.getElem (timely : state.IsTimely) {position : Nat} {waiting : Waiting}
    (found : state.waiting[position]? = some waiting) : waiting.read ≤ state.now :=
  timely waiting (List.mem_of_getElem? found)

theorem IsTimely.step (timely : state.IsTimely) (turn : Turn) :
    (state.step turn).2.IsTimely := by
  have rest (position : Nat) : ∀ waiting ∈ state.waiting.eraseIdx position,
      waiting.read ≤ state.now :=
    fun waiting member => timely waiting (List.mem_of_mem_eraseIdx member)
  cases turn with
  | tick milliseconds =>
      exact fun waiting member => Nat.le_trans (timely waiting member) (Nat.le_add_right _ _)
  | beginPut key isValid => exact List.forall_mem_cons.mpr ⟨Nat.le_refl _, timely⟩
  | beginReap => exact List.forall_mem_cons.mpr ⟨Nat.le_refl _, timely⟩
  | proceed position =>
      simp only [Shared.step]
      split
      next => exact timely
      next => exact rest position
      next => exact rest position
  | create owner draws =>
      simp only [Shared.step]
      split
      next => exact timely
      next => exact timely
  | destroy token => exact timely
  | lookup token => exact timely
  | get key => exact timely

/-- A turn does to the sessions what one use of a store does, though its clock may be slow. -/
theorem effect_step (timely : state.IsTimely) (turn : Turn) :
    SessionStore.Effect ⟨state.store, state.now⟩
      (Event.change? ⟨(state.step turn).1, state.now⟩)
      ⟨(state.step turn).2.store, (state.step turn).2.now⟩ := by
  have idle : SessionStore.Effect ⟨state.store, state.now⟩ none ⟨state.store, state.now⟩ :=
    .quiet (Nat.le_refl _) (.refl _ _)
  cases turn with
  | tick milliseconds => exact .quiet (Nat.le_add_right _ _) (.refl _ _)
  | beginPut key isValid => exact idle
  | beginReap => exact idle
  | proceed position =>
      simp only [step]
      split
      next => exact idle
      next => exact idle
      next read found =>
        have swept := SessionStore.trims_reap state.store read
        exact .quiet (Nat.le_refl _) (swept.later (timely.getElem found))
  | create owner draws =>
      cases made : state.store.create state.now owner draws with
      | error fault =>
          simp only [step, made]
          exact idle
      | ok issued =>
          obtain ⟨drawn, grown⟩ := SessionStore.create_eq_ok_iff.mp made
          simp only [step, made, grown]
          exact .created (SessionStore.find?_freshToken drawn)
  | destroy token => exact .destroyed
  | lookup token => exact idle
  | get key => exact idle

/-- A session that a turn takes away was ended by request, or it has expired by now. -/
theorem ends_of_step (timely : state.IsTimely) (stored : session ∈ state.store.sessions)
    (gone : session ∉ (state.step turn).2.store.sessions) :
    Event.Ends session ⟨(state.step turn).1, state.now⟩ := by
  cases turn with
  | proceed position =>
      simp only [step] at gone ⊢
      split at gone
      next => exact absurd stored gone
      next => exact absurd stored gone
      next read found =>
        rw [SessionStore.mem_reap_iff, not_and, Nat.not_lt] at gone
        exact .swept (Nat.le_trans (gone stored) (timely.getElem found))
  | create owner draws =>
      apply absurd _ gone
      simp only [step, SessionStore.create]
      cases state.store.freshToken draws with
      | error fault => exact stored
      | ok token => exact List.mem_cons_of_mem _ stored
  | destroy token =>
      by_cases own : session.token = token
      · subst own
        exact .destroyed
      · exact absurd (SessionStore.mem_destroy_iff.mpr ⟨stored, own⟩) gone
  | tick milliseconds => exact absurd stored gone
  | beginPut key isValid => exact absurd stored gone
  | beginReap => exact absurd stored gone
  | lookup token => exact absurd stored gone
  | get key => exact absurd stored gone

/-- A verdict that a turn takes away was replaced, or it has expired by now. -/
theorem drops_of_step (timely : state.IsTimely) (stored : verdict ∈ state.cache.verdicts)
    (gone : verdict ∉ (state.step turn).2.cache.verdicts) :
    Event.Drops verdict ⟨(state.step turn).1, state.now⟩ := by
  cases turn with
  | proceed position =>
      simp only [step] at gone ⊢
      split at gone
      next => exact absurd stored gone
      next key isValid read found =>
        by_cases same : verdict.key = key
        · subst same
          exact .replaced
        · apply Event.Drops.swept
          apply Nat.le_of_not_lt
          intro live
          have fresh := Nat.lt_of_le_of_lt (timely.getElem found) live
          exact gone (VerdictCache.mem_put_iff.mpr (.inr ⟨stored, fresh, same⟩))
      next => exact absurd stored gone
  | create owner draws =>
      apply absurd _ gone
      simp only [step]
      split
      next => exact stored
      next => exact stored
  | tick milliseconds => exact absurd stored gone
  | beginPut key isValid => exact absurd stored gone
  | beginReap => exact absurd stored gone
  | destroy token => exact absurd stored gone
  | lookup token => exact absurd stored gone
  | get key => exact absurd stored gone

/-- What holds and then does not was undone by one of the turns. -/
theorem exists_event_of_run {holds : Shared → Prop} {undoes : Event → Prop}
    (each : ∀ {state turn}, IsTimely state → holds state → ¬holds (state.step turn).2 →
      undoes ⟨(state.step turn).1, state.now⟩)
    (timely : state.IsTimely) (held : holds state) (gone : ¬holds (state.run turns).2) :
    ∃ event ∈ (state.run turns).1, undoes event := by
  induction turns generalizing state with
  | nil => exact absurd held gone
  | cons turn rest induction =>
      rw [run_cons] at gone ⊢
      by_cases kept : holds (state.step turn).2
      · obtain ⟨event, later, undone⟩ := induction (timely.step turn) kept gone
        exact ⟨event, List.mem_cons_of_mem _ later, undone⟩
      · exact ⟨_, List.mem_cons_self, each timely held kept⟩

theorem ends_of_run (timely : state.IsTimely) (stored : session ∈ state.store.sessions)
    (gone : session ∉ (state.run turns).2.store.sessions) :
    ∃ event ∈ (state.run turns).1, event.Ends session :=
  exists_event_of_run (fun timely => ends_of_step timely) timely stored gone

theorem drops_of_run (timely : state.IsTimely) (stored : verdict ∈ state.cache.verdicts)
    (gone : verdict ∉ (state.run turns).2.cache.verdicts) :
    ∃ event ∈ (state.run turns).1, event.Drops verdict :=
  exists_event_of_run (fun timely => drops_of_step timely) timely stored gone

end Turns

/-- What is stored is what the locked steps say in their order, where each verdict counts from the
moment that was read for it, and nothing that still waits has read a later one than now. -/
structure Reflects (state : Shared) (ttl cacheTtl : Nat) (events : List Event) : Prop where
  timely : state.IsTimely
  sessions : SessionStore.Timed.Reflects ⟨state.store, state.now⟩ ttl (changes events)
  verdicts : VerdictCache.Timed.Reflects ⟨state.cache, state.now⟩ cacheTtl (puts events)

namespace Reflects

variable {state : Shared} {ttl cacheTtl : Nat} {events : List Event}

theorem start (ttl reapEvery cacheTtl born : Nat) :
    (Shared.start ttl reapEvery cacheTtl born).Reflects ttl cacheTtl [] := by
  refine ⟨?_, .start ttl reapEvery born, .start cacheTtl born⟩
  intro waiting impossible
  cases impossible

theorem verdicts_step (reflects : state.Reflects ttl cacheTtl events) (turn : Turn) :
    VerdictCache.Timed.Reflects ⟨(state.step turn).2.cache, (state.step turn).2.now⟩ cacheTtl
      (puts events ++ (Event.put? ⟨(state.step turn).1, state.now⟩).toList) := by
  have idle : VerdictCache.Timed.Reflects ⟨state.cache, state.now⟩ cacheTtl
      (puts events ++ []) := by
    rw [List.append_nil]
    exact reflects.verdicts
  cases turn with
  | tick milliseconds => exact idle.later (Nat.le_add_right _ _)
  | beginPut key isValid => exact idle
  | beginReap => exact idle
  | proceed position =>
      simp only [Shared.step]
      split
      next => exact idle
      next key isValid read found =>
        exact reflects.verdicts.put (reflects.timely.getElem found) key isValid
      next => exact idle
  | create owner draws =>
      simp only [Shared.step]
      split
      next => exact idle
      next => exact idle
  | destroy token => exact idle
  | lookup token => exact idle
  | get key => exact idle

theorem step (reflects : state.Reflects ttl cacheTtl events) (turn : Turn) :
    (state.step turn).2.Reflects ttl cacheTtl
      (events ++ [⟨(state.step turn).1, state.now⟩]) := by
  refine ⟨reflects.timely.step turn, ?_, ?_⟩
  · rw [changes_concat]
    exact reflects.sessions.effect (effect_step reflects.timely turn)
  · rw [puts_concat]
    exact reflects.verdicts_step turn

theorem run (reflects : state.Reflects ttl cacheTtl events) (turns : List Turn) :
    (state.run turns).2.Reflects ttl cacheTtl (events ++ (state.run turns).1) := by
  induction turns generalizing state events with
  | nil =>
      rw [run_nil, List.append_nil]
      exact reflects
  | cons turn rest induction =>
      have continued := induction (reflects.step turn)
      rw [List.append_assoc] at continued
      exact continued

end Reflects

theorem created_eq_ok_iff {state : Shared} {owner token : String} {draws : List Draw} :
    (state.step (.create owner draws)).1 = .created owner (.ok token) ↔
      state.store.freshToken draws = .ok token := by
  simp only [step, SessionStore.create]
  cases state.store.freshToken draws with
  | error fault => simp
  | ok first => simp

theorem sessions_of_created {state : Shared} {owner token : String} {draws : List Draw}
    (drawn : state.store.freshToken draws = .ok token) :
    (state.step (.create owner draws)).2.store.sessions =
      ⟨token, owner, state.now + state.store.ttl⟩ :: state.store.sessions := by
  simp [step, SessionStore.create, drawn]

end Shared

/-- Reading the clock before waiting for the lock does no harm, however the tasks take turns: what
a sweep takes away has expired by then, a session is there until it expires or is ended, a verdict
is given for as long as it counts from the moment that was read for it, and no token is given out
twice while it is stored. -/
theorem early_reading_harmless (ttl reapEvery cacheTtl born : Nat) (turns : List Shared.Turn) :
    let events := ((Shared.start ttl reapEvery cacheTtl born).run turns).1
    let state := ((Shared.start ttl reapEvery cacheTtl born).run turns).2
    (∀ later, ∀ session ∈ state.store.sessions,
        session ∉ (state.run later).2.store.sessions →
          ∃ event ∈ (state.run later).1, event.Ends session) ∧
      (∀ later, ∀ verdict ∈ state.cache.verdicts,
        verdict ∉ (state.run later).2.cache.verdicts →
          ∃ event ∈ (state.run later).1, event.Drops verdict) ∧
      (∀ key isValid, (state.step (.get key)).1 = .told key (some isValid) ↔
        ∃ read, VerdictCache.IsLatest (Shared.puts events) ⟨key, isValid, read⟩ ∧
          state.now < read + cacheTtl) ∧
      (∀ token session, (state.step (.lookup token)).1 = .found token (some session) ↔
        SessionStore.Stands (Shared.changes events) ttl session ∧ session.token = token ∧
          state.now < session.expiresAt) ∧
      ∀ owner draws token,
        (state.step (.create owner draws)).1 = .created owner (.ok token) →
          ∀ later owner' draws',
            let first : Session := ⟨token, owner, state.now + ttl⟩
            let between := (state.step (.create owner draws)).2.run later
            (between.2.step (.create owner' draws')).1 = .created owner' (.ok token) →
              first ∉ between.2.store.sessions ∧ ∃ event ∈ between.1, event.Ends first := by
  intro events state
  have reflects : state.Reflects ttl cacheTtl events :=
    (Shared.Reflects.start ttl reapEvery cacheTtl born).run turns
  refine ⟨fun later session => Shared.ends_of_run reflects.timely,
    fun later verdict => Shared.drops_of_run reflects.timely, ?_, ?_, ?_⟩
  · intro key isValid
    rw [Shared.step, Shared.Happening.told.injEq, eq_self, true_and]
    exact reflects.verdicts.get?_eq_some_iff
  · intro token session
    rw [Shared.step, Shared.Happening.found.injEq, eq_self, true_and]
    exact reflects.sessions.lookup?_eq_some_iff
  · intro owner draws token created later owner' draws' first between again
    have drawn := Shared.created_eq_ok_iff.mp created
    have stored : first ∈ (state.step (.create owner draws)).2.store.sessions := by
      rw [Shared.sessions_of_created drawn, reflects.sessions.lasts]
      exact List.mem_cons_self
    have unstored := SessionStore.find?_eq_none_iff.mp
      (SessionStore.find?_freshToken (Shared.created_eq_ok_iff.mp again))
    have gone : first ∉ between.2.store.sessions := fun kept => unstored first kept rfl
    exact ⟨gone, Shared.ends_of_run (reflects.timely.step _) stored gone⟩

/-- A verdict that waits for the lock for too long is recorded, but not given any more. -/
example :
    let state := ((Shared.start 0 0 10 0).run
      [.beginPut "key" true, .tick 10, .proceed 0]).2
    state.cache.keys = ["key"] ∧ (state.step (.get "key")).1 = .told "key" none :=
  ⟨rfl, rfl⟩

end RouterGate
