import RouterGate.Proofs.Keyed
import RouterGate.Proofs.Since
import RouterGate.Verdict.Cache
/-!
A cache of verdicts and its history. A verdict is given exactly if it was the last one recorded
on its key, not too long ago; sweeping hides none that counts and brings no older one back. What
is stored only changes when a verdict is recorded, and then nothing expired stays.
-/
namespace RouterGate.VerdictCache

inductive Use where
  | put (key : String) (isValid : Bool)
  | get (key : String)
  | wait (milliseconds : Nat)

/-- A verdict that was recorded at some moment. -/
structure Put where
  key : String
  isValid : Bool
  moment : Nat

/-- The verdict as it is stored, if verdicts count for some time. -/
def Put.verdict (put : Put) (ttl : Nat) : Verdict :=
  ⟨put.key, put.isValid, put.moment + ttl⟩

/-- A cache at some moment. -/
structure Timed where
  cache : VerdictCache
  now : Nat

def keys (cache : VerdictCache) : List String :=
  cache.verdicts.map (·.key)

namespace Timed

def start (ttl born : Nat) : Timed :=
  ⟨.start ttl, born⟩

/-- What is said of a key, if anything was asked, and the cache after that. -/
def answer (state : Timed) : Use → Option (Option Bool) × Timed
  | .put key isValid => (none, { state with cache := state.cache.put state.now key isValid })
  | .get key => (some (state.cache.get? state.now key), state)
  | .wait milliseconds => (none, { state with now := state.now + milliseconds })

def put? (state : Timed) : Use → Option Put
  | .put key isValid => some ⟨key, isValid, state.now⟩
  | .get _ => none
  | .wait _ => none

/-- All that was recorded in some uses, and the cache after them. -/
def run (state : Timed) : List Use → List Put × Timed
  | [] => ([], state)
  | use :: rest =>
      let (puts, last) := (state.answer use).2.run rest
      ((state.put? use).toList ++ puts, last)

@[simp] theorem run_nil (state : Timed) : state.run [] = ([], state) := rfl

@[simp] theorem run_cons (state : Timed) (use : Use) (rest : List Use) :
    state.run (use :: rest) =
      ((state.put? use).toList ++ ((state.answer use).2.run rest).1,
        ((state.answer use).2.run rest).2) := rfl

end Timed

/-- A put after which no other one on its key came. -/
def IsLatest (puts : List Put) (put : Put) : Prop :=
  ∃ before after, puts = before ++ put :: after ∧ ∀ later ∈ after, later.key ≠ put.key

theorem isLatest_iff {puts : List Put} {put : Put} :
    IsLatest puts put ↔ HoldsSince (· = put) (fun later => later.key = put.key) puts := by
  constructor
  · intro latest
    obtain ⟨before, after, split, others⟩ := latest
    exact ⟨before, put, after, split, rfl, others⟩
  · intro held
    obtain ⟨before, _, after, split, rfl, others⟩ := held
    exact ⟨before, after, split, others⟩

theorem not_isLatest_nil {put : Put} : ¬IsLatest [] put := by
  rw [isLatest_iff]
  exact not_holdsSince_nil

theorem isLatest_concat_iff {puts : List Put} {put last : Put} :
    IsLatest (puts ++ [last]) put ↔
      last = put ∨ (IsLatest puts put ∧ last.key ≠ put.key) := by
  rw [isLatest_iff, isLatest_iff, holdsSince_concat_iff]

/-- The verdicts of a cache are those put last on their keys: each of them is, none that still
counts is missing, and no two have one key. -/
structure Timed.Reflects (state : Timed) (ttl : Nat) (puts : List Put) : Prop where
  lasts : state.cache.ttl = ttl
  latest : ∀ verdict ∈ state.cache.verdicts, ∃ put, IsLatest puts put ∧ verdict = put.verdict ttl
  complete : ∀ put, IsLatest puts put → state.now < put.moment + ttl →
    put.verdict ttl ∈ state.cache.verdicts
  distinct : state.cache.verdicts.Pairwise fun first second => first.key ≠ second.key

theorem distinct_put {cache : VerdictCache}
    (distinct : cache.verdicts.Pairwise fun first second => first.key ≠ second.key)
    (now : Nat) (key : String) (isValid : Bool) :
    (cache.put now key isValid).verdicts.Pairwise fun first second => first.key ≠ second.key := by
  apply List.Pairwise.cons
  · intro verdict stored
    have other := (List.mem_filter.mp stored).2
    rw [bne_iff_ne] at other
    exact other.symm
  · exact distinct.sublist (List.filter_sublist.trans List.filter_sublist)

theorem get?_eq_some_iff_find? {cache : VerdictCache} {now : Nat} {key : String}
    {isValid : Bool} :
    cache.get? now key = some isValid ↔
      ∃ verdict, cache.find? key = some verdict ∧ now < verdict.expiresAt ∧
        verdict.isValid = isValid := by
  unfold get?
  cases cache.find? key with
  | none => simp
  | some verdict =>
      constructor
      · intro found
        dsimp only at found
        split at found
        next => cases found
        next live =>
          cases found
          exact ⟨verdict, rfl, Nat.not_le.mp live, rfl⟩
      · intro known
        obtain ⟨_, same, live, rfl⟩ := known
        cases same
        exact if_neg (Nat.not_le.mpr live)

namespace Timed.Reflects

variable {state : Timed} {ttl : Nat} {puts : List Put}

theorem start (ttl born : Nat) : (Timed.start ttl born).Reflects ttl [] := by
  refine ⟨rfl, ?_, ?_, List.Pairwise.nil⟩
  · intro verdict impossible
    cases impossible
  · intro put latest
    exact absurd latest not_isLatest_nil

/-- A verdict may also be recorded as of a moment that is past. -/
theorem put (reflects : state.Reflects ttl puts) {moment : Nat} (past : moment ≤ state.now)
    (key : String) (isValid : Bool) :
    Timed.Reflects ⟨state.cache.put moment key isValid, state.now⟩ ttl
      (puts ++ [⟨key, isValid, moment⟩]) := by
  have same := reflects.lasts
  subst same
  refine ⟨rfl, ?_, ?_, distinct_put reflects.distinct _ _ _⟩
  · intro verdict stored
    rcases mem_put_iff.mp stored with rfl | ⟨earlier, -, other⟩
    · exact ⟨⟨key, isValid, moment⟩, isLatest_concat_iff.mpr (.inl rfl), rfl⟩
    · obtain ⟨put, latest, rfl⟩ := reflects.latest verdict earlier
      exact ⟨put, isLatest_concat_iff.mpr (.inr ⟨latest, Ne.symm other⟩), rfl⟩
  · intro put latest live
    rcases isLatest_concat_iff.mp latest with rfl | ⟨earlier, other⟩
    · exact mem_put_iff.mpr (.inl rfl)
    · have stored := reflects.complete put earlier live
      exact mem_put_iff.mpr (.inr ⟨stored, Nat.lt_of_le_of_lt past live, Ne.symm other⟩)

theorem later (reflects : state.Reflects ttl puts) {now : Nat} (forward : state.now ≤ now) :
    Timed.Reflects ⟨state.cache, now⟩ ttl puts := by
  refine ⟨reflects.lasts, reflects.latest, ?_, reflects.distinct⟩
  intro put latest live
  exact reflects.complete put latest (Nat.lt_of_le_of_lt forward live)

theorem answer (reflects : state.Reflects ttl puts) (use : Use) :
    (state.answer use).2.Reflects ttl (puts ++ (state.put? use).toList) := by
  cases use with
  | put key isValid => exact reflects.put (Nat.le_refl _) key isValid
  | get key =>
      rw [put?, Option.toList_none, List.append_nil]
      exact reflects
  | wait milliseconds =>
      rw [put?, Option.toList_none, List.append_nil]
      exact reflects.later (Nat.le_add_right _ _)

theorem run (reflects : state.Reflects ttl puts) (uses : List Use) :
    (state.run uses).2.Reflects ttl (puts ++ (state.run uses).1) := by
  induction uses generalizing state puts with
  | nil =>
      rw [run_nil, List.append_nil]
      exact reflects
  | cons use rest induction =>
      rw [run_cons, ← List.append_assoc]
      exact induction (reflects.answer use)

theorem get?_eq_some_iff (reflects : state.Reflects ttl puts) {key : String} {isValid : Bool} :
    state.cache.get? state.now key = some isValid ↔
      ∃ moment, IsLatest puts ⟨key, isValid, moment⟩ ∧ state.now < moment + ttl := by
  rw [get?_eq_some_iff_find?]
  constructor
  · intro found
    obtain ⟨verdict, found, live, rfl⟩ := found
    obtain ⟨stored, rfl⟩ := (find?_eq_some_iff_of_distinct reflects.distinct).mp found
    obtain ⟨put, latest, rfl⟩ := reflects.latest verdict stored
    exact ⟨put.moment, latest, live⟩
  · intro last
    obtain ⟨moment, latest, live⟩ := last
    have stored := reflects.complete _ latest live
    exact ⟨_, (find?_eq_some_iff_of_distinct reflects.distinct).mpr ⟨stored, rfl⟩, live, rfl⟩

/-- A verdict that is recorded leaves itself and what has not expired. -/
theorem mem_keys_put_iff (reflects : state.Reflects ttl puts) {key other : String}
    {isValid : Bool} :
    other ∈ (state.cache.put state.now key isValid).keys ↔
      other = key ∨ ∃ isValid' moment, IsLatest puts ⟨other, isValid', moment⟩ ∧
        state.now < moment + ttl := by
  rw [keys, List.mem_map]
  constructor
  · intro stored
    obtain ⟨verdict, stored, rfl⟩ := stored
    rcases mem_put_iff.mp stored with rfl | ⟨earlier, live, -⟩
    · exact .inl rfl
    · obtain ⟨put, latest, rfl⟩ := reflects.latest verdict earlier
      exact .inr ⟨put.isValid, put.moment, latest, live⟩
  · intro origin
    have itself : ⟨key, isValid, state.now + state.cache.ttl⟩ ∈
        (state.cache.put state.now key isValid).verdicts := mem_put_iff.mpr (.inl rfl)
    by_cases same : other = key
    · subst same
      exact ⟨_, itself, rfl⟩
    · obtain ⟨isValid', moment, latest, live⟩ := origin.resolve_left same
      exact ⟨_, mem_put_iff.mpr (.inr ⟨reflects.complete _ latest live, live, same⟩), rfl⟩

end Timed.Reflects

/-- Until the next verdict is recorded the cache stays what it is. -/
theorem Timed.cache_run_of_no_puts {state : Timed} {uses : List Use}
    (quiet : ∀ key isValid, Use.put key isValid ∉ uses) :
    (state.run uses).2.cache = state.cache := by
  induction uses generalizing state with
  | nil => rfl
  | cons use rest induction =>
      have later : ∀ key isValid, Use.put key isValid ∉ rest :=
        fun key isValid member => quiet key isValid (List.mem_cons_of_mem _ member)
      rw [run_cons, induction later]
      cases use with
      | put key isValid => exact absurd List.mem_cons_self (quiet key isValid)
      | get key => rfl
      | wait milliseconds => rfl

/-- What a cache says of a key is decided by the verdicts that were recorded and by the clock: it
is the last one on that key, until that expires. Recording a verdict leaves it and those that
still count, each key once, so that nothing expired stays but a verdict that never counts at all;
and nothing else changes what is stored. -/
theorem latest_put_decides (ttl born : Nat) (uses : List Use) :
    let puts := ((Timed.start ttl born).run uses).1
    let state := ((Timed.start ttl born).run uses).2
    (∀ key, ∃ said, (state.answer (.get key)).1 = some said ∧
        ∀ isValid, said = some isValid ↔
          ∃ moment, IsLatest puts ⟨key, isValid, moment⟩ ∧ state.now < moment + ttl) ∧
      (∀ key isValid,
        let next := (state.answer (.put key isValid)).2
        next.cache.keys.Nodup ∧
          (∀ other, other ∈ next.cache.keys ↔
            other = key ∨ ∃ isValid' moment, IsLatest puts ⟨other, isValid', moment⟩ ∧
              state.now < moment + ttl) ∧
          ∀ verdict ∈ next.cache.verdicts, verdict.expiresAt ≤ next.now →
            verdict = ⟨key, isValid, state.now⟩ ∧ ttl = 0) ∧
      ∀ quiet, (∀ key isValid, Use.put key isValid ∉ quiet) →
        (state.run quiet).2.cache = state.cache := by
  intro puts state
  have reflects : state.Reflects ttl puts := (Timed.Reflects.start ttl born).run uses
  refine ⟨?_, ?_, ?_⟩
  · intro key
    refine ⟨_, rfl, ?_⟩
    intro isValid
    exact reflects.get?_eq_some_iff
  · intro key isValid next
    refine ⟨?_, ?_, ?_⟩
    · rw [List.Nodup, keys, List.pairwise_map]
      exact distinct_put reflects.distinct _ _ _
    · intro other
      exact reflects.mem_keys_put_iff
    · intro verdict stored expired
      have same := reflects.lasts
      rcases mem_put_iff.mp stored with rfl | ⟨-, live, -⟩
      · have never : state.now + state.cache.ttl ≤ state.now := expired
        have none : ttl = 0 := by omega
        rw [same, none]
        exact ⟨rfl, rfl⟩
      · exact absurd live (Nat.not_lt.mpr expired)
  · intro quiet noPuts
    exact Timed.cache_run_of_no_puts noPuts

end RouterGate.VerdictCache
