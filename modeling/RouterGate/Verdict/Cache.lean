/-!
Verdicts of the router that are kept for a while. An expired verdict is never given; it is
swept away when the next one is recorded.

Times are milliseconds since some start.
-/
namespace RouterGate

structure Verdict where
  key : String
  isValid : Bool
  expiresAt : Nat
  deriving DecidableEq, Repr

structure VerdictCache where
  ttl : Nat
  verdicts : List Verdict
  deriving DecidableEq, Repr

namespace VerdictCache

def start (ttl : Nat) : VerdictCache :=
  ⟨ttl, []⟩

def find? (cache : VerdictCache) (key : String) : Option Verdict :=
  cache.verdicts.find? (·.key == key)

def get? (cache : VerdictCache) (now : Nat) (key : String) : Option Bool :=
  match cache.find? key with
  | none => none
  | some verdict => if verdict.expiresAt ≤ now then none else some verdict.isValid

def live (cache : VerdictCache) (now : Nat) : List Verdict :=
  cache.verdicts.filter fun verdict => now < verdict.expiresAt

/-- Record a verdict in place of any other for its key, and sweep. -/
def put (cache : VerdictCache) (now : Nat) (key : String) (isValid : Bool) : VerdictCache :=
  { cache with
    verdicts := ⟨key, isValid, now + cache.ttl⟩ :: (cache.live now).filter (·.key != key) }

def sweptCount (cache : VerdictCache) (now : Nat) : Nat :=
  cache.verdicts.length - (cache.live now).length

theorem find?_put_self (cache : VerdictCache) (now : Nat) (key : String) (isValid : Bool) :
    (cache.put now key isValid).find? key = some ⟨key, isValid, now + cache.ttl⟩ := by
  simp [put, find?]

theorem get?_put_self (cache : VerdictCache) (now later : Nat) (key : String) (isValid : Bool) :
    (cache.put now key isValid).get? later key =
      if now + cache.ttl ≤ later then none else some isValid := by
  simp [get?, find?_put_self]

theorem mem_put_iff {cache : VerdictCache} {now : Nat} {key : String} {isValid : Bool}
    {verdict : Verdict} :
    verdict ∈ (cache.put now key isValid).verdicts ↔
      verdict = ⟨key, isValid, now + cache.ttl⟩ ∨
        verdict ∈ cache.verdicts ∧ now < verdict.expiresAt ∧ verdict.key ≠ key := by
  simp [put, live, and_comm]

end VerdictCache

end RouterGate
