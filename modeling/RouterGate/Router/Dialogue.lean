import RouterGate.Log.Event
import RouterGate.Router.Exchange
/-!
Dialogues with a router: what is asked next depends on the replies so far, and on the way
things are noted for the operator.
-/
namespace RouterGate.Router

inductive Dialogue (α : Type) where
  | done (value : α)
  | ask (request : Request) (next : Reply → Dialogue α)
  | note (event : Log.Event) (rest : Dialogue α)

structure Outcome (α : Type) where
  value : α
  exchanges : List Exchange
  events : List Log.Event

namespace Dialogue

def bind (dialogue : Dialogue α) (next : α → Dialogue β) : Dialogue β :=
  match dialogue with
  | .done value => next value
  | .ask request rest => .ask request fun reply => (rest reply).bind next
  | .note event rest => .note event (rest.bind next)

instance : Monad Dialogue where
  pure := .done
  bind := bind

def say (event : Log.Event) : Dialogue Unit :=
  .note event (.done ())

def request (question : Request) : Dialogue Reply :=
  .ask question .done

/-- The dialogue that also tells how long its exchanges took. -/
def timed : Dialogue α → Dialogue (α × Nat)
  | .done value => .done (value, 0)
  | .ask question next => .ask question fun reply =>
      (next reply).timed.bind fun (value, rest) => .done (value, reply.elapsed + rest)
  | .note event rest => .note event rest.timed

/-- Hold a dialogue by whatever makes requests and tells events. -/
def converse [Monad m] (ask : Request → m Reply) (tell : Log.Event → m Unit) :
    Dialogue α → m α
  | .done value => pure value
  | .ask question next => do
      let reply ← ask question
      (next reply).converse ask tell
  | .note event rest => do
      tell event
      rest.converse ask tell

/-- Hold a dialogue with a router, after the exchanges of the past. -/
def run (router : Behavior) (past : List Exchange) : Dialogue α → Outcome α
  | .done value => ⟨value, [], []⟩
  | .ask question next =>
      let exchange : Exchange := ⟨question, router past question⟩
      let rest := (next exchange.reply).run router (past ++ [exchange])
      ⟨rest.value, exchange :: rest.exchanges, rest.events⟩
  | .note event rest =>
      let outcome := rest.run router past
      ⟨outcome.value, outcome.exchanges, event :: outcome.events⟩

@[simp] theorem run_done (router : Behavior) (past : List Exchange) (value : α) :
    (Dialogue.done value).run router past = ⟨value, [], []⟩ := rfl

@[simp] theorem run_ask (router : Behavior) (past : List Exchange) (question : Request)
    (next : Reply → Dialogue α) :
    (Dialogue.ask question next).run router past =
      let exchange : Exchange := ⟨question, router past question⟩
      let rest := (next exchange.reply).run router (past ++ [exchange])
      ⟨rest.value, exchange :: rest.exchanges, rest.events⟩ := rfl

@[simp] theorem run_note (router : Behavior) (past : List Exchange) (event : Log.Event)
    (rest : Dialogue α) :
    (Dialogue.note event rest).run router past =
      ⟨(rest.run router past).value, (rest.run router past).exchanges,
        event :: (rest.run router past).events⟩ := rfl

/-- A dialogue in which the router is asked nothing. -/
inductive AsksNothing : Dialogue α → Prop
  | done (value : α) : AsksNothing (.done value)
  | note {event : Log.Event} {rest : Dialogue α} (later : AsksNothing rest) :
      AsksNothing (.note event rest)

theorem AsksNothing.exchanges_eq {dialogue : Dialogue α} (quiet : dialogue.AsksNothing)
    (router : Behavior) (past : List Exchange) : (dialogue.run router past).exchanges = [] := by
  induction quiet with
  | done value => rfl
  | note later induction => exact induction

theorem run_bind (router : Behavior) (past : List Exchange) (dialogue : Dialogue α)
    (next : α → Dialogue β) :
    (dialogue.bind next).run router past =
      let first := dialogue.run router past
      let second := (next first.value).run router (past ++ first.exchanges)
      ⟨second.value, first.exchanges ++ second.exchanges, first.events ++ second.events⟩ := by
  induction dialogue generalizing past with
  | done value => simp [bind]
  | ask question rest induction => simp [bind, induction]
  | note event rest induction => simp [bind, induction]

end Dialogue

namespace Outcome

def elapsed (outcome : Outcome α) : Nat :=
  outcome.exchanges.foldr (fun exchange later => exchange.reply.elapsed + later) 0

end Outcome

namespace Dialogue

theorem run_timed (router : Behavior) (past : List Exchange) (dialogue : Dialogue α) :
    dialogue.timed.run router past =
      let outcome := dialogue.run router past
      ⟨(outcome.value, outcome.elapsed), outcome.exchanges, outcome.events⟩ := by
  induction dialogue generalizing past with
  | done value => rfl
  | ask question rest induction =>
      simp [timed, run_bind, induction, Outcome.elapsed]
  | note event rest induction =>
      simp [timed, induction, Outcome.elapsed]

theorem run_pure (router : Behavior) (past : List Exchange) (value : α) :
    (pure value : Dialogue α).run router past = ⟨value, [], []⟩ := rfl

/-- `run_bind` for dialogues in `do` notation. -/
theorem run_seq (router : Behavior) (past : List Exchange) (dialogue : Dialogue α)
    (next : α → Dialogue β) :
    (dialogue >>= next).run router past =
      let first := dialogue.run router past
      let second := (next first.value).run router (past ++ first.exchanges)
      ⟨second.value, first.exchanges ++ second.exchanges, first.events ++ second.events⟩ :=
  run_bind router past dialogue next

theorem run_say (router : Behavior) (past : List Exchange) (event : Log.Event)
    (next : Unit → Dialogue α) :
    (say event >>= next).run router past =
      let rest := (next ()).run router past
      ⟨rest.value, rest.exchanges, event :: rest.events⟩ := rfl

end Dialogue

end RouterGate.Router
