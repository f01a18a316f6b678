import RouterGate.Router.Dialogue
/-!
The ways in which a dialogue can go. Whatever the router, the exchanges of a dialogue and what it
comes to stand in one relation, which follows the dialogue and knows no router at all.
-/
namespace RouterGate.Router.Dialogue

/-- A dialogue that is held with these exchanges comes to this value. -/
inductive Yields : Dialogue α → List Exchange → α → Prop
  | done (value : α) : Yields (.done value) [] value
  | ask {question : Request} {reply : Reply} {next : Reply → Dialogue α}
      {rest : List Exchange} {value : α}
      (later : Yields (next reply) rest value) :
      Yields (.ask question next) (⟨question, reply⟩ :: rest) value
  | note {event : Log.Event} {rest : Dialogue α} {exchanges : List Exchange} {value : α}
      (later : Yields rest exchanges value) :
      Yields (.note event rest) exchanges value

/-- Every router holds a dialogue in one of its ways. -/
theorem yields_run (router : Behavior) (past : List Exchange) (dialogue : Dialogue α) :
    dialogue.Yields (dialogue.run router past).exchanges (dialogue.run router past).value := by
  induction dialogue generalizing past with
  | done value => exact .done value
  | ask question next induction =>
      rw [run_ask]
      exact .ask (induction _ _)
  | note event rest induction =>
      rw [run_note]
      exact .note (induction past)

@[simp] theorem yields_done_iff {value result : α} {exchanges : List Exchange} :
    (Dialogue.done value).Yields exchanges result ↔ exchanges = [] ∧ result = value := by
  constructor
  · intro held
    cases held
    exact ⟨rfl, rfl⟩
  · intro same
    obtain ⟨rfl, rfl⟩ := same
    exact .done result

@[simp] theorem yields_note_iff {event : Log.Event} {rest : Dialogue α}
    {exchanges : List Exchange} {result : α} :
    (Dialogue.note event rest).Yields exchanges result ↔ rest.Yields exchanges result := by
  constructor
  · intro held
    cases held with
    | note later => exact later
  · exact .note

theorem yields_ask_iff {question : Request} {next : Reply → Dialogue α}
    {exchanges : List Exchange} {result : α} :
    (Dialogue.ask question next).Yields exchanges result ↔
      ∃ reply rest, exchanges = ⟨question, reply⟩ :: rest ∧
        (next reply).Yields rest result := by
  constructor
  · intro held
    cases held with
    | ask later => exact ⟨_, _, rfl, later⟩
  · intro asked
    obtain ⟨reply, rest, rfl, later⟩ := asked
    exact .ask later

theorem yields_bind_iff {dialogue : Dialogue α} {next : α → Dialogue β}
    {exchanges : List Exchange} {result : β} :
    (dialogue >>= next).Yields exchanges result ↔
      ∃ first middle second, exchanges = first ++ second ∧
        dialogue.Yields first middle ∧ (next middle).Yields second result := by
  -- The induction is on the first dialogue, so the operator has to give way to its recursion.
  change (dialogue.bind next).Yields exchanges result ↔ _
  induction dialogue generalizing exchanges with
  | done value =>
      constructor
      · intro held
        exact ⟨[], value, exchanges, rfl, .done value, held⟩
      · intro split
        obtain ⟨first, middle, second, rfl, held, later⟩ := split
        obtain ⟨rfl, rfl⟩ := yields_done_iff.mp held
        exact later
  | ask question rest induction =>
      simp only [bind, yields_ask_iff, induction]
      constructor
      · intro asked
        obtain ⟨reply, _, rfl, first, middle, second, rfl, held, later⟩ := asked
        exact ⟨_ :: first, middle, second, rfl, ⟨reply, first, rfl, held⟩, later⟩
      · intro split
        obtain ⟨_, middle, second, rfl, ⟨reply, first, rfl, held⟩, later⟩ := split
        exact ⟨reply, _, rfl, first, middle, second, rfl, held, later⟩
  | note event rest induction =>
      simp only [bind, yields_note_iff, induction]

@[simp] theorem yields_pure_iff {value result : α} {exchanges : List Exchange} :
    (pure value : Dialogue α).Yields exchanges result ↔ exchanges = [] ∧ result = value :=
  yields_done_iff

theorem yields_map_iff {dialogue : Dialogue α} {f : α → β} {exchanges : List Exchange}
    {result : β} :
    (dialogue >>= fun value => pure (f value)).Yields exchanges result ↔
      ∃ value, dialogue.Yields exchanges value ∧ result = f value := by
  constructor
  · intro held
    obtain ⟨first, value, second, rfl, asked, later⟩ := yields_bind_iff.mp held
    obtain ⟨rfl, rfl⟩ := yields_pure_iff.mp later
    rw [List.append_nil]
    exact ⟨value, asked, rfl⟩
  · intro mapped
    obtain ⟨value, asked, rfl⟩ := mapped
    exact yields_bind_iff.mpr ⟨exchanges, value, [], (List.append_nil _).symm, asked, .done _⟩

theorem yields_wrap_iff {dialogue : Dialogue (α × γ)} {wrap : α → β}
    {exchanges : List Exchange} {result : β} {kept : γ} :
    (dialogue >>= fun pair => pure (wrap pair.1, pair.2)).Yields exchanges (result, kept) ↔
      ∃ value, dialogue.Yields exchanges (value, kept) ∧ result = wrap value := by
  rw [yields_map_iff]
  constructor
  · intro held
    obtain ⟨⟨value, after⟩, asked, same⟩ := held
    cases same
    exact ⟨value, asked, rfl⟩
  · intro held
    obtain ⟨value, asked, rfl⟩ := held
    exact ⟨(value, kept), asked, rfl⟩

@[simp] theorem yields_say_iff {event : Log.Event} {next : Unit → Dialogue α}
    {exchanges : List Exchange} {result : α} :
    (say event >>= next).Yields exchanges result ↔ (next ()).Yields exchanges result :=
  yields_note_iff

@[simp] theorem yields_tell_iff {events : List Log.Event} {next : Unit → Dialogue α}
    {exchanges : List Exchange} {result : α} :
    (events.forM say >>= next).Yields exchanges result ↔ (next ()).Yields exchanges result := by
  induction events with
  | nil => rfl
  | cons event rest induction =>
      change (Dialogue.note event (rest.forM say >>= next)).Yields exchanges result ↔ _
      rw [yields_note_iff]
      exact induction

theorem Yields.unique {dialogue : Dialogue α} {exchanges : List Exchange} {first second : α}
    (left : dialogue.Yields exchanges first) (right : dialogue.Yields exchanges second) :
    first = second := by
  induction left with
  | done value => exact (yields_done_iff.mp right).2.symm
  | ask later induction =>
      cases right with
      | ask other => exact induction other
  | note later induction => exact induction (yields_note_iff.mp right)

theorem AsksNothing.eq_nil {dialogue : Dialogue α} (quiet : dialogue.AsksNothing)
    {exchanges : List Exchange} {value : α} (held : dialogue.Yields exchanges value) :
    exchanges = [] := by
  induction quiet with
  | done result => exact (yields_done_iff.mp held).1
  | note later induction => exact induction (yields_note_iff.mp held)

def duration (exchanges : List Exchange) : Nat :=
  exchanges.foldr (fun exchange later => exchange.reply.elapsed + later) 0

@[simp] theorem duration_nil : duration [] = 0 := rfl

/-- The timed dialogue goes as the plain one, and tells how long it took. -/
theorem yields_timed_iff {dialogue : Dialogue α} {exchanges : List Exchange} {result : α}
    {took : Nat} :
    dialogue.timed.Yields exchanges (result, took) ↔
      dialogue.Yields exchanges result ∧ took = duration exchanges := by
  induction dialogue generalizing exchanges took with
  | done value =>
      simp only [timed, yields_done_iff, Prod.mk.injEq]
      constructor
      · intro same
        obtain ⟨rfl, rfl, rfl⟩ := same
        exact ⟨⟨rfl, rfl⟩, rfl⟩
      · intro same
        obtain ⟨⟨rfl, rfl⟩, rfl⟩ := same
        exact ⟨rfl, rfl, rfl⟩
  | ask question next induction =>
      simp only [timed, yields_ask_iff]
      constructor
      · intro asked
        obtain ⟨reply, rest, rfl, held⟩ := asked
        obtain ⟨first, ⟨middle, spent⟩, second, rfl, early, late⟩ := yields_bind_iff.mp held
        obtain ⟨rfl, same⟩ := yields_done_iff.mp late
        obtain ⟨rfl, rfl⟩ := Prod.mk.inj same
        obtain ⟨plain, rfl⟩ := (induction reply).mp early
        rw [List.append_nil]
        exact ⟨⟨reply, first, rfl, plain⟩, rfl⟩
      · intro asked
        obtain ⟨⟨reply, rest, rfl, plain⟩, rfl⟩ := asked
        refine ⟨reply, rest, rfl, yields_bind_iff.mpr ?_⟩
        exact ⟨rest, (result, duration rest), [], (List.append_nil rest).symm,
          (induction reply).mpr ⟨plain, rfl⟩, .done _⟩
  | note event rest induction =>
      simp only [timed, yields_note_iff, induction]

end RouterGate.Router.Dialogue
