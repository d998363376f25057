import Argon2Workbench.Measure.Benchmark
import Argon2Workbench.Proofs.Context.Sequence
import Argon2Workbench.Proofs.Scenario.Files

namespace Argon2Workbench

open Hash.Argon2 (Status Variant)

namespace Measure

/-- How many readings were taken of the clock and of the counter, and how many calls made. -/
structure Position where
  clock : Nat
  ticks : Nat
  calls : Nat

namespace Position

def after (position : Position) (points : Nat) : Position :=
  { clock := position.clock + 2 * points
    ticks := position.ticks + 3 * points
    calls := position.calls + 2 * points }

def next (position : Position) : Event → Position
  | .clock _ => { position with clock := position.clock + 1 }
  | .ticks _ => { position with ticks := position.ticks + 1 }
  | .call _ _ => { position with calls := position.calls + 1 }

def behind (position : Position) (events : List Event) : Position :=
  events.foldl next position

theorem behind_append (position : Position) (first last : List Event) :
    position.behind (first ++ last) = (position.behind first).behind last :=
  List.foldl_append

theorem after_after (position : Position) (first last : Nat) :
    (position.after first).after last = position.after (first + last) := by
  simp only [after, mk.injEq]
  omega

end Position

end Measure

def Scenario.position (scenario : Scenario) : Measure.Position :=
  { clock := scenario.clockReads, ticks := scenario.tickReads, calls := scenario.calls }

def Scenario.called [Machine] (scenario : Scenario) (context : Context)
    (variant : Variant) : Scenario :=
  { scenario with
    allocator := (scenario.answer context variant).allocator
    calls := scenario.calls + 1
    events := scenario.events ++ [.call context variant] }

theorem Scenario.measured_eq [Machine] (scenario : Scenario) (context : Context)
    (variant : Variant) :
    (Host.measured context variant : Run _) scenario =
      (scenario.answer context variant, scenario.called context variant) :=
  rfl

/-- From one scenario to the other the events have happened, a text was printed and records
were logged. What is laid down beforehand is the same in both. -/
structure Scenario.Proceeds (before after : Scenario) (happened : List Event) (text : Text)
    (noted : List Log.Record) : Prop where
  writes : before.Writes after text noted
  events : after.events = before.events ++ happened
  position : after.position = before.position.behind happened
  clock : after.clock = before.clock
  ticks : after.ticks = before.ticks
  primitive : after.primitive = before.primitive
  exacting : after.exacting = before.exacting

namespace Scenario.Proceeds

variable {before between after : Scenario} {happened later : List Event}
  {text following : Text} {noted last : List Log.Record}

theorem refl (scenario : Scenario) : scenario.Proceeds scenario [] [] [] :=
  ⟨.refl scenario, (List.append_nil _).symm, rfl, rfl, rfl, rfl, rfl⟩

theorem trans (first : before.Proceeds between happened text noted)
    (second : between.Proceeds after later following last) :
    before.Proceeds after (happened ++ later) (text ++ following) (noted ++ last) where
  writes := first.writes.trans second.writes
  events := by rw [second.events, first.events, List.append_assoc]
  position := by rw [second.position, first.position, Measure.Position.behind_append]
  clock := second.clock.trans first.clock
  ticks := second.ticks.trans first.ticks
  primitive := second.primitive.trans first.primitive
  exacting := second.exacting.trans first.exacting

theorem clocked (scenario : Scenario) :
    scenario.Proceeds scenario.clocked [.clock scenario.position.clock] [] [] := by
  refine ⟨?_, rfl, rfl, rfl, rfl, rfl, rfl⟩
  constructor <;> simp [Scenario.clocked]

theorem ticked (scenario : Scenario) :
    scenario.Proceeds scenario.ticked [.ticks scenario.position.ticks] [] [] := by
  refine ⟨?_, rfl, rfl, rfl, rfl, rfl, rfl⟩
  constructor <;> simp [Scenario.ticked]

theorem called [Machine] (scenario : Scenario) (context : Context) (variant : Variant) :
    scenario.Proceeds (scenario.called context variant) [.call context variant] [] [] := by
  refine ⟨?_, rfl, rfl, rfl, rfl, rfl, rfl⟩
  constructor <;> simp [Scenario.called]

theorem logged (scenario : Scenario) (records : List Log.Record) :
    scenario.Proceeds (scenario.logged records) [] [] records :=
  ⟨.logged scenario records, (List.append_nil _).symm, rfl, rfl, rfl, rfl, rfl⟩

theorem printed (scenario : Scenario) (text : Text) :
    scenario.Proceeds (scenario.printed text) [] text [] :=
  ⟨.printed scenario text, (List.append_nil _).symm, rfl, rfl, rfl, rfl, rfl⟩

end Scenario.Proceeds

def Primitive.answer [Machine] (primitive : Primitive) (call : Nat) (context : Context)
    (variant : Variant) :
    Invocation :=
  match primitive with
  | .real => context.invoke variant false {}
  | .scripted status => { result := .ok (status call), context, allocator := {} }

namespace Context

/-- The context has no allocator of its own, and its password is kept. -/
structure Plain (context : Context) : Prop where
  allocator : context.customAllocator = false
  password : context.clearPassword = false

variable {context : Context}

theorem Plain.rewritten (plain : context.Plain) (written : Bytes) :
    ({ context with written } : Context).Plain :=
  ⟨plain.allocator, plain.password⟩

/-- Without an allocator of its own a context is called the same with any. -/
theorem Plain.invoke_eq [Machine] (plain : context.Plain) (variant : Variant) (recording : Bool)
    (allocator : Allocator) :
    context.invoke variant recording allocator =
      { context.invoke variant recording {} with allocator } := by
  cases fits : context.unmarshallable? with
  | some error => simp only [invoke, fits]
  | none =>
      simp only [invoke, fits, status_default plain.allocator]
      by_cases done : context.inputs.outcome = Status.ok
      · obtain ⟨record, recorded⟩ := (context.withTag variant).record_ok fits variant
        simp only [if_pos done, recorded]
        split <;> rfl
      · simp only [if_neg done]

/-- Where the password is kept, only the output buffer is written to. -/
theorem Plain.context_invoke [Machine] (plain : context.Plain) (variant : Variant)
    (recording : Bool)
    (allocator : Allocator) :
    ∃ written, (context.invoke variant recording allocator).context = { context with written } := by
  by_cases done : (context.invoke variant recording allocator).result = .ok Status.ok
  · obtain ⟨-, -, left⟩ := invoke_succeeded done
    have keeping : ¬ (context.withTag variant).Wipes := by
      rintro ⟨wiping, -⟩
      exact absurd (plain.password.symm.trans wiping) (by decide)
    rw [left, wiped_of_not_wipes keeping]
    exact ⟨_, rfl⟩
  · rw [(invoke_failed done).1]
    exact ⟨context.written, rfl⟩

theorem Plain.context_answer [Machine] (plain : context.Plain) (primitive : Primitive) (call : Nat)
    (variant : Variant) :
    (primitive.answer call context variant).context =
      { context with written := (primitive.answer call context variant).context.written } := by
  cases primitive with
  | scripted status => rfl
  | real =>
      obtain ⟨written, left⟩ := plain.context_invoke variant false {}
      simp only [Primitive.answer, left]

end Context

namespace Measure

variable {scenario : Scenario} {context : Context} {variant : Variant} {status : Status}

theorem answer_eq [Machine] (plain : context.Plain) (variant : Variant) :
    scenario.answer context variant =
      { scenario.primitive.answer scenario.position.calls context variant with
        allocator := scenario.allocator } := by
  cases primitive : scenario.primitive with
  | real =>
      simp only [Scenario.answer, Primitive.answer, primitive]
      exact plain.invoke_eq variant false scenario.allocator
  | scripted status =>
      simp only [Scenario.answer, Primitive.answer, primitive]
      rfl

/-- A call that returns a status leaves the context that the primitive has left. -/
theorem run_answered [Machine] (plain : context.Plain)
    (returned : (scenario.primitive.answer scenario.position.calls context variant).result =
      .ok status) :
    let answer := scenario.primitive.answer scenario.position.calls context variant
    ∃ after, scenario.run (call context variant) = (.ok (answer.context, status), after) ∧
      scenario.Proceeds after [.call context variant] [] answer.log := by
  intro answer
  have same : scenario.answer context variant = { answer with allocator := scenario.allocator } :=
    answer_eq plain variant
  have result : (scenario.answer context variant).result = .ok status := by rw [same]; exact returned
  have ran : scenario.run (call context variant) = _ :=
    Scenario.run_settled (scenario.measured_eq context variant) result
      (scenario.record_answer context variant)
  have ended := (Scenario.Proceeds.called scenario context variant).trans
    (.logged _ (scenario.answer context variant).log)
  rw [same] at ran ended
  exact ⟨_, ran, ended⟩

theorem run_raised [Machine] {error : InvocationError} (plain : context.Plain)
    (raised : (scenario.primitive.answer scenario.position.calls context variant).result =
      .error error) :
    ∃ after noted, scenario.run (call context variant) = (.error (.invocation error), after) ∧
      scenario.Proceeds after [.call context variant] [] noted := by
  have result : (scenario.answer context variant).result = .error error := by
    rw [answer_eq plain variant]
    exact raised
  exact ⟨_, _, Scenario.run_settled_error (scenario.measured_eq context variant) result,
    (Scenario.Proceeds.called scenario context variant).trans (.logged _ _)⟩

/-- What is read off the clock and off the counter, reading by reading. -/
structure Readings where
  times : Nat → Binary64
  cycles : Nat → Int

/-- From a position on these are the readings of so many points. -/
structure Shown (scenario : Scenario) (counter : CycleCounter) (readings : Readings)
    (start : Position) (points : Nat) : Prop where
  clock : ∀ index < 2 * points,
    scenario.clock (start.clock + index) = some (readings.times (start.clock + index))
  ticks : ∀ index < 3 * points, ∃ reading,
    scenario.ticks (start.ticks + index) = some reading ∧
      counter.cycles reading = .ok (readings.cycles (start.ticks + index))

theorem Shown.later {before after : Scenario} {counter : CycleCounter} {readings : Readings}
    {start : Position} {points : Nat} {happened : List Event} {text : Text}
    {noted : List Log.Record} (shown : Shown before counter readings start points)
    (proceeds : before.Proceeds after happened text noted) :
    Shown after counter readings start points := by
  constructor
  · rw [proceeds.clock]
    exact shown.clock
  · rw [proceeds.ticks]
    exact shown.ticks

section

variable [Machine]

variable {before : Scenario} {counter : CycleCounter} {readings : Readings} {points : Nat}
  {happened : List Event} {text : Text} {noted : List Log.Record}
  (reached : before.Proceeds scenario happened text noted)

include reached

theorem run_clock_shown (index : Nat)
    (shown : Shown before counter readings before.position points)
    (number : (before.position.behind happened).clock = before.position.clock + index)
    (inside : index < 2 * points) :
    ∃ after,
      scenario.run Host.readClock = (.ok (readings.times (before.position.clock + index)), after) ∧
      before.Proceeds after (happened ++ [.clock (before.position.clock + index)]) text noted := by
  have place : scenario.clockReads = before.position.clock + index := by
    rw [← number, ← reached.position]
    rfl
  have read : scenario.clock scenario.clockReads =
      some (readings.times (before.position.clock + index)) := by
    rw [reached.clock, place, shown.clock index inside]
  have extended := reached.trans (.clocked scenario)
  rw [List.append_nil, List.append_nil, reached.position, number] at extended
  exact ⟨_, Scenario.run_readClock read, extended⟩

theorem run_cycles_shown (index : Nat)
    (shown : Shown before counter readings before.position points)
    (number : (before.position.behind happened).ticks = before.position.ticks + index)
    (inside : index < 3 * points) :
    ∃ after,
      scenario.run (Host.readCycles counter) =
        (.ok (readings.cycles (before.position.ticks + index)), after) ∧
      before.Proceeds after (happened ++ [.ticks (before.position.ticks + index)]) text noted := by
  have place : scenario.tickReads = before.position.ticks + index := by
    rw [← number, ← reached.position]
    rfl
  obtain ⟨reading, ticked, counted⟩ := shown.ticks index inside
  have read : scenario.ticks scenario.tickReads = some reading := by
    rw [reached.ticks, place, ticked]
  have extended := reached.trans (.ticked scenario)
  rw [List.append_nil, List.append_nil, reached.position, number] at extended
  exact ⟨_, Scenario.run_readCycles read counted, extended⟩

theorem run_call_answered (index : Nat) (plain : context.Plain)
    (number : (before.position.behind happened).calls = before.position.calls + index)
    (returned : (before.primitive.answer (before.position.calls + index) context variant).result =
      .ok status) :
    let answer := before.primitive.answer (before.position.calls + index) context variant
    ∃ after, scenario.run (call context variant) = (.ok (answer.context, status), after) ∧
      before.Proceeds after (happened ++ [.call context variant]) text (noted ++ answer.log) := by
  intro answer
  have same : scenario.primitive.answer scenario.position.calls context variant = answer := by
    rw [reached.primitive, reached.position, number]
  obtain ⟨after, ran, extended⟩ := run_answered plain (by rw [same]; exact returned)
  rw [same] at ran extended
  have further := reached.trans extended
  rw [List.append_nil] at further
  exact ⟨after, ran, further⟩

theorem run_call_raised {error : InvocationError} (plain : context.Plain)
    (raised : (before.primitive.answer (before.position.behind happened).calls context
      variant).result = .error error) :
    ∃ after later, scenario.run (call context variant) = (.error (.invocation error), after) ∧
      before.Proceeds after (happened ++ [.call context variant]) text later := by
  rw [← reached.primitive, ← reached.position] at raised
  obtain ⟨after, later, ran, extended⟩ := run_raised plain raised
  have further := reached.trans extended
  rw [List.append_nil] at further
  exact ⟨after, _, ran, further⟩

end

end Measure

end Argon2Workbench
