import Argon2Workbench.Proofs.Measure.Protocol
import Argon2Workbench.Proofs.Number.Order
import Argon2Workbench.Proofs.Scenario.Keeping

/-! A counter over ticks that never fall.

Nothing but the counter reads the ticks, so the readings of a program are those that come next in
the series, one for each time it reads. What the counter makes of them is in the same order.
-/

namespace Argon2Workbench

open Hash.Argon2 (Status Variant)

namespace Scenario

variable {First : Type} {scenario before between after : Scenario}

def Ascending (scenario : Scenario) : Prop :=
  ∀ first last earlier later, first ≤ last → scenario.ticks first = some earlier →
    scenario.ticks last = some later → earlier ≤ later

/-- From one scenario to the other so many ticks of the same series were read. -/
structure Draws (before after : Scenario) (count : Nat) : Prop where
  series : after.ticks = before.ticks
  reads : after.tickReads = before.tickReads + count

def nextTick (scenario : Scenario) : Series Int × Nat :=
  (scenario.ticks, scenario.tickReads)

namespace Draws

variable {earlier later : Nat}

theorem refl (scenario : Scenario) : scenario.Draws scenario 0 :=
  ⟨rfl, rfl⟩

theorem trans (first : before.Draws between earlier) (second : between.Draws after later) :
    before.Draws after (earlier + later) :=
  ⟨second.series.trans first.series, by rw [second.reads, first.reads, Nat.add_assoc]⟩

theorem ticked (scenario : Scenario) : scenario.Draws scenario.ticked 1 :=
  ⟨rfl, rfl⟩

theorem of_keeps {program : Host.Program Run First} {outcome : Except Fault First}
    (keeps : Keeps nextTick program) (ran : before.run program = (outcome, after)) :
    before.Draws after 0 := by
  have same := keeps before
  rw [ran] at same
  obtain ⟨series, reads⟩ := Prod.mk.inj same
  exact ⟨series, reads⟩

/-- The tick that comes next is as far behind the first as ticks were read since. -/
theorem tick (draws : before.Draws after later) {reading : Int}
    (read : after.ticks after.tickReads = some reading) :
    before.ticks (before.tickReads + later) = some reading := by
  rw [← draws.series, ← draws.reads]
  exact read

end Draws

theorem keeps_readClock [Machine] : Keeps nextTick Host.readClock := by
  refine .bind (.lift fun scenario => rfl) fun reading => ?_
  cases reading with
  | some reading => exact .pure reading
  | none => exact .throw .seriesEnded

theorem keeps_call [Machine] (context : Context) (variant : Variant) :
    Keeps nextTick (Measure.call context variant) := by
  intro scenario
  have left : (scenario.run (Measure.call context variant)).2 = _ :=
    left_settled (scenario.measured_eq context variant) (scenario.record_answer context variant)
  rw [left]
  rfl

variable {counter : CycleCounter}

theorem run_readCycles_eq_ok [Machine] {cycles : Int}
    (ran : scenario.run (Host.readCycles counter) = (.ok cycles, after)) :
    ∃ reading, scenario.ticks scenario.tickReads = some reading ∧
      counter.cycles reading = .ok cycles ∧ scenario.Draws after 1 := by
  obtain ⟨answer, between, read, ran⟩ := run_bind_eq_ok ran
  cases read
  cases next : scenario.ticks scenario.tickReads with
  | none =>
      rw [next] at ran
      exact nomatch (Prod.mk.inj ran).1
  | some reading =>
      rw [next] at ran
      obtain ⟨counted, rfl⟩ := run_orFault_eq_ok ran
      exact ⟨reading, rfl, counted, .ticked scenario⟩

end Scenario

namespace Measure

variable {scenario after : Scenario} {counter : CycleCounter}

def reads [Machine] (counter : CycleCounter) (count : Nat) : Host.Program Scenario.Run (List Int) :=
  (List.replicate count counter).mapM Host.readCycles

/-- The reading that comes as the one with this number counts for so many cycles. -/
def Counts (scenario : Scenario) (counter : CycleCounter) (index : Nat) (cycles : Int) : Prop :=
  ∃ reading, scenario.ticks (scenario.tickReads + index) = some reading ∧
    counter.cycles reading = .ok cycles

theorem Counts.mono (ascending : scenario.Ascending) {first last : Nat} {earlier later : Int}
    (firstCounts : Counts scenario counter first earlier)
    (lastCounts : Counts scenario counter last later) (order : first ≤ last) :
    earlier ≤ later := by
  obtain ⟨earlierTicks, firstRead, firstCounted⟩ := firstCounts
  obtain ⟨laterTicks, lastRead, lastCounted⟩ := lastCounts
  have ticks := ascending _ _ _ _ (Nat.add_le_add_left order scenario.tickReads) firstRead lastRead
  exact CycleCounter.cycles_mono ticks firstCounted lastCounted

theorem Counts.behind {between : Scenario} {drawn index : Nat} {cycles : Int}
    (draws : scenario.Draws between drawn) (counts : Counts between counter index cycles) :
    Counts scenario counter (drawn + index) cycles := by
  obtain ⟨reading, read, counted⟩ := counts
  rw [draws.series, draws.reads, Nat.add_assoc] at read
  exact ⟨reading, read, counted⟩

theorem run_readCycles_counts [Machine] {between : Scenario} {drawn : Nat} {cycles : Int}
    (draws : scenario.Draws between drawn)
    (ran : between.run (Host.readCycles counter) = (.ok cycles, after)) :
    Counts scenario counter drawn cycles ∧ scenario.Draws after (drawn + 1) := by
  obtain ⟨reading, read, counted, drew⟩ := Scenario.run_readCycles_eq_ok ran
  exact ⟨⟨reading, draws.tick read, counted⟩, draws.trans drew⟩

theorem run_reads_counts [Machine] {count : Nat} {values : List Int}
    (ran : scenario.run (reads counter count) = (.ok values, after)) :
    values.length = count ∧
      ∀ index, (inside : index < values.length) → Counts scenario counter index values[index] := by
  induction count generalizing scenario values with
  | zero =>
      cases ran
      exact ⟨rfl, fun index inside => absurd inside (Nat.not_lt_zero index)⟩
  | succ count ih =>
      rw [reads, List.replicate_succ, List.mapM_cons] at ran
      obtain ⟨cycles, between, read, ran⟩ := Scenario.run_bind_eq_ok ran
      obtain ⟨others, last, rest, ran⟩ := Scenario.run_bind_eq_ok ran
      cases ran
      obtain ⟨counts, draws⟩ := run_readCycles_counts (.refl scenario) read
      obtain ⟨length, later⟩ := ih rest
      refine ⟨by rw [List.length_cons, length], fun index inside => ?_⟩
      cases index with
      | zero => exact counts
      | succ index =>
          have behind := (later index (Nat.lt_of_succ_lt_succ inside)).behind draws
          rw [Nat.zero_add, Nat.add_comm] at behind
          exact behind

/-- As long as the ticks that come next can be turned into cycles, the reads succeed. -/
theorem run_reads_ok [Machine] {count : Nat}
    (counted : ∀ index < count, ∃ cycles, Counts scenario counter index cycles) :
    ∃ values after, scenario.run (reads counter count) = (.ok values, after) := by
  induction count generalizing scenario with
  | zero => exact ⟨[], scenario, rfl⟩
  | succ count ih =>
      obtain ⟨cycles, reading, read, converted⟩ := counted 0 (Nat.succ_pos count)
      have first := Scenario.run_readCycles read converted
      have later : ∀ index < count, ∃ cycles, Counts scenario.ticked counter index cycles := by
        intro index inside
        obtain ⟨cycles, reading, read, converted⟩ := counted (index + 1) (Nat.succ_lt_succ inside)
        rw [Nat.add_comm index, ← Nat.add_assoc] at read
        exact ⟨cycles, reading, read, converted⟩
      obtain ⟨others, after, rest⟩ := ih later
      rw [reads] at rest ⊢
      refine ⟨cycles :: others, after, ?_⟩
      rw [List.replicate_succ, List.mapM_cons, Scenario.run_bind_ok _ first,
        Scenario.run_bind_ok _ rest]
      rfl

/-- A sample holds the three readings that come next. -/
theorem run_sample_counts [Machine] {memory threads : Int} {sample : Sample}
    (ran : scenario.run (Measure.sample memory threads counter) = (.ok sample, after)) :
    Counts scenario counter 0 sample.startCycles ∧ Counts scenario counter 1 sample.middleCycles ∧
      Counts scenario counter 2 sample.stopCycles := by
  rw [Measure.sample] at ran
  obtain ⟨context, _, built, ran⟩ := Scenario.run_bind_eq_ok ran
  obtain ⟨startTime, _, started, ran⟩ := Scenario.run_bind_eq_ok ran
  obtain ⟨startCycles, _, readStart, ran⟩ := Scenario.run_bind_eq_ok ran
  obtain ⟨⟨between, statusD⟩, _, calledD, ran⟩ := Scenario.run_bind_eq_ok ran
  obtain ⟨middleCycles, _, readMiddle, ran⟩ := Scenario.run_bind_eq_ok ran
  obtain ⟨⟨finished, statusI⟩, _, calledI, ran⟩ := Scenario.run_bind_eq_ok ran
  obtain ⟨stopCycles, _, readStop, ran⟩ := Scenario.run_bind_eq_ok ran
  obtain ⟨stopTime, _, -, ran⟩ := Scenario.run_bind_eq_ok ran
  obtain ⟨-, _, -, ran⟩ := Scenario.run_bind_eq_ok ran
  obtain ⟨-, _, -, ran⟩ := Scenario.run_bind_eq_ok ran
  cases ran
  -- Between two reads of the counter nobody else reads a tick.
  have opened := (Scenario.Draws.of_keeps (.orFault _ _) built).trans
    (.of_keeps Scenario.keeps_readClock started)
  obtain ⟨startCounts, draws⟩ := run_readCycles_counts opened readStart
  have draws := draws.trans (.of_keeps (Scenario.keeps_call _ _) calledD)
  obtain ⟨middleCounts, draws⟩ := run_readCycles_counts draws readMiddle
  have draws := draws.trans (.of_keeps (Scenario.keeps_call _ _) calledI)
  obtain ⟨stopCounts, -⟩ := run_readCycles_counts draws readStop
  exact ⟨startCounts, middleCounts, stopCounts⟩

/-- On ticks that never fall the counter never falls either, whatever its frequency is, and so no
sample that is measured on them has a call of fewer cycles than none. -/
theorem cycles_never_fall [Machine] (counter : CycleCounter) (scenario : Scenario)
    (ascending : scenario.Ascending) :
    (∀ count, (∀ index < count, ∃ cycles, Counts scenario counter index cycles) →
      ∃ values after, scenario.run (reads counter count) = (.ok values, after)) ∧
    (∀ count values after, scenario.run (reads counter count) = (.ok values, after) →
      values.length = count ∧ values.Pairwise (· ≤ ·)) ∧
    (∀ memory threads sample after,
      scenario.run (Measure.sample memory threads counter) = (.ok sample, after) →
        ∀ variant, 0 ≤ sample.cycles variant) := by
  refine ⟨fun count => run_reads_ok, ?_, ?_⟩
  · intro count values after ran
    obtain ⟨length, counts⟩ := run_reads_counts ran
    refine ⟨length, List.pairwise_iff_getElem.mpr fun first last firstInside lastInside order => ?_⟩
    exact (counts first firstInside).mono ascending (counts last lastInside) (Nat.le_of_lt order)
  · intro memory threads sample after ran variant
    obtain ⟨start, middle, stop⟩ := run_sample_counts ran
    cases variant with
    | d => exact Int.sub_nonneg_of_le (start.mono ascending middle (by decide))
    | i => exact Int.sub_nonneg_of_le (middle.mono ascending stop (by decide))

attribute [local instance] Machine.workstation

/-- The ticks start below zero and go up in threes. -/
def rising : Scenario :=
  { clock := fun _ => some .zero
    ticks := Series.integers (-3) 3 0
    primitive := .scripted fun _ => Status.ok }

/-- A counter at two and a half gigahertz. -/
def quick : CycleCounter :=
  ⟨.ofRatio false 5 2, by decide +kernel⟩

theorem rising_ascending : rising.Ascending := by
  intro first last earlier later order firstRead lastRead
  cases firstRead
  cases lastRead
  omega

/-- What the counter makes of the ticks is cut off towards zero on both of its sides. -/
def Readings.rising : Readings :=
  { times := fun _ => .zero, cycles := fun index => [-7, 0, 7].getD index 0 }

theorem shown_rising : Shown rising quick .rising ⟨0, 0, 0⟩ 1 := by
  refine ⟨fun _ _ => rfl, fun index inside => ?_⟩
  match index, inside with
  | 0, _ => exact ⟨-3, rfl, by decide +kernel⟩
  | 1, _ => exact ⟨0, rfl, by decide +kernel⟩
  | 2, _ => exact ⟨3, rfl, by decide +kernel⟩

theorem rising_counts_upwards :
    rising.Ascending ∧
    (∃ values after, rising.run (reads quick 3) = (.ok values, after) ∧
      values.length = 3 ∧ values.Pairwise (· ≤ ·)) ∧
    ∃ sample after, rising.run (Measure.sample 16 1 quick) = (.ok sample, after) ∧
      (sample.startCycles, sample.middleCycles, sample.stopCycles) = (-7, 0, 7) ∧
      0 ≤ sample.cycles .d ∧ 0 ≤ sample.cycles .i := by
  have counted (index : Nat) (inside : index < 3) : ∃ cycles, Counts rising quick index cycles :=
    ⟨_, shown_rising.ticks index inside⟩
  have built : (Request.measurement 16 1).build = .ok (contextAt (16, 1)) := rfl
  have answered : Answered rising.primitive rising.position (16, 1) Status.ok Status.ok :=
    ⟨rfl, rfl⟩
  obtain ⟨_, -, measured⟩ := run_sample_checked built shown_rising answered
  have returned := measured.trans (run_checked _ _)
  obtain ⟨readable, ordered, natural⟩ := cycles_never_fall quick rising rising_ascending
  obtain ⟨values, _, read⟩ := readable 3 counted
  obtain ⟨length, upwards⟩ := ordered 3 _ _ read
  exact ⟨rising_ascending, ⟨values, _, read, length, upwards⟩, _, _, returned, rfl,
    natural 16 1 _ _ returned .d, natural 16 1 _ _ returned .i⟩

end Measure

end Argon2Workbench
