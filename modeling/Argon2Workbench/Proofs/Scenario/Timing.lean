import Argon2Workbench.Proofs.Number.Scaling
import Argon2Workbench.Proofs.Scenario.Steps
import Argon2Workbench.Settings

namespace Argon2Workbench

/-- A clock and a counter that can always be read. No count has more than 64 bits. -/
structure Scenario.Timed (scenario : Scenario) : Prop where
  clock : ∀ index, ∃ reading, scenario.clock index = some reading
  ticks : ∀ index, ∃ reading, scenario.ticks index = some reading ∧ reading.natAbs < twoTo 64

/-- A clock and a counter that can always be read. No count is negative or has more than 63
bits. -/
structure Scenario.Natural (scenario : Scenario) : Prop where
  clock : ∀ index, ∃ reading, scenario.clock index = some reading
  ticks : ∀ index, ∃ reading, scenario.ticks index = some reading ∧ 0 ≤ reading ∧
    reading < twoTo 63

/-- A clock that can always be read, and two readings to come of the ticks that the counter
turns into cycles. -/
structure Scenario.Counted (scenario : Scenario) (counter : CycleCounter) : Prop where
  clock : ∀ index, ∃ reading, scenario.clock index = some reading
  first : ∃ reading cycles, scenario.ticks scenario.tickReads = some reading ∧
    counter.cycles reading = .ok cycles
  last : ∃ reading cycles, scenario.ticks (scenario.tickReads + 1) = some reading ∧
    counter.cycles reading = .ok cycles

theorem Scenario.Counted.lent {scenario : Scenario} {counter : CycleCounter}
    (ready : scenario.Counted counter) (password : Bytes) :
    (scenario.lent password).Counted counter :=
  ⟨ready.clock, ready.first, ready.last⟩

namespace CycleCounter

def steady : CycleCounter :=
  ⟨.one, one_positive⟩

theorem build_one : build .one = .ok steady :=
  build_positive one_positive

theorem build_steady (path : Text) :
    build ({ recordPath := path } : Settings).gigahertz = .ok steady := by
  dsimp only
  exact build_one

theorem steady_gigahertz : steady.gigahertz = .one := by
  rw [steady]

theorem cycles_steady {scenario : Scenario} (ready : scenario.Timed) (index : Nat) :
    ∃ reading cycles, scenario.ticks index = some reading ∧ steady.cycles reading = .ok cycles ∧
      cycles.natAbs ≤ twoTo 65 := by
  obtain ⟨reading, read, bound⟩ := ready.ticks index
  obtain ⟨cycles, counted, size⟩ := cycles_one steady steady_gigahertz bound
  exact ⟨reading, cycles, read, counted, size⟩

theorem counted_steady {scenario : Scenario} (ready : scenario.Timed) :
    scenario.Counted steady := by
  have readings (index : Nat) : ∃ reading cycles, scenario.ticks index = some reading ∧
      steady.cycles reading = .ok cycles := by
    obtain ⟨reading, cycles, read, counted, -⟩ := cycles_steady ready index
    exact ⟨reading, cycles, read, counted⟩
  exact ⟨ready.clock, readings _, readings _⟩

end CycleCounter

end Argon2Workbench
