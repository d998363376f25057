import Argon2Workbench.Proofs.CommandLine.Asked
import Argon2Workbench.Proofs.Context.Presets
import Argon2Workbench.Proofs.Phc
import Argon2Workbench.Proofs.Scenario.Steps
import Argon2Workbench.Proofs.Scenario.Timing
import Argon2Workbench.Session.Run

namespace Argon2Workbench

open CommandLine (Parameters)
open Hash.Argon2 (Inputs Status StatusError Variant)

namespace Session

/-- The scenario after a call that follows readings of clock and counter. -/
def called (scenario : Scenario) (invocation : Invocation) : Scenario :=
  { scenario.clocked.ticked with allocator := invocation.allocator }.logged invocation.log

/-- The scenario after a call between two readings of clock and counter. -/
def timed (scenario : Scenario) (invocation : Invocation) : Scenario :=
  ({ scenario.clocked.ticked with allocator := invocation.allocator }.logged
    invocation.log).ticked.clocked

section

variable [Machine]

variable {scenario : Scenario} {parameters : Parameters} {settings : Settings} {variant : Variant}
  {counter : CycleCounter} {password : Bytes} {start stop : Binary64}
  {firstTicks lastTicks first last : Int}

theorem run_hash_uncounted {error : Binary64.ConversionError}
    (started : scenario.clock scenario.clockReads = some start)
    (firstRead : scenario.ticks scenario.tickReads = some firstTicks)
    (failed : counter.cycles firstTicks = .error error) :
    scenario.run (hash parameters settings variant counter password) =
      (.error (.conversion error), scenario.clocked.ticked) := by
  have first : scenario.clocked.run (Host.readCycles counter) =
      (.error (.conversion error), scenario.clocked.ticked) :=
    Scenario.run_readCycles_error firstRead failed
  rw [hash, Scenario.run_bind_ok _ (Scenario.run_readClock started),
    Scenario.run_bind_error _ first]

variable (started : scenario.clock scenario.clockReads = some start)
  (firstRead : scenario.ticks scenario.tickReads = some firstTicks)
  (firstCounted : counter.cycles firstTicks = .ok first)

include firstRead firstCounted

theorem run_firstCycles :
    scenario.clocked.run (Host.readCycles counter) = (.ok first, scenario.clocked.ticked) :=
  Scenario.run_readCycles firstRead firstCounted

include started

theorem run_hash_unbuilt {error : BuildError}
    (refused : (request parameters password).build = .error error) :
    scenario.run (hash parameters settings variant counter password) =
      (.error (.context error), scenario.clocked.ticked) := by
  rw [hash, Scenario.run_bind_ok _ (Scenario.run_readClock started),
    Scenario.run_bind_ok _ (run_firstCycles firstRead firstCounted), refused,
    Scenario.run_bind_error _ (Scenario.run_orFault_error _ _ _)]

variable {context : Context} {status : Status}
  (built : (request parameters password).build = .ok context)
  (done : (context.invoke variant false scenario.allocator).result = .ok status)

include built done

/-- What follows the call starts from the scenario in which it returned. -/
theorem run_hash_called :
    scenario.run (hash parameters settings variant counter password) =
      (called scenario (context.invoke variant false scenario.allocator)).run (do
        let last ← Host.readCycles counter
        let stop ← Host.readClock
        Host.orFault .status (status.check variant)
        let mebicycles ← Host.orFault .conversion (Binary64.quotient (last - first) (twoTo 20))
        let finished := (context.invoke variant false scenario.allocator).context
        let report ← Host.orFault .encoding
          (finished.report variant password (stop.sub start) mebicycles settings.capacity)
        (Host.print report.text : Scenario.Run Unit)
        return finished.output) := by
  have answered : (Host.invoke context variant false : Scenario.Run _) scenario.clocked.ticked =
      (context.invoke variant false scenario.allocator,
        { scenario.clocked.ticked with
          allocator := (context.invoke variant false scenario.allocator).allocator }) :=
    rfl
  rw [hash, Scenario.run_bind_ok _ (Scenario.run_readClock started),
    Scenario.run_bind_ok _ (run_firstCycles firstRead firstCounted), built,
    Scenario.run_bind_ok _ (Scenario.run_orFault_ok _ _ _),
    Scenario.run_bind_ok _
      (Scenario.run_settled answered done (Context.record_untaken _ _ _))]
  rfl

variable (lastRead : scenario.ticks (scenario.tickReads + 1) = some lastTicks)

include lastRead

theorem run_hash_uncounted_last {error : Binary64.ConversionError}
    (failed : counter.cycles lastTicks = .error error) :
    scenario.run (hash parameters settings variant counter password) =
      (.error (.conversion error),
        (called scenario (context.invoke variant false scenario.allocator)).ticked) := by
  have lastCycles : (called scenario (context.invoke variant false scenario.allocator)).run
      (Host.readCycles counter) = (.error (.conversion error), _) :=
    Scenario.run_readCycles_error lastRead failed
  rw [run_hash_called started firstRead firstCounted built done,
    Scenario.run_bind_error _ lastCycles]

variable (lastCounted : counter.cycles lastTicks = .ok last)
  (stopped : scenario.clock (scenario.clockReads + 1) = some stop)

include lastCounted stopped

/-- What follows the last reading starts from the scenario in which it was taken. -/
theorem run_hash_timed :
    scenario.run (hash parameters settings variant counter password) =
      (timed scenario (context.invoke variant false scenario.allocator)).run (do
        Host.orFault .status (status.check variant)
        let mebicycles ← Host.orFault .conversion (Binary64.quotient (last - first) (twoTo 20))
        let finished := (context.invoke variant false scenario.allocator).context
        let report ← Host.orFault .encoding
          (finished.report variant password (stop.sub start) mebicycles settings.capacity)
        (Host.print report.text : Scenario.Run Unit)
        return finished.output) := by
  let called := called scenario (context.invoke variant false scenario.allocator)
  have lastCycles : called.run (Host.readCycles counter) = (.ok last, called.ticked) :=
    Scenario.run_readCycles lastRead lastCounted
  have stopTime : called.ticked.run Host.readClock =
      (.ok stop, timed scenario (context.invoke variant false scenario.allocator)) :=
    Scenario.run_readClock stopped
  rw [run_hash_called started firstRead firstCounted built done,
    Scenario.run_bind_ok _ lastCycles, Scenario.run_bind_ok _ stopTime]

theorem run_hash_failed {error : StatusError} (failed : status.check variant = .error error) :
    scenario.run (hash parameters settings variant counter password) =
      (.error (.status error),
        timed scenario (context.invoke variant false scenario.allocator)) := by
  rw [run_hash_timed started firstRead firstCounted built done lastRead lastCounted stopped, failed,
    Scenario.run_bind_error _ (Scenario.run_orFault_error _ _ _)]

theorem run_hash_reported {mebicycles : Binary64} {report : RunReport}
    (succeeded : status.check variant = .ok ())
    (rated : Binary64.quotient (last - first) (twoTo 20) = .ok mebicycles)
    (encoded : (context.invoke variant false scenario.allocator).context.report variant password
      (stop.sub start) mebicycles settings.capacity = .ok report) :
    scenario.run (hash parameters settings variant counter password) =
      (.ok (context.invoke variant false scenario.allocator).context.output,
        (timed scenario (context.invoke variant false scenario.allocator)).printed
          report.text) := by
  rw [run_hash_timed started firstRead firstCounted built done lastRead lastCounted stopped,
    succeeded, Scenario.run_bind_ok _ (Scenario.run_orFault_ok _ _ _), rated,
    Scenario.run_bind_ok _ (Scenario.run_orFault_ok _ _ _)]
  dsimp only
  rw [encoded, Scenario.run_bind_ok _ (Scenario.run_orFault_ok _ _ _),
    Scenario.run_bind_ok _ (Scenario.run_print _ _)]
  rfl

end

/-- What is hashed in a run: a tag of 32 bytes over a salt of zeros, without secret or
associated data, and with eight kibibytes for every lane at least. -/
def runInputs (passes memory lanes : Nat) (password : Bytes) : Inputs :=
  { password, salt := Bytes.zeros 16, secret := [], associated := [], tagLength := 32, passes
    memory := max memory (8 * lanes), lanes }

def runHash (variant : Variant) (passes memory lanes : Nat) (password : Bytes) : Phc :=
  { variant, memory := max memory (8 * lanes), passes, lanes, salt := Bytes.zeros 16
    tag := Hash.Argon2.tag variant (runInputs passes memory lanes password) }

/-- The report of a run with a salt of zeros, around its encoded hash. -/
def runReport (hash : Phc) (memory : Nat) (password : Bytes) (seconds mebicycles : Binary64) :
    String :=
  s!"Argon2{hash.variant.letter} with\n" ++
  s!"\tt_cost = {hash.passes}\n" ++
  s!"\tm_cost = {memory}\n" ++
  s!"\tpassword = {Text.Utf8.decodeReplacing password}\n" ++
  "\tsalt = 00000000000000000000000000000000\n" ++
  s!"{Decimal.fixed 3 seconds} seconds ({Decimal.fixed 3 mebicycles} mebicycles)\n" ++
  String.ofList hash.tag.hex ++ "\n" ++
  hash.text ++ "\n"

theorem saltLine (rest : String) :
    "\tsalt = " ++ (String.ofList (Bytes.zeros 16).hex ++ ("\n" ++ rest)) =
      "\tsalt = 00000000000000000000000000000000\n" ++ rest := by
  have zeros : "\tsalt = " ++ String.ofList (Bytes.zeros 16).hex ++ "\n" =
      "\tsalt = 00000000000000000000000000000000\n" := by
    decide
  rw [← zeros]
  simp only [String.append_assoc]

theorem reportText_eq_runReport {context : Context} (salt : context.salt = Bytes.zeros 16)
    (variant : Variant) (password : Bytes) (seconds mebicycles : Binary64) :
    reportText context variant password seconds mebicycles (Phc.ofContext context variant).text =
      runReport (Phc.ofContext context variant) context.memory password seconds mebicycles := by
  unfold reportText runReport
  simp only [salt, String.append_assoc, saltLine, hexLine]
  rfl

section

variable {passes memory lanes threads : Nat} {password : Bytes} {variant : Variant}

theorem ofContext_run :
    Phc.ofContext ((Request.run passes memory lanes threads password).context.withTag variant).wiped
      variant = runHash variant passes memory lanes password := by
  rw [Phc.ofContext_wiped, Phc.ofContext_withTag]
  rfl

theorem length_runHash_lt (variant : Variant) (password : Bytes) (passesFit : passes ≤ maxPasses)
    (memoryFit : memory < twoTo 32) (lanesFit : lanes ≤ maxLanes) :
    (runHash variant passes memory lanes password).text.length < 300 := by
  have sizes : maxPasses = 16777215 ∧ maxLanes = 16777215 ∧ twoTo 32 = 4294967296 ∧
      tenTo 10 = 10000000000 := by decide
  have bound := Phc.length_text_le (runHash variant passes memory lanes password)
    (by simp only [runHash]; omega) (by simp only [runHash]; omega) (by simp only [runHash]; omega)
  have salt : (runHash variant passes memory lanes password).salt.base64.length = 22 := rfl
  have tag := Bytes.length_base64_le (runHash variant passes memory lanes password).tag
  have tagLength : (runHash variant passes memory lanes password).tag.length = 32 :=
    Hash.Argon2.length_tag variant (runInputs passes memory lanes password)
  omega

theorem report_run (variant : Variant) (threads : Nat) (password : Bytes)
    (passesFit : passes ≤ maxPasses) (memoryFit : memory < twoTo 32) (lanesFit : lanes ≤ maxLanes)
    (seconds mebicycles : Binary64) :
    ((Request.run passes memory lanes threads password).context.withTag variant).wiped.report
        variant password seconds mebicycles 300 =
      .ok { text := runReport (runHash variant passes memory lanes password) memory password
              seconds mebicycles
            encoded := (runHash variant passes memory lanes password).text } := by
  have room : ((Phc.ofContext ((Request.run passes memory lanes threads password).context.withTag
      variant).wiped variant).text.length : Int) < 300 := by
    rw [ofContext_run]
    exact Int.ofNat_lt.mpr (length_runHash_lt variant password passesFit memoryFit lanesFit)
  have salt : ((Request.run passes memory lanes threads password).context.withTag
      variant).wiped.salt = Bytes.zeros 16 := rfl
  rw [Context.report, Phc.encode_ok room, Except.map, reportText_eq_runReport salt, ofContext_run]
  rfl

end

theorem writes_lent {scenario after : Scenario} {password : Bytes} {text : Text}
    {records : List Log.Record} (writes : (scenario.lent password).Writes after text records) :
    scenario.Writes (after.returned password) text records :=
  ⟨writes.output, writes.records, writes.complaints, writes.stream, writes.stamp⟩

theorem writes_timed (scenario : Scenario) (invocation : Invocation) :
    scenario.Writes (timed scenario invocation) [] invocation.log := by
  constructor <;> simp [timed, Scenario.logged, Scenario.clocked, Scenario.ticked]

section

variable {parameters : Parameters} {password : Bytes}

theorem build_wrapped [Machine] (wrapped : parameters.Wrapped) (lanes : 1 ≤ parameters.lanes)
    (threads : 1 ≤ parameters.threads) :
    (request parameters password).build = .ok (request parameters password).context := by
  obtain ⟨exponent, -, power⟩ := wrapped.memory
  rw [request, power]
  exact Request.build_run wrapped.passes ⟨lanes, wrapped.lanes⟩ ⟨threads, wrapped.threads⟩

theorem unmarshallable?_wrapped (wrapped : parameters.Wrapped) (short : password.length < twoTo 32) :
    (request parameters password).context.unmarshallable? = none := by
  obtain ⟨exponent, small, power⟩ := wrapped.memory
  rw [request, power]
  exact Request.run_unmarshallable? wrapped.passes (by omega) wrapped.lanes wrapped.threads short

theorem outcome_request [Machine] :
    (request parameters password).context.inputs.outcome =
      if parameters.passes = 0 then Status.passesTooFew
      else if (runInputs parameters.passes parameters.memory parameters.lanes
        password).workingBytes < Machine.memory then Status.ok
      else Status.allocationFailed :=
  Request.run_outcome parameters.memory

end

section

variable {scenario : Scenario} {parameters : Parameters} {path : Text} {variant : Variant}

def named? (tag : Option Text) : Option Variant :=
  tag.bind fun tag => Variant.ofTag? tag.bytes

theorem run_variantOf {tag : Option Text} (named : named? tag = some variant) :
    scenario.run (variantOf tag) = (.ok variant, scenario) := by
  rw [named?] at named
  rw [variantOf, named]
  rfl

theorem run_variantOf_unnamed {tag : Option Text} (unnamed : named? tag = none) :
    scenario.run (variantOf tag) = (.error .unknownVariant, scenario) := by
  rw [named?] at unnamed
  rw [variantOf, unnamed]
  rfl

theorem run_unnamed [Machine] {settings : Settings} (unnamed : named? parameters.tag = none) :
    scenario.run (run parameters settings) = (.error .unknownVariant, scenario) := by
  rw [run, Scenario.run_bind_error _ (run_variantOf_unnamed unnamed)]

theorem run_unrated [Machine] {settings : Settings} {error : FrequencyError}
    (named : named? parameters.tag = some variant)
    (refused : CycleCounter.build settings.gigahertz = .error error) :
    scenario.run (run parameters settings) = (.error (.frequency error), scenario) := by
  rw [run, Scenario.run_bind_ok _ (run_variantOf named), refused,
    Scenario.run_bind_error _ (Scenario.run_orFault_error _ _ _)]

/-- A run is its hash with the password lent to it. -/
theorem run_lent [Machine] {settings : Settings} {counter : CycleCounter}
    (named : named? parameters.tag = some variant)
    (built : CycleCounter.build settings.gigahertz = .ok counter) {outcome : Except Fault Bytes}
    {after : Scenario}
    (hashed : (scenario.lent (PasswordBuffer.source parameters.password)).run
      (hash parameters settings variant counter (PasswordBuffer.source parameters.password)) =
        (outcome, after)) :
    scenario.run (run parameters settings) =
      (outcome, after.returned (PasswordBuffer.source parameters.password)) := by
  rw [run, Scenario.run_bind_ok _ (run_variantOf named), built,
    Scenario.run_bind_ok _ (Scenario.run_orFault_ok _ _ _)]
  dsimp only
  rw [Scenario.run_lending, hashed]

/-- The two figures of time in a report: the seconds between two readings of the clock, and
the cycles between two of the counter in units of `2 ^ 20`. -/
structure Figures (counter : CycleCounter) (scenario : Scenario) (seconds mebicycles : Binary64) :
    Prop where
  seconds : ∃ start stop, scenario.clock scenario.clockReads = some start ∧
    scenario.clock (scenario.clockReads + 1) = some stop ∧ seconds = stop.sub start
  mebicycles : ∃ firstTicks lastTicks first last,
    scenario.ticks scenario.tickReads = some firstTicks ∧
    scenario.ticks (scenario.tickReads + 1) = some lastTicks ∧
    counter.cycles firstTicks = .ok first ∧ counter.cycles lastTicks = .ok last ∧
    Binary64.quotient (last - first) (twoTo 20) = .ok mebicycles

section

variable [Machine] {settings : Settings} {counter : CycleCounter} {password : Bytes}
  (ready : scenario.Counted counter)
  (built : (request parameters password).build = .ok (request parameters password).context)
  (fits : (request parameters password).context.unmarshallable? = none)

include ready built fits

theorem hash_turned_down {status : Status}
    (turnedDown : (request parameters password).context.inputs.outcome = status)
    (failed : status ≠ Status.ok) (representable : WordType.signed.holds 32 status = true) :
    ∃ after records, scenario.run (hash parameters settings variant counter password) =
        (.error (.status (.failed { status, variant })), after) ∧
      scenario.Writes after [] records := by
  let context := (request parameters password).context
  obtain ⟨start, started⟩ := ready.clock scenario.clockReads
  obtain ⟨firstTicks, first, firstRead, firstCounted⟩ := ready.first
  obtain ⟨lastTicks, last, lastRead, lastCounted⟩ := ready.last
  obtain ⟨stop, stopped⟩ := ready.clock (scenario.clockReads + 1)
  have answered : context.status scenario.allocator = (scenario.allocator, status, []) := by
    rw [Context.status_default rfl, turnedDown]
  have call : context.invoke variant false scenario.allocator = _ :=
    Context.invoke_refused fits answered failed
  have checked := Status.check_failed failed representable variant
  have done : (context.invoke variant false scenario.allocator).result = .ok status := by
    rw [call]
  exact ⟨_, _, run_hash_failed started firstRead firstCounted built done lastRead lastCounted
    stopped checked, writes_timed scenario _⟩

theorem hash_done {rate : Binary64} (wrapped : parameters.Wrapped)
    (found : (request parameters password).context.inputs.outcome = Status.ok) :
    let encoded := runHash variant parameters.passes parameters.memory parameters.lanes password
    ∃ after seconds mebicycles,
      scenario.run (hash parameters { recordPath := path, gigahertz := rate } variant counter
        password) = (.ok encoded.tag, after) ∧
      Figures counter scenario seconds mebicycles ∧
      scenario.Writes after
        (Text.ofString (runReport encoded parameters.memory password seconds mebicycles))
        ((request parameters password).context.raisedLog variant) := by
  intro encoded
  let context := (request parameters password).context
  obtain ⟨start, started⟩ := ready.clock scenario.clockReads
  obtain ⟨firstTicks, first, firstRead, firstCounted⟩ := ready.first
  obtain ⟨lastTicks, last, lastRead, lastCounted⟩ := ready.last
  obtain ⟨stop, stopped⟩ := ready.clock (scenario.clockReads + 1)
  obtain ⟨negative, magnitude, between⟩ :=
    CycleCounter.mebicycles_between firstCounted lastCounted
  have answered : context.status scenario.allocator = (scenario.allocator, Status.ok, []) := by
    rw [Context.status_default rfl, found]
  have call : context.invoke variant false scenario.allocator = _ :=
    Context.invoke_unrecorded fits answered
  have done : (context.invoke variant false scenario.allocator).result = .ok Status.ok := by
    rw [call]
  have finished : (context.invoke variant false scenario.allocator).context =
      (context.withTag variant).wiped := by
    rw [call]
  have log : (context.invoke variant false scenario.allocator).log =
      context.raisedLog variant := by
    rw [call, List.append_nil]
  have output : (context.invoke variant false scenario.allocator).context.output = encoded.tag := by
    rw [finished]
    exact Context.output_withTag context variant
  obtain ⟨exponent, small, power⟩ := wrapped.memory
  have memoryFit : parameters.memory < twoTo 32 := by
    rw [power]
    exact twoTo_lt_twoTo (by omega)
  have reported := report_run variant parameters.threads password wrapped.passes memoryFit
    wrapped.lanes (stop.sub start) (.finite negative magnitude)
  change (context.withTag variant).wiped.report _ _ _ _
    ({ recordPath := path, gigahertz := rate } : Settings).capacity = _ at reported
  rw [← finished] at reported
  have hashed := run_hash_reported started firstRead firstCounted built done lastRead lastCounted
    stopped (Status.check_ok variant) between reported
  rw [output] at hashed
  have writes := (writes_timed scenario (context.invoke variant false scenario.allocator)).trans
    (.printed _ (Text.ofString (runReport encoded parameters.memory password (stop.sub start)
      (.finite negative magnitude))))
  rw [log, List.append_nil, List.nil_append] at writes
  exact ⟨_, _, _, hashed, ⟨⟨start, stop, started, stopped, rfl⟩, ⟨firstTicks, lastTicks, first,
    last, firstRead, lastRead, firstCounted, lastCounted, between⟩⟩, writes⟩

end

variable {rate : Binary64} {counter : CycleCounter} (path)
  (rated : CycleCounter.build rate = .ok counter)
  (named : named? parameters.tag = some variant)

include rated named

section

variable {start : Binary64} {firstTicks first : Int} {error : Binary64.ConversionError}
  (started : scenario.clock scenario.clockReads = some start)
  (firstRead : scenario.ticks scenario.tickReads = some firstTicks)

include started firstRead

theorem run_uncounted [Machine] (failed : counter.cycles firstTicks = .error error) :
    ∃ after, scenario.run (run parameters { recordPath := path, gigahertz := rate }) =
      (.error (.conversion error), after) :=
  ⟨_, run_lent named rated (run_hash_uncounted started firstRead failed)⟩

variable (firstCounted : counter.cycles firstTicks = .ok first)

include firstCounted

theorem run_unbuilt [Machine] {error : BuildError}
    (refused : (request parameters (PasswordBuffer.source parameters.password)).build =
      .error error) :
    ∃ after, scenario.run (run parameters { recordPath := path, gigahertz := rate }) =
        (.error (.context error), after) ∧ scenario.Writes after [] [] := by
  let borrowed := scenario.lent (PasswordBuffer.source parameters.password)
  have borrowedStart : borrowed.clock borrowed.clockReads = some start := started
  have borrowedFirst : borrowed.ticks borrowed.tickReads = some firstTicks := firstRead
  have writes : borrowed.Writes borrowed.clocked.ticked [] [] := by
    constructor <;> simp [Scenario.clocked, Scenario.ticked]
  exact ⟨_, run_lent named rated
    (run_hash_unbuilt borrowedStart borrowedFirst firstCounted refused), writes_lent writes⟩

theorem run_uncounted_last [Machine] {lastTicks : Int}
    (built : (request parameters (PasswordBuffer.source parameters.password)).build =
      .ok (request parameters (PasswordBuffer.source parameters.password)).context)
    (fits : (request parameters
      (PasswordBuffer.source parameters.password)).context.unmarshallable? = none)
    (lastRead : scenario.ticks (scenario.tickReads + 1) = some lastTicks)
    (failed : counter.cycles lastTicks = .error error) :
    ∃ after, scenario.run (run parameters { recordPath := path, gigahertz := rate }) =
      (.error (.conversion error), after) := by
  let borrowed := scenario.lent (PasswordBuffer.source parameters.password)
  have borrowedStart : borrowed.clock borrowed.clockReads = some start := started
  have borrowedFirst : borrowed.ticks borrowed.tickReads = some firstTicks := firstRead
  have borrowedLast : borrowed.ticks (borrowed.tickReads + 1) = some lastTicks := lastRead
  exact ⟨_, run_lent named rated (run_hash_uncounted_last borrowedStart borrowedFirst firstCounted
    built (Context.result_of_fits fits) borrowedLast failed)⟩

end

section

variable [Machine] (ready : scenario.Counted counter)
  (built : (request parameters (PasswordBuffer.source parameters.password)).build =
    .ok (request parameters (PasswordBuffer.source parameters.password)).context)
  (fits : (request parameters (PasswordBuffer.source parameters.password)).context.unmarshallable? =
    none)

include ready built fits

theorem run_turned_down {status : Status}
    (turnedDown :
      (request parameters (PasswordBuffer.source parameters.password)).context.inputs.outcome =
        status)
    (failed : status ≠ Status.ok) (representable : WordType.signed.holds 32 status = true) :
    ∃ after records, scenario.run (run parameters { recordPath := path, gigahertz := rate }) =
        (.error (.status (.failed { status, variant })), after) ∧
      scenario.Writes after [] records := by
  obtain ⟨after, records, hashed, writes⟩ :=
    hash_turned_down (ready.lent _) built fits turnedDown failed representable
  exact ⟨_, records, run_lent named rated hashed, writes_lent writes⟩

theorem run_done (wrapped : parameters.Wrapped)
    (found :
      (request parameters (PasswordBuffer.source parameters.password)).context.inputs.outcome =
        Status.ok) :
    let password := PasswordBuffer.source parameters.password
    let encoded :=
      runHash variant parameters.passes parameters.memory parameters.lanes password
    ∃ after seconds mebicycles,
      scenario.run (run parameters { recordPath := path, gigahertz := rate }) =
        (.ok encoded.tag, after) ∧
      Figures counter scenario seconds mebicycles ∧
      scenario.Writes after
        (Text.ofString (runReport encoded parameters.memory password seconds mebicycles))
        ((request parameters password).context.raisedLog variant) := by
  intro password encoded
  obtain ⟨after, seconds, mebicycles, hashed, figures, writes⟩ :=
    hash_done (ready.lent password) built fits wrapped found
  exact ⟨_, seconds, mebicycles, run_lent named rated hashed,
    ⟨figures.seconds, figures.mebicycles⟩, writes_lent writes⟩

end

end

end Session

end Argon2Workbench
