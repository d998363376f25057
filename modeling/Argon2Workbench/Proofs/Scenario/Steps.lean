import Argon2Workbench.Scenario

namespace Argon2Workbench.Scenario

open Hash.Argon2 (Status Variant)

def clocked (scenario : Scenario) : Scenario :=
  { scenario with
    clockReads := scenario.clockReads + 1
    events := scenario.events ++ [.clock scenario.clockReads] }

def ticked (scenario : Scenario) : Scenario :=
  { scenario with
    tickReads := scenario.tickReads + 1
    events := scenario.events ++ [.ticks scenario.tickReads] }

def logged (scenario : Scenario) (records : List Log.Record) : Scenario :=
  { scenario with
    records := scenario.records ++ records
    complaints := scenario.complaints ++
      records.flatMap (scenario.stream.written scenario.stamp) }

def printed (scenario : Scenario) (text : Text) : Scenario :=
  { scenario with output := scenario.output ++ text }

def complained (scenario : Scenario) (text : Text) : Scenario :=
  { scenario with complaints := scenario.complaints ++ text }

def refiled (scenario : Scenario) (files : Files) : Scenario :=
  { scenario with files }

variable {First Second : Type} {scenario after : Scenario}

theorem logged_nil (scenario : Scenario) : scenario.logged [] = scenario := by
  simp [logged]

theorem logged_append (scenario : Scenario) (first last : List Log.Record) :
    scenario.logged (first ++ last) = (scenario.logged first).logged last := by
  simp [logged, List.flatMap_append]

theorem complained_nil (scenario : Scenario) : scenario.complained [] = scenario := by
  simp [complained]

theorem run_bind_ok {program : Host.Program Run First} {result : First}
    (next : First → Host.Program Run Second) (done : scenario.run program = (.ok result, after)) :
    scenario.run (program >>= next) = after.run (next result) := by
  rw [run_bind, done]

theorem run_bind_error {program : Host.Program Run First} {fault : Fault}
    (next : First → Host.Program Run Second) (failed : scenario.run program = (.error fault, after)) :
    scenario.run (program >>= next) = (.error fault, after) := by
  rw [run_bind, failed]

theorem run_bind_eq_ok {program : Host.Program Run First} {next : First → Host.Program Run Second}
    {result : Second} (ran : scenario.run (program >>= next) = (.ok result, after)) :
    ∃ value between, scenario.run program = (.ok value, between) ∧
      between.run (next value) = (.ok result, after) := by
  rw [run_bind] at ran
  rcases first : scenario.run program with ⟨fault | value, between⟩ <;> rw [first] at ran
  · exact nomatch (Prod.mk.inj ran).1
  · exact ⟨value, between, rfl, ran⟩

theorem run_orFault_eq_ok {Reason : Type} {fault : Reason → Fault}
    {outcome : Except Reason First} {result : First}
    (ran : scenario.run (Host.orFault fault outcome) = (.ok result, after)) :
    outcome = .ok result ∧ after = scenario := by
  cases outcome with
  | error reason => exact nomatch (Prod.mk.inj ran).1
  | ok value =>
      cases ran
      exact ⟨rfl, rfl⟩

/-- Programs for the items of a list and for one more. -/
theorem run_mapM_snoc {program : First → Host.Program Run Second} {items : List First}
    {item : First} {results : List Second} {result : Second} {between : Scenario}
    (done : scenario.run (items.mapM program) = (.ok results, between))
    (last : between.run (program item) = (.ok result, after)) :
    scenario.run ((items ++ [item]).mapM program) = (.ok (results ++ [result]), after) := by
  have single : between.run ([item].mapM program) = (.ok [result], after) := by
    rw [List.mapM_cons, run_bind_ok _ last]
    rfl
  rw [List.mapM_append, run_bind_ok _ done, run_bind_ok _ single]
  rfl

/-- The first item whose program fails is the last that is come to. -/
theorem run_mapM_failed {program : First → Host.Program Run Second} {items : List First}
    {item : First} {results : List Second} {fault : Fault} {between : Scenario}
    (done : scenario.run (items.mapM program) = (.ok results, between))
    (failed : between.run (program item) = (.error fault, after)) (later : List First) :
    scenario.run ((items ++ item :: later).mapM program) = (.error fault, after) := by
  have stopped : between.run ((item :: later).mapM program) = (.error fault, after) := by
    rw [List.mapM_cons, run_bind_error _ failed]
  rw [List.mapM_append, run_bind_ok _ done, run_bind_error _ stopped]

theorem run_lift (scenario : Scenario) (operation : Run First) :
    scenario.run (liftM operation : Host.Program Run First) =
      (.ok (operation scenario).1, (operation scenario).2) :=
  rfl

/-- A handler starts from where the program before it has failed. -/
theorem run_tryCatch (scenario : Scenario) (program : Host.Program Run First)
    (handler : Fault → Host.Program Run First) :
    scenario.run (tryCatch program handler) =
      match scenario.run program with
      | (.ok result, after) => (.ok result, after)
      | (.error fault, after) => after.run (handler fault) := by
  simp only [run, ExceptT.run, tryCatch, tryCatchThe, MonadExceptOf.tryCatch, ExceptT.tryCatch,
    ExceptT.mk, bind, StateT.run, StateT.bind]
  rcases program scenario with ⟨outcome, after⟩
  cases outcome <;> rfl

theorem run_note [Machine] (scenario : Scenario) (records : List Log.Record) :
    scenario.run (Host.note records) = (.ok (), scenario.logged records) := by
  induction records generalizing scenario with
  | nil => rw [logged_nil]; rfl
  | cons record rest ih =>
      have first : scenario.run (liftM (Host.log record : Run Unit) : Host.Program Run Unit) =
          (.ok (), scenario.logged [record]) := by
        simp only [run_lift, logged, List.flatMap_singleton]
        rfl
      change scenario.run (liftM (Host.log record : Run Unit) >>= fun _ => Host.note rest) = _
      rw [run_bind_ok _ first, ih, ← logged_append, List.singleton_append]

theorem run_readClock [Machine] {reading : Binary64}
    (read : scenario.clock scenario.clockReads = some reading) :
    scenario.run Host.readClock = (.ok reading, scenario.clocked) := by
  have answer : ((Host.clock : Run _) scenario).1 = some reading := read
  rw [Host.readClock, run_bind_ok _ (run_lift scenario _), answer]
  rfl

theorem run_readCycles [Machine] {counter : CycleCounter} {reading cycles : Int}
    (read : scenario.ticks scenario.tickReads = some reading)
    (converted : counter.cycles reading = .ok cycles) :
    scenario.run (Host.readCycles counter) = (.ok cycles, scenario.ticked) := by
  have answer : ((Host.ticks : Run _) scenario).1 = some reading := read
  rw [Host.readCycles, run_bind_ok _ (run_lift scenario _), answer]
  change Scenario.run _ (Host.orFault _ (counter.cycles reading)) = _
  rw [converted]
  rfl

theorem run_readCycles_error [Machine] {counter : CycleCounter} {reading : Int}
    {error : Binary64.ConversionError} (read : scenario.ticks scenario.tickReads = some reading)
    (failed : counter.cycles reading = .error error) :
    scenario.run (Host.readCycles counter) = (.error (.conversion error), scenario.ticked) := by
  have answer : ((Host.ticks : Run _) scenario).1 = some reading := read
  rw [Host.readCycles, run_bind_ok _ (run_lift scenario _), answer]
  change Scenario.run _ (Host.orFault _ (counter.cycles reading)) = _
  rw [failed]
  rfl

theorem run_print [Machine] (scenario : Scenario) (text : Text) :
    scenario.run (liftM (Host.print text : Run Unit)) = (.ok (), scenario.printed text) :=
  rfl

theorem run_complain [Machine] (scenario : Scenario) (text : Text) :
    scenario.run (liftM (Host.complain text : Run Unit)) = (.ok (), scenario.complained text) :=
  rfl

theorem run_discard [Machine] {path : Text} {files : Files} {removed : Bool}
    (discarded : scenario.files.discard path = .ok (files, removed)) :
    scenario.run (liftM (Host.discard path : Run (Except Files.Error Bool))) =
      (.ok (.ok removed), scenario.refiled files) := by
  rw [run_lift]
  change (Except.ok (discard path scenario).1, (discard path scenario).2) = _
  simp only [discard, discarded]
  rfl

theorem run_append [Machine] {path : Text} {bytes : Bytes} {files : Files}
    (written : scenario.files.append path bytes = .ok files) :
    scenario.run (liftM (Host.append path bytes : Run (Except Files.Error Unit))) =
      (.ok (.ok ()), scenario.refiled files) := by
  rw [run_lift]
  change (Except.ok (append path bytes scenario).1, (append path bytes scenario).2) = _
  simp only [append, written]
  rfl

section

variable [Machine]

variable {call : Run Invocation} {path : Text} {invocation : Invocation} {status : Status}
  (answered : call scenario = (invocation, after))

include answered

theorem run_settled (done : invocation.result = .ok status) (unrecorded : invocation.record = none) :
    scenario.run (Host.settled call path) =
      (.ok (invocation.context, status), after.logged invocation.log) := by
  rw [Host.settled, run_bind_ok _ (run_lift scenario _), answered,
    run_bind_ok _ (run_note after invocation.log), done, run_bind_ok _ (run_orFault_ok _ _ _)]
  simp only [unrecorded]
  rfl

theorem run_settled_error {error : InvocationError} (failed : invocation.result = .error error) :
    scenario.run (Host.settled call path) =
      (.error (.invocation error), after.logged invocation.log) := by
  rw [Host.settled, run_bind_ok _ (run_lift scenario _), answered,
    run_bind_ok _ (run_note after invocation.log), failed,
    run_bind_error _ (run_orFault_error _ _ _)]

/-- A record that no file takes ends the program, and the files are as before. -/
theorem run_settled_unkept {record : String} {error : Files.Error}
    (done : invocation.result = .ok status) (recorded : invocation.record = some record)
    (refused : after.files.append path (Text.utf8 record) = .error error) :
    scenario.run (Host.settled call path) =
      (.error (.files error), after.logged invocation.log) := by
  have unwritten : (after.logged invocation.log).run
      (liftM (Host.append path (Text.utf8 record) : Run (Except Files.Error Unit))) =
        (.ok (.error error), after.logged invocation.log) := by
    have same : (after.logged invocation.log).files.append path (Text.utf8 record) =
        .error error := refused
    rw [run_lift]
    change (Except.ok (append path (Text.utf8 record) (after.logged invocation.log)).1,
      (append path (Text.utf8 record) (after.logged invocation.log)).2) = _
    simp only [append, same]
  rw [Host.settled, run_bind_ok _ (run_lift scenario _), answered,
    run_bind_ok _ (run_note after invocation.log), done, run_bind_ok _ (run_orFault_ok _ _ _)]
  simp only [recorded]
  rw [run_bind_ok _ unwritten]
  exact run_bind_error _ (run_orFault_error _ _ _)

/-- The record goes to the end of the file before the call is over. -/
theorem run_settled_recorded {record : String} {files : Files}
    (done : invocation.result = .ok status) (recorded : invocation.record = some record)
    (kept : after.files.append path (Text.utf8 record) = .ok files) :
    scenario.run (Host.settled call path) =
      (.ok (invocation.context, status), (after.logged invocation.log).refiled files) := by
  have written : (after.logged invocation.log).files.append path (Text.utf8 record) = .ok files :=
    kept
  rw [Host.settled, run_bind_ok _ (run_lift scenario _), answered,
    run_bind_ok _ (run_note after invocation.log), done, run_bind_ok _ (run_orFault_ok _ _ _)]
  simp only [recorded]
  rw [run_bind_ok _ (run_append written)]
  rfl

end

/-- From one scenario to the other a text was printed and records were logged, and nothing
else was written. -/
structure Writes (before after : Scenario) (text : Text) (noted : List Log.Record) : Prop where
  output : after.output = before.output ++ text
  records : after.records = before.records ++ noted
  complaints : after.complaints =
    before.complaints ++ noted.flatMap (before.stream.written before.stamp)
  stream : after.stream = before.stream
  stamp : after.stamp = before.stamp

namespace Writes

variable {before between : Scenario} {text later : Text} {records following : List Log.Record}

theorem refl (scenario : Scenario) : scenario.Writes scenario [] [] := by
  constructor <;> simp

theorem logged (scenario : Scenario) (records : List Log.Record) :
    scenario.Writes (scenario.logged records) [] records := by
  constructor <;> simp [Scenario.logged]

theorem printed (scenario : Scenario) (text : Text) :
    scenario.Writes (scenario.printed text) text [] := by
  constructor <;> simp [Scenario.printed]

theorem refiled (scenario : Scenario) (files : Files) :
    scenario.Writes (scenario.refiled files) [] [] := by
  constructor <;> simp [Scenario.refiled]

theorem trans (first : before.Writes between text records)
    (second : between.Writes after later following) :
    before.Writes after (text ++ later) (records ++ following) := by
  constructor
  · rw [second.output, first.output, List.append_assoc]
  · rw [second.records, first.records, List.append_assoc]
  · rw [second.complaints, first.complaints, first.stream, first.stamp, List.flatMap_append,
      List.append_assoc]
  · rw [second.stream, first.stream]
  · rw [second.stamp, first.stamp]

end Writes

end Argon2Workbench.Scenario
