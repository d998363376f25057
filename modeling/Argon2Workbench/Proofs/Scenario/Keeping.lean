import Argon2Workbench.Proofs.Context.Invocation
import Argon2Workbench.Proofs.Scenario.Steps

namespace Argon2Workbench

open Hash.Argon2 (Variant)

namespace Scenario

variable {View First Second Reason : Type} {view : Scenario → View}

/-- Whatever the scenario and whatever becomes of the program, the view is as before. -/
def Keeps (view : Scenario → View) (program : Host.Program Run First) : Prop :=
  ∀ scenario : Scenario, view (scenario.run program).2 = view scenario

/-- The view shows nothing of readings, calls, allocators and logs. -/
def Blind (view : Scenario → View) : Prop :=
  ∀ (scenario : Scenario) (allocator : Allocator) (clockReads tickReads calls : Nat)
    (events : List Event) (records : List Log.Record) (complaints : Text),
    view { scenario with
      allocator, clockReads, tickReads, calls, events, records, complaints } = view scenario

theorem blind_files : Blind Scenario.files :=
  fun _ _ _ _ _ _ _ _ => rfl

namespace Keeps

variable {program : Host.Program Run First} {next : First → Host.Program Run Second}

theorem pure (result : First) : Keeps view (Pure.pure result : Host.Program Run First) :=
  fun _ => rfl

theorem throw (fault : Fault) : Keeps view (throw fault : Host.Program Run First) :=
  fun _ => rfl

theorem lift {operation : Run First}
    (kept : ∀ scenario, view (operation scenario).2 = view scenario) :
    Keeps view (liftM operation : Host.Program Run First) :=
  kept

theorem orFault (fault : Reason → Fault) (outcome : Except Reason First) :
    Keeps view (Host.orFault fault outcome : Host.Program Run First) := by
  intro scenario
  cases outcome <;> rfl

theorem bind (first : Keeps view program) (rest : ∀ result, Keeps view (next result)) :
    Keeps view (program >>= next) := by
  intro scenario
  have before := first scenario
  rw [run_bind]
  rcases ran : scenario.run program with ⟨fault | result, between⟩ <;> rw [ran] at before
  · exact before
  · exact (rest result between).trans before

theorem mapM {Item : Type} {body : Item → Host.Program Run First} (items : List Item)
    (each : ∀ item ∈ items, Keeps view (body item)) : Keeps view (items.mapM body) := by
  induction items with
  | nil => exact pure []
  | cons item rest ih =>
      rw [List.mapM_cons]
      refine bind (each item List.mem_cons_self) fun result => ?_
      have others : Keeps view (rest.mapM body) :=
        ih fun other member => each other (List.mem_cons_of_mem item member)
      exact bind others fun results => pure (result :: results)

variable (blind : Blind view)

include blind

variable [Machine]

theorem note (records : List Log.Record) : Keeps view (Host.note records) := by
  intro scenario
  rw [run_note]
  exact blind scenario ..

theorem noteWritten (level : Log.Level) (record : Except Numeral.DigitsError Log.Record) :
    Keeps view (Host.noteWritten level record) := by
  cases record with
  | ok record => exact note blind [record]
  | error error =>
      refine bind (lift fun _ => rfl) fun exacting => ?_
      cases exacting with
      | false => exact pure ()
      | true => exact throw (.digits error)

theorem readClock : Keeps view Host.readClock := by
  refine bind (lift fun scenario => blind scenario ..) fun reading => ?_
  cases reading with
  | some reading => exact pure reading
  | none => exact throw .seriesEnded

theorem readCycles (counter : CycleCounter) : Keeps view (Host.readCycles counter) := by
  refine bind (lift fun scenario => blind scenario ..) fun reading => ?_
  cases reading with
  | some reading => exact orFault .conversion (counter.cycles reading)
  | none => exact throw .seriesEnded

end Keeps

variable [Machine]

variable {scenario after : Scenario} {path : Text} {call : Run Invocation}
  {invocation : Invocation}

/-- A call without a record logs, however it ends, and does nothing else of its own. -/
theorem left_settled (answered : call scenario = (invocation, after))
    (unrecorded : invocation.record = none) :
    (scenario.run (Host.settled call path)).2 = after.logged invocation.log := by
  cases result : invocation.result with
  | error error => rw [run_settled_error answered result]
  | ok status => rw [run_settled answered result unrecorded]

theorem record_answer (scenario : Scenario) (context : Context) (variant : Variant) :
    (scenario.answer context variant).record = none := by
  rw [answer]
  cases scenario.primitive with
  | real => exact context.record_untaken variant scenario.allocator
  | scripted status => rfl

namespace Keeps

variable (blind : Blind view)

include blind

theorem invoke (context : Context) (variant : Variant) (path : Text) :
    Keeps view (Host.settled (Host.invoke context variant false) path) := by
  intro scenario
  have answered : (Host.invoke context variant false : Run Invocation) scenario = (_, _) := rfl
  rw [left_settled answered (context.record_untaken variant scenario.allocator)]
  exact blind scenario ..

theorem measured (context : Context) (variant : Variant) (path : Text) :
    Keeps view (Host.settled (Host.measured context variant) path) := by
  intro scenario
  have answered : (Host.measured context variant : Run Invocation) scenario = (_, _) := rfl
  rw [left_settled answered (scenario.record_answer context variant)]
  exact blind scenario ..

end Keeps

end Scenario

end Argon2Workbench
