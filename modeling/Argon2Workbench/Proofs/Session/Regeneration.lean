import Argon2Workbench.Proofs.Context.Readback
import Argon2Workbench.Proofs.Context.Reservation
import Argon2Workbench.Proofs.Scenario.Frame
import Argon2Workbench.Proofs.Scenario.Handles
import Argon2Workbench.Proofs.Session.Lifecycle

namespace Argon2Workbench

open Hash.Argon2 (Status Variant)

theorem Context.record_onHeap (context : Context) (variant : Variant) :
    context.onHeap.record variant = context.record variant :=
  rfl

namespace Session

/-- A test vector that is asked for: the tag of its type, and the allocator that comes with it. -/
structure Order where
  tag : Option Text
  supply : Option Allocator

def vectorTag (variant : Variant) : Bytes :=
  Hash.Argon2.tag variant (Request.testVector .neither).context.inputs

namespace Order

variable {order : Order} {variant : Variant} {location : Location} {files : Files}

def Names (order : Order) (variant : Variant) : Prop :=
  ∃ tag, order.tag = some tag ∧ tag.bytes = Text.utf8 variant.letter

theorem named?_eq_some_iff_names : named? order.tag = some variant ↔ order.Names variant :=
  named?_eq_some_iff

theorem named?_eq_none_iff : named? order.tag = none ↔ ∀ variant, ¬ order.Names variant := by
  simp only [Option.eq_none_iff_forall_ne_some, ne_eq, named?_eq_some_iff_names]

def callbacks (order : Order) : Callbacks :=
  if order.supply.isSome then .both else .neither

/-- Zero stands for no limit, as it does in allocators. -/
def limit (order : Order) : Int :=
  (order.supply.map (·.limit)).getD 0

/-- The limit is below the working area of the test vector. -/
def Refused (order : Order) : Prop :=
  order.limit ≠ 0 ∧ order.limit < 32768

instance (order : Order) : Decidable order.Refused :=
  inferInstanceAs (Decidable (_ ∧ _))

def refile (order : Order) (location : Location) (files : Files) : Files :=
  match named? order.tag with
  | none => files
  | some variant =>
      if order.Refused then files.erase location
      else files.put location (Text.utf8 (vectorRecord variant))

def context (order : Order) : Context :=
  (Request.testVector order.callbacks).context

theorem context_onHeap (order : Order) :
    order.context.onHeap = (Request.testVector .neither).context := by
  unfold context
  cases order.callbacks <;> rfl

theorem output_succeeded (order : Order) (variant : Variant) :
    (order.context.succeeded variant).output = vectorTag variant := by
  have inputs : order.context.onHeap.inputs = (Request.testVector .neither).context.inputs :=
    congrArg Context.inputs order.context_onHeap
  rw [Context.output_succeeded_eq_tag]
  exact congrArg (Hash.Argon2.tag variant) inputs

theorem refile_named (named : named? order.tag = some variant) :
    order.refile location files =
      if order.Refused then files.erase location
      else files.put location (Text.utf8 (vectorRecord variant)) := by
  rw [refile, named]

theorem refile_unnamed (unnamed : named? order.tag = none) :
    order.refile location files = files := by
  rw [refile, unnamed]

theorem directories_refile (order : Order) (location : Location) (files : Files) :
    (order.refile location files).directories = files.directories := by
  unfold refile
  split
  · rfl
  · split <;> rfl

theorem erase_refile (order : Order) (location : Location) (files : Files) :
    (order.refile location files).erase location = files.erase location := by
  unfold refile
  split
  · rfl
  · split
    · exact Files.erase_erase ..
    · exact Files.erase_put ..

theorem lookup_refile (named : named? order.tag = some variant) (location : Location)
    (files : Files) :
    (order.refile location files).contents.lookup location =
      if order.Refused then none else some (Text.utf8 (vectorRecord variant)) := by
  rw [refile_named named]
  split
  · exact files.lookup_erase location
  · exact files.lookup_put location _

theorem status_context [Machine] (order : Order) (other : Allocator) :
    ∃ after log, order.context.status (order.supply.getD other) =
      (after, if order.Refused then Status.allocationFailed else Status.ok, log) := by
  obtain ⟨tag, supply⟩ := order
  cases supply with
  | none =>
      refine ⟨other, [], ?_⟩
      rw [if_neg (fun refused => refused.1 rfl)]
      exact (Context.status_default rfl).trans (by rw [← Request.testVector_outcome]; rfl)
  | some allocator =>
      have own : (Order.context ⟨tag, some allocator⟩).customAllocator = true := rfl
      have accepted : (Order.context ⟨tag, some allocator⟩).inputs.refusal? = none := rfl
      have area : (Order.context ⟨tag, some allocator⟩).inputs.workingBytes = 32768 :=
        show (Request.testVector .both).context.inputs.workingBytes = 32768 by decide
      have limited : (Order.mk tag (some allocator)).Refused ↔
          allocator.limit ≠ 0 ∧ allocator.limit < 32768 := Iff.rfl
      have memory : 32768 < Machine.memory := Machine.found (show 32768 ≤ twoTo 32 by decide)
      have grants : allocator.Grants 32768 ↔ ¬ (Order.mk tag (some allocator)).Refused := by
        rw [limited, Allocator.Grants, Allocator.Admits]
        omega
      rw [← area] at grants
      by_cases refused : (Order.mk tag (some allocator)).Refused
      · obtain ⟨log, denied⟩ := Context.status_ungranted own accepted
          (fun granted => grants.mp granted refused)
        exact ⟨allocator, log, by rw [if_pos refused]; exact denied⟩
      · exact ⟨_, [], by
          rw [if_neg refused]; exact Context.status_granted own accepted (grants.mpr refused)⟩

theorem result_context [Machine] (order : Order) (variant : Variant) (other : Allocator) :
    (order.context.invoke variant true (order.supply.getD other)).result =
      .ok (if order.Refused then Status.allocationFailed else Status.ok) := by
  have fits : order.context.unmarshallable? = none := Request.testVector_unmarshallable?
  obtain ⟨after, log, status⟩ := order.status_context other
  rw [Context.result_of_fits fits, status]

theorem record_context [Machine] (accepted : ¬ order.Refused) (variant : Variant)
    (other : Allocator) :
    (order.context.invoke variant true (order.supply.getD other)).record =
      some (vectorRecord variant) := by
  have done := order.result_context variant other
  rw [if_neg accepted] at done
  have printing : order.context.printInternals = true := rfl
  have recorded : (order.context.withTag variant).record variant = .ok (vectorRecord variant) := by
    have same : (order.context.withTag variant).onHeap =
        (Request.testVector .neither).context.withTag variant :=
      congrArg (Context.withTag · variant) order.context_onHeap
    rw [← Context.record_onHeap, same, record_testVector]
  rw [Context.record_succeeded done, recorded, printing]
  rfl

end Order

/-- The scenario with the allocator of the order, as that is by then. -/
def supplied (scenario : Scenario) (order : Order) : Scenario :=
  { scenario with allocator := order.supply.getD scenario.allocator }

def ordered [Machine] (scenario : Scenario) (path : Text)
    (order : Order) : Except Fault Bytes × Scenario :=
  (supplied scenario order).run (generate order.tag path order.callbacks)

def announced (scenario : Scenario) (path : Text) (order : Order) (variant : Variant) : Scenario :=
  ((supplied scenario order).cleared path).printed (announcement variant path)

section

variable [Machine]

variable {scenario : Scenario} {path : Text} {location : Location} {order : Order}
  {variant : Variant}

theorem ordered_unnamed (unnamed : named? order.tag = none) :
    ordered scenario path order = (.error .unknownVariant, supplied scenario order) :=
  run_generate_unnamed unnamed

theorem ordered_kept {finished : Context} {status : Status} {after : Scenario}
    (named : named? order.tag = some variant) (removable : scenario.files.Removable path)
    (kept : (announced scenario path order variant).keep order.context variant true path =
      (.ok (finished, status), after)) :
    ordered scenario path order =
      ((status.check variant).mapError .status |>.map fun _ => finished.output, after) := by
  have built : (Request.testVector order.callbacks).build = .ok order.context := by
    unfold Order.context Order.callbacks
    split <;> exact Request.build_ok rfl (Machine.found (show 32 ≤ twoTo 32 by decide))
  have same : (supplied scenario order).files.Removable path := removable
  have settled : (((supplied scenario order).cleared path).printed (announcement variant path)).run
      (Host.settled (Host.invoke order.context variant true) path) =
        (.ok (finished, status), after) := kept
  rw [ordered, generate, Scenario.run_bind_ok _ (run_variantOf named),
    Scenario.run_bind_ok _ (Scenario.run_removeStale same),
    Scenario.run_bind_ok _ (Scenario.run_print _ _), built,
    Scenario.run_bind_ok _ (Scenario.run_orFault_ok _ _ _), Scenario.run_bind_ok _ settled]
  dsimp only
  cases status.check variant with
  | ok passed => rfl
  | error error => rfl

variable (named : named? order.tag = some variant) (shut : Files.endsOpen path = false)
  (leads : scenario.files.LeadsTo path location)

include named shut leads

/-- A call with a known tag ends by its limit, whatever was in the file and whatever else there
is in the scenario. -/
theorem ordered_named :
    let ran := ordered scenario path order
    ran.1 = (if order.Refused then .error (.status (.failed ⟨Status.allocationFailed, variant⟩))
      else .ok (vectorTag variant)) ∧
    ran.2.output = scenario.output ++ announcement variant path ∧
    ran.2.files = order.refile location scenario.files := by
  intro ran
  let before := announced scenario path order variant
  have cleared : before.files = scenario.files.erase location := Files.cleared_eq_erase leads
  have vacant : before.files.find path = .ok (.vacant location) := cleared ▸ Files.find_erase leads
  have result : (order.context.invoke variant true before.allocator).result = _ :=
    order.result_context variant scenario.allocator
  obtain ⟨log, files, left⟩ := before.keep_left order.context variant true path
  have output : (before.keep order.context variant true path).2.output =
      scenario.output ++ announcement variant path := by
    rw [left]
    rfl
  have ended {finished : Context} {status : Status}
      (kept : (before.keep order.context variant true path).1 = .ok (finished, status)) :
      ran = _ :=
    ordered_kept named (leads.holds shut).removable (Prod.ext kept rfl)
  by_cases refused : order.Refused
  · -- The file is gone by the time that the call is turned down.
    have failure : Status.allocationFailed ≠ Status.ok := by decide
    rw [if_pos refused] at result
    obtain ⟨kept, unwritten⟩ := Scenario.keep_failed path
      (by simpa [result] using failure :
        (order.context.invoke variant true before.allocator).result ≠ .ok Status.ok)
    rw [result] at kept
    rw [ended kept, Status.check_failed failure (by decide), if_pos refused,
      Order.refile_named named, if_pos refused, ← cleared]
    exact ⟨rfl, output, unwritten⟩
  · rw [if_neg refused] at result
    have record : (order.context.invoke variant true before.allocator).record = _ :=
      Order.record_context refused variant scenario.allocator
    have accepts : before.Accepts order.context variant true path := fun _ _ =>
      ⟨_, Files.append_vacant shut vacant⟩
    obtain ⟨kept, written⟩ := Scenario.keep_succeeded result accepts
    simp only [record] at written
    rw [Files.append_vacant shut vacant, cleared, Files.put_erase] at written
    rw [ended kept, Status.check_ok, if_neg refused, Order.refile_named named, if_neg refused]
    exact ⟨congrArg Except.ok (order.output_succeeded variant), output,
      (Except.ok.inj written).symm⟩

omit named in
theorem files_ordered :
    (ordered scenario path order).2.files = order.refile location scenario.files := by
  cases named : named? order.tag with
  | none =>
      rw [ordered_unnamed named, Order.refile_unnamed named]
      rfl
  | some variant => exact (ordered_named named shut leads).2.2

end

def orderedAll [Machine] (scenario : Scenario) (path : Text) (orders : List Order) : Scenario :=
  orders.foldl (fun before order => (ordered before path order).2) scenario

section

variable [Machine]

variable {scenario : Scenario} {path : Text} {location : Location}
  (shut : Files.endsOpen path = false) (leads : scenario.files.LeadsTo path location)

include shut leads

theorem files_orderedAll (orders : List Order) :
    (orderedAll scenario path orders).files =
      orders.foldl (fun files order => order.refile location files) scenario.files := by
  induction orders generalizing scenario with
  | nil => rfl
  | cons order rest ih =>
      have first : (ordered scenario path order).2.files = order.refile location scenario.files :=
        files_ordered shut leads
      have again : (ordered scenario path order).2.files.LeadsTo path location :=
        leads.agree (by rw [first, Order.directories_refile])
      rw [List.foldl_cons, ← first]
      exact ih again

theorem erase_orderedAll (orders : List Order) :
    (orderedAll scenario path orders).files.erase location = scenario.files.erase location ∧
      (orderedAll scenario path orders).files.LeadsTo path location := by
  rw [files_orderedAll shut leads]
  induction orders using List.reverseRecOn with
  | nil => exact ⟨rfl, leads⟩
  | append_singleton earlier order ih =>
      rw [List.foldl_concat, Order.erase_refile]
      exact ⟨ih.1, ih.2.agree (Order.directories_refile ..)⟩

theorem files_orderedAll_unnamed {orders : List Order}
    (unnamed : ∀ order ∈ orders, named? order.tag = none) :
    (orderedAll scenario path orders).files = scenario.files := by
  rw [files_orderedAll shut leads]
  induction orders with
  | nil => rfl
  | cons order rest ih =>
      rw [List.foldl_cons, Order.refile_unnamed (unnamed order List.mem_cons_self)]
      exact ih fun other member => unnamed other (List.mem_cons_of_mem order member)

theorem names_ordered (order : Order) :
    (ordered scenario path order).2.files.Names path location := by
  have after : (ordered scenario path order).2.files = _ := files_ordered shut leads
  exact ⟨shut, leads.agree (by rw [after, Order.directories_refile])⟩

theorem lookup_ordered {order : Order} {variant : Variant}
    (named : named? order.tag = some variant) :
    (ordered scenario path order).2.files.contents.lookup location =
      if order.Refused then none else some (Text.utf8 (vectorRecord variant)) := by
  rw [files_ordered shut leads, Order.lookup_refile named]

/-- A call that was granted its area leaves nothing to do for the next one like it. -/
theorem ordered_again {order again : Order} {variant : Variant}
    (named : named? order.tag = some variant) (accepted : ¬ order.Refused)
    (tag : again.tag = order.tag) (limit : again.limit = order.limit) :
    let after := (ordered scenario path order).2
    (ordered after path again).1 = .ok (vectorTag variant) ∧
      (ordered after path again).2.files = after.files := by
  intro after
  have files : after.files = scenario.files.put location (Text.utf8 (vectorRecord variant)) := by
    rw [files_ordered shut leads, Order.refile_named named, if_neg accepted]
  have namedAgain : named? again.tag = some variant := tag ▸ named
  have acceptedAgain : ¬ again.Refused := by
    rw [Order.Refused, limit]
    exact accepted
  obtain ⟨ended, -, rewritten⟩ :=
    ordered_named namedAgain shut (names_ordered shut leads order).2
  rw [if_neg acceptedAgain] at ended
  rw [Order.refile_named namedAgain, if_neg acceptedAgain, ← Files.put_erase] at rewritten
  refine ⟨ended, rewritten.trans ?_⟩
  rw [files, Files.erase_put, Files.put_erase]

theorem orderedAll_last (earlier : List Order) (order : Order) {later : List Order}
    (unnamed : ∀ other ∈ later, named? other.tag = none) :
    (orderedAll scenario path (earlier ++ order :: later)).files =
      (ordered (orderedAll scenario path earlier) path order).2.files := by
  have leadsBefore := (erase_orderedAll shut leads earlier).2
  have split : orderedAll scenario path (earlier ++ order :: later) =
      orderedAll (ordered (orderedAll scenario path earlier) path order).2 path later :=
    List.foldl_append ..
  rw [split, files_orderedAll_unnamed shut (names_ordered shut leadsBefore order).2 unnamed]

end

def emptied (scenario : Scenario) : Scenario :=
  scenario.refiled { scenario.files with contents := [] }

theorem vectorRecord_ending (variant : Variant) :
    ∃ opening digest, vectorRecord variant =
      opening ++ Context.recordEnding digest (vectorTag variant) := by
  obtain ⟨opening, recorded⟩ :=
    Context.record_withTag Request.testVector_unmarshallable? variant
  rw [record_testVector] at recorded
  exact ⟨opening, _, Except.ok.inj recorded⟩

attribute [local instance] Machine.workstation

/-- An order with room for four lanes, one with too little for any, and one of no known type. -/
def roomyOrder : Order :=
  { tag := some "i", supply := some { limit := 40000, blocks := [(7, 10)] } }

def starvedOrder : Order :=
  { tag := some "d", supply := some { limit := 100 } }

def strayOrder : Order :=
  { tag := some "x", supply := none }

theorem strayOrder_unnamed (variant : Variant) : ¬ strayOrder.Names variant :=
  Order.named?_eq_none_iff.mp (by decide) variant

end Session

end Argon2Workbench
