import Argon2Workbench.Proofs.Context.Construction
import Argon2Workbench.Proofs.Session.Run

namespace Argon2Workbench.Session

open CommandLine
open Hash.Argon2 (Status Variant)

section

variable {parameters : Parameters} {password : Bytes}

theorem build_wrapped_iff [Machine] (wrapped : parameters.Wrapped) :
    (∃ error, (request parameters password).build = .error (.violation error)) ↔
      parameters.lanes = 0 ∨ parameters.threads = 0 := by
  by_cases lanes : parameters.lanes = 0
  · have refused : (request parameters password).build = .error (.violation (.lanes 0)) := by
      rw [request, lanes]
      exact Request.build_run_no_lanes ..
    simp [refused, lanes]
  have lanesFit : 1 ≤ parameters.lanes ∧ parameters.lanes ≤ maxLanes := ⟨by omega, wrapped.lanes⟩
  by_cases threads : parameters.threads = 0
  · have refused : (request parameters password).build = .error (.violation (.threads 0)) := by
      rw [request, threads]
      exact Request.build_run_no_threads _ lanesFit
    simp [refused, threads]
  · have built : (request parameters password).build = .ok _ :=
      build_wrapped wrapped lanesFit.1 (by omega)
    simp [built, lanes, threads]

theorem unmarshallable?_wrapped_iff (wrapped : parameters.Wrapped) :
    (request parameters password).context.unmarshallable? = none ↔
      password.length < twoTo 32 := by
  constructor
  · intro fits
    rw [Context.unmarshallable?_eq_none_iff] at fits
    exact fits password.length (.tail _ (.head _))
  · exact unmarshallable?_wrapped wrapped

theorem refusal?_request :
    (request parameters password).context.inputs.refusal? =
      if parameters.passes = 0 then some Status.passesTooFew else none := by
  have shape : (request parameters password).context.inputs.tagLength = 32 ∧
      (request parameters password).context.inputs.salt.length = 16 ∧
      (request parameters password).context.inputs.passes = parameters.passes :=
    ⟨rfl, rfl, rfl⟩
  rw [Hash.Argon2.Inputs.refusal?, if_neg (by omega), if_neg (by omega)]
  simp only [shape, Nat.lt_one_iff]

/-- What can be relied on when a context is called and its hash is encoded. Only a password
of `2 ^ 32` bytes or more cannot be handed over, and without passes the call is turned down. -/
structure Safe [Machine] (context : Context) (idle : Prop) [Decidable idle] : Prop where
  numbers : ∀ value ∈ context.marshalled, value < twoTo 32 ∨ value = context.password.length
  refusal : context.inputs.refusal? = if idle then some Status.passesTooFew else none
  faults : ∀ variant recording allocator,
    (∃ error, (context.invoke variant recording allocator).result = .error error) ↔
      twoTo 32 ≤ context.password.length
  statuses : ∀ variant recording allocator status,
    (context.invoke variant recording allocator).result = .ok status →
      if idle then status = Status.passesTooFew
      else status = Status.ok ∨ status = Status.allocationFailed
  encoded : ∀ variant, ∃ encoded, encoded.length ≤ 114 ∧
    ∀ capacity ≥ 115, context.encode variant capacity = .ok encoded

theorem marshalled_wrapped (wrapped : parameters.Wrapped) :
    ∀ value ∈ (request parameters password).context.marshalled,
      value < twoTo 32 ∨ value = password.length := by
  obtain ⟨exponent, exponentFit, power⟩ := wrapped.memory
  rw [request, power]
  exact Request.run_marshalled wrapped.passes (by omega) wrapped.lanes wrapped.threads

/-- Whatever calls were made, the encoded hash stays short. -/
theorem length_text_reached [Machine] (wrapped : parameters.Wrapped) {finished : Context}
    (reached : (request parameters password).context.Reached finished) (variant : Variant) :
    (Phc.ofContext finished variant).text.length ≤ 114 := by
  obtain ⟨exponent, exponentFit, power⟩ := wrapped.memory
  have memoryFit := twoTo_lt_twoTo exponentFit
  have passesFit := wrapped.passes
  have lanesFit := wrapped.lanes
  have sizes : maxPasses = 16777215 ∧ maxLanes = 16777215 ∧ twoTo 22 = 4194304 ∧
      tenTo 8 = 100000000 ∧ tenTo 9 = 1000000000 := by decide
  have continues := reached.continues rfl
  have output : finished.output.length = 32 := continues.output
  obtain ⟨written, kept, rfl⟩ := continues.buffers
  refine Phc.length_text_short ?_ ?_ ?_ rfl output
  · change max parameters.memory (8 * parameters.lanes) < tenTo 9
    omega
  · change parameters.passes < tenTo 8
    omega
  · change parameters.lanes < tenTo 8
    omega

theorem safe_of_reached [Machine] (wrapped : parameters.Wrapped) {finished : Context}
    (reached : (request parameters password).context.Reached finished) :
    Safe finished (parameters.passes = 0) := by
  have continues := reached.continues rfl
  have length : finished.password.length = password.length := continues.password
  have refusal : finished.inputs.refusal? = _ := continues.refusal?.trans refusal?_request
  have fits : finished.unmarshallable? = none ↔ password.length < twoTo 32 := by
    rw [continues.unmarshallable?]
    exact unmarshallable?_wrapped_iff wrapped
  constructor
  · rw [continues.marshalled, length]
    exact marshalled_wrapped wrapped
  · exact refusal
  · intro variant recording allocator
    rw [Context.result_error_iff, length, ← Nat.not_lt, ← fits]
    exact Option.ne_none_iff_exists'.symm
  · intro variant recording allocator status returned
    have same := Context.status_of_returned returned
    split at refusal
    · rw [if_pos ‹_›, ← same]
      exact Context.status_refused refusal
    · rw [if_neg ‹_›, ← same]
      exact Context.status_unrefused refusal
  · intro variant
    have short := length_text_reached wrapped reached variant
    exact ⟨_, short, fun capacity wide => Phc.encode_ok (by omega)⟩

end

theorem wrapLanes_eq_zero_iff {lanes : Int} : wrapLanes lanes = 0 ↔ (16777215 : Int) ∣ lanes :=
  wrap_eq_zero_iff (by decide) lanes

theorem wrapThreads_eq_zero_iff {threads : Int} :
    wrapThreads threads = 0 ↔ (16777215 : Int) ∣ threads :=
  wrap_eq_zero_iff (by decide) threads

theorem wrapPasses_eq_zero_iff {passes : Int} :
    wrapPasses passes = 0 ↔ (16777216 : Int) ∣ passes :=
  wrap_eq_zero_iff (by decide) passes

theorem wrap_congr {modulus first second : Int} (same : first % modulus = second % modulus) :
    wrap modulus first = wrap modulus second := by
  rw [wrap, wrap, same]

theorem effectiveMemory_le (passes power lanes threads : Int) (password : Bytes) :
    (request (.ofNumbers passes power lanes threads) password).context.effectiveMemory ≤
      134217712 := by
  have exponentFit : (wrap powerModulus power : Int) < 22 := wrap_lt (by decide) power
  have memoryFit := twoTo_lt_twoTo (show wrap powerModulus power < 22 by omega)
  have lanesFit : (wrapLanes lanes : Int) < 16777215 := wrap_lt (by decide) lanes
  have size : twoTo 22 = 4194304 := by decide
  change max (wrapMemory power) (8 * wrapLanes lanes) ≤ 134217712
  rw [wrapMemory]
  omega

/-- Of the integers only their residues matter, and they are turned down if they leave no
lane or no thread. All else that is done with them is safe. -/
theorem wrapped_safe [Machine] (passes power lanes threads : Int) (password : Bytes) :
    let asked := request (.ofNumbers passes power lanes threads) password
    ((∃ error, asked.build = .error (.violation error)) ↔
      (16777215 : Int) ∣ lanes ∨ (16777215 : Int) ∣ threads) ∧
    (¬ ((16777215 : Int) ∣ lanes ∨ (16777215 : Int) ∣ threads) →
      asked.build = .ok asked.context ∧
      (∃ exponent, exponent ≤ 21 ∧ asked.context.memory = twoTo exponent) ∧
      8 * asked.context.lanes ≤ asked.context.effectiveMemory ∧
      asked.context.effectiveMemory ≤ 134217712 ∧
      ∀ finished, asked.context.Reached finished →
        finished.password.length = password.length ∧
        Safe finished ((16777216 : Int) ∣ passes)) ∧
    ∀ otherPasses otherPower otherLanes otherThreads : Int,
      passes % 16777216 = otherPasses % 16777216 → power % 22 = otherPower % 22 →
      lanes % 16777215 = otherLanes % 16777215 → threads % 16777215 = otherThreads % 16777215 →
      asked = request (.ofNumbers otherPasses otherPower otherLanes otherThreads) password := by
  intro asked
  have wrapped := Parameters.wrapped_ofNumbers passes power lanes threads
  have refused : (∃ error, asked.build = .error (.violation error)) ↔ _ :=
    build_wrapped_iff wrapped
  simp only [Parameters.ofNumbers, wrapLanes_eq_zero_iff, wrapThreads_eq_zero_iff] at refused
  refine ⟨refused, ?_, ?_⟩
  · intro usable
    rw [not_or, ← wrapLanes_eq_zero_iff, ← wrapThreads_eq_zero_iff] at usable
    refine ⟨?_, ?_, ?_, effectiveMemory_le .., ?_⟩
    · exact build_wrapped wrapped (Nat.pos_of_ne_zero usable.1) (Nat.pos_of_ne_zero usable.2)
    · obtain ⟨exponent, exponentFit, power⟩ := wrapped.memory
      exact ⟨exponent, by omega, power⟩
    · exact Nat.le_max_right ..
    · intro finished reached
      have safe := safe_of_reached wrapped reached
      simp only [Parameters.ofNumbers, wrapPasses_eq_zero_iff] at safe
      exact ⟨(reached.continues rfl).password, safe⟩
  · intro otherPasses otherPower otherLanes otherThreads samePasses samePower sameLanes sameThreads
    have passesAlike : wrapPasses passes = wrapPasses otherPasses := wrap_congr samePasses
    have memoryAlike : wrapMemory power = wrapMemory otherPower :=
      congrArg twoTo (wrap_congr samePower)
    have lanesAlike : wrapLanes lanes = wrapLanes otherLanes := wrap_congr sameLanes
    have threadsAlike : wrapThreads threads = wrapThreads otherThreads := wrap_congr sameThreads
    simp only [asked, Parameters.ofNumbers, passesAlike, memoryAlike, lanesAlike, threadsAlike]

attribute [local instance] Machine.workstation

/-- All four numbers are out of range and come to the far end of it, but for the threads. -/
theorem far_numbers_safe :
    let asked := request (.ofNumbers (-1) (-1) (-2) 16777216) (Text.utf8 "pw")
    asked.build = .ok asked.context ∧ asked.context.effectiveMemory = 134217704 ∧
    Safe asked.context ((16777216 : Int) ∣ -1) ∧
    asked = request (.ofNumbers 16777215 21 16777213 1) (Text.utf8 "pw") := by
  intro asked
  obtain ⟨-, usable, residues⟩ := wrapped_safe (-1) (-1) (-2) 16777216 (Text.utf8 "pw")
  obtain ⟨built, -, -, -, safe⟩ := usable (by decide)
  exact ⟨built, by decide, (safe _ .uncalled).2,
    residues 16777215 21 16777213 1 (by decide) (by decide) (by decide) (by decide)⟩

end Argon2Workbench.Session
