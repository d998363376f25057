import Argon2Workbench.Context.Basic
import Argon2Workbench.PasswordBuffer
import Argon2Workbench.Proofs.CommandLine.Grammar
import Argon2Workbench.Proofs.Outcome

namespace Argon2Workbench.CommandLine

open Hash.Argon2 (Variant)

/-- The values that are asked for, with the defaults in place of those that are not. -/
structure Asked where
  tag : Text
  passes : Int
  memory : Int
  lanes : Int
  threads : Int
  password : Bytes

namespace Asked

def ofValues (value? : Parameter → Option Text) : Asked :=
  { tag := (value? .variant).getD "i"
    passes := ((value? .passes).bind integer?).getD 3
    memory := ((value? .memory).bind integer?).getD 12
    lanes := ((value? .lanes).bind integer?).getD 4
    threads := ((value? .threads).bind integer?).getD 4
    password := ((value? .password).map Text.bytes).getD (Text.utf8 "password") }

def variant? (asked : Asked) : Option Variant :=
  Variant.ofTag? asked.tag.bytes

def wrappedPasses (asked : Asked) : Nat :=
  (asked.passes % (twoTo 24 : Nat)).toNat

def wrappedMemory (asked : Asked) : Nat :=
  twoTo (asked.memory % 22).toNat

def wrappedLanes (asked : Asked) : Nat :=
  (asked.lanes % 16777215).toNat

def wrappedThreads (asked : Asked) : Nat :=
  (asked.threads % 16777215).toNat

end Asked

def given? (tokens : List Token) (parameter : Parameter) : Option Text :=
  match Reading.ofTokens tokens with
  | .ok reading => reading.value? parameter
  | .error _ => none

def Asked.ofTokens (tokens : List Token) : Asked :=
  .ofValues (given? tokens)

variable {tokens : List Token} {parameters : Parameters} {reading : Reading}

theorem kept_or_divider (text : Text) :
    Parameters.kept text = some text ∨ text = divider := by
  by_cases divided : text = divider
  · exact .inr divided
  · exact .inl (if_neg divided)

/-- What was accepted as a number is the value itself, for what is shown in the place of the
divider is no number. -/
theorem Parameters.numeric_ok {parameter : Parameter} {wrap : Int → Nat} {default value : Nat}
    (accepted : numeric reading parameter wrap default = .ok value) :
    value = ((reading.value? parameter).bind integer?).elim default wrap := by
  cases given : reading.value? parameter with
  | none =>
      simp only [numeric, given, Except.ok.injEq] at accepted
      exact accepted.symm
  | some text =>
      simp only [numeric, given] at accepted
      rcases kept_or_divider text with kept | divided
      · cases whole : integer? text with
        | none => simp [kept, shown, number, whole, Except.map] at accepted
        | some number =>
            simp only [kept, shown, Parameters.number, Option.getD_some, whole, Except.map,
              Except.ok.injEq] at accepted
            simp [whole, accepted]
      · subst divided
        contradiction

theorem Parameters.withoutPassword_ok (accepted : withoutPassword reading = .ok parameters) :
    parameters.tag = ((reading.value? .variant).map kept).getD (some "i") ∧
      parameters.passes = ((reading.value? .passes).bind integer?).elim 3 wrapPasses ∧
      parameters.memory = ((reading.value? .memory).bind integer?).elim (twoTo 12) wrapMemory ∧
      parameters.lanes = ((reading.value? .lanes).bind integer?).elim 4 wrapLanes ∧
      parameters.threads = ((reading.value? .threads).bind integer?).elim 4 wrapThreads ∧
      parameters.password = none := by
  obtain ⟨modes, -, accepted⟩ := bind_eq_ok accepted
  obtain ⟨passes, passesRead, accepted⟩ := bind_eq_ok accepted
  obtain ⟨memory, memoryRead, accepted⟩ := bind_eq_ok accepted
  obtain ⟨lanes, lanesRead, accepted⟩ := bind_eq_ok accepted
  obtain ⟨threads, threadsRead, accepted⟩ := bind_eq_ok accepted
  cases accepted
  exact ⟨rfl, numeric_ok passesRead, numeric_ok memoryRead, numeric_ok lanesRead,
    numeric_ok threadsRead, rfl⟩

theorem Parameters.withPassword_ok {bare : Parameters} {value : Option Text}
    (initial : bare.password = none) (accepted : bare.withPassword value = .ok parameters) :
    parameters = { bare with password := value.map Text.bytes } := by
  cases value with
  | none =>
      cases accepted
      simp [← initial]
  | some text =>
      simp only [withPassword] at accepted
      rcases kept_or_divider text with kept | divided
      · rw [kept] at accepted
        simp only [Text.encoded] at accepted
        cases half : text.unencodable? Text.Rune.isHalf with
        | some error => simp [half, Except.mapError, Except.map] at accepted
        | none =>
            simp only [half, Except.mapError, Except.map, Except.ok.injEq] at accepted
            exact accepted.symm
      · subst divided
        contradiction

/-- Accepted parameters are what is asked for, wrapped into range. -/
theorem Parameters.eq_asked (accepted : ofTokens tokens = .ok parameters) :
    parameters.tag.bind (fun tag => Variant.ofTag? tag.bytes) = (Asked.ofTokens tokens).variant? ∧
      parameters.passes = (Asked.ofTokens tokens).wrappedPasses ∧
      parameters.memory = (Asked.ofTokens tokens).wrappedMemory ∧
      parameters.lanes = (Asked.ofTokens tokens).wrappedLanes ∧
      parameters.threads = (Asked.ofTokens tokens).wrappedThreads ∧
      PasswordBuffer.source parameters.password = (Asked.ofTokens tokens).password := by
  obtain ⟨reading, read, accepted⟩ := bind_eq_ok accepted
  obtain ⟨bare, unprotected, accepted⟩ := bind_eq_ok accepted
  have same : Reading.ofTokens tokens = .ok reading := by
    cases outcome : Reading.ofTokens tokens <;> simp_all [Except.mapError]
  have alone : withoutPassword reading = .ok bare := by
    cases outcome : withoutPassword reading <;> simp_all [Except.mapError]
  have given : given? tokens = reading.value? := by
    funext parameter
    simp only [given?, same]
  obtain ⟨tag, passes, memory, lanes, threads, initial⟩ := withoutPassword_ok alone
  rw [withPassword_ok initial accepted]
  simp only [Asked.ofTokens, Asked.ofValues, given, passes, memory, lanes, threads]
  refine ⟨?_, wrap_default _ 3 wrapPasses, wrap_default _ 12 wrapMemory,
    wrap_default _ 4 wrapLanes, wrap_default _ 4 wrapThreads, rfl⟩
  rw [tag, Asked.variant?]
  cases value : reading.value? .variant with
  | none => rfl
  | some text =>
      rcases kept_or_divider text with kept | divided
      · simp [kept]
      · subst divided
        rfl

/-- A line that is read asks for the values that it gives last. -/
theorem Asked.ofTokens_read (read : Reading.ofTokens tokens = .ok (Line.ofTokens tokens).reading) :
    Asked.ofTokens tokens = .ofValues (Line.ofTokens tokens).last? := by
  have given : given? tokens = (Line.ofTokens tokens).last? := by
    funext parameter
    rw [given?, read]
    rfl
  rw [Asked.ofTokens, given]

theorem Asked.ofTokens_orderly (orderly : (Line.ofTokens tokens).Orderly) :
    Asked.ofTokens tokens = .ofValues (Line.ofTokens tokens).last? :=
  ofTokens_read (Parameters.reading_orderly orderly)

theorem Asked.length_password_lt (short : ∀ token ∈ tokens, token.bytes.length < twoTo 32) :
    (Asked.ofValues (Line.ofTokens tokens).last?).password.length < twoTo 32 := by
  cases last : (Line.ofTokens tokens).last? .password with
  | none =>
      simp only [Asked.ofValues, last]
      decide
  | some text =>
      obtain ⟨token, member, suffix⟩ := Line.suffix_of_setting (Line.setting_of_last? last)
      simp only [Asked.ofValues, last]
      exact Nat.lt_of_le_of_lt (Text.length_bytes_of_suffix suffix) (short token member)

/-- Parameters as they come out of wrapping. Lanes and threads may be zero. -/
structure Parameters.Wrapped (parameters : Parameters) : Prop where
  passes : parameters.passes ≤ maxPasses
  memory : ∃ exponent, exponent < 22 ∧ parameters.memory = twoTo exponent
  lanes : parameters.lanes ≤ maxLanes
  threads : parameters.threads ≤ maxThreads

def Parameters.ofNumbers (passes power lanes threads : Int) : Parameters :=
  { passes := wrapPasses passes, memory := wrapMemory power, lanes := wrapLanes lanes
    threads := wrapThreads threads }

theorem Parameters.wrapped_ofNumbers (passes power lanes threads : Int) :
    (ofNumbers passes power lanes threads).Wrapped := by
  have passesBound : (wrapPasses passes : Int) < passesModulus := wrap_lt (by decide) _
  have powerBound : (wrap powerModulus power : Int) < powerModulus := wrap_lt (by decide) _
  have lanesBound : (wrapLanes lanes : Int) < lanesModulus := wrap_lt (by decide) _
  have threadsBound : (wrapThreads threads : Int) < threadsModulus := wrap_lt (by decide) _
  have sizes : passesModulus = 16777216 ∧ powerModulus = 22 ∧ lanesModulus = 16777215 ∧
      threadsModulus = 16777215 ∧ maxPasses = 16777215 ∧ maxLanes = 16777215 ∧
      maxThreads = 16777215 := by decide
  refine ⟨?_, ⟨wrap powerModulus power, by omega, rfl⟩, ?_, ?_⟩
  · simp only [ofNumbers]
    omega
  · simp only [ofNumbers]
    omega
  · simp only [ofNumbers]
    omega

theorem Parameters.wrapped_of_accepted (accepted : ofTokens tokens = .ok parameters) :
    parameters.Wrapped := by
  obtain ⟨-, passes, memory, lanes, threads, -⟩ := eq_asked accepted
  let asked := Asked.ofTokens tokens
  have wrapped := wrapped_ofNumbers asked.passes asked.memory asked.lanes asked.threads
  exact ⟨passes ▸ wrapped.passes, memory ▸ wrapped.memory, lanes ▸ wrapped.lanes,
    threads ▸ wrapped.threads⟩

end Argon2Workbench.CommandLine
