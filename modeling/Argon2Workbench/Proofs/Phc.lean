import Argon2Workbench.Phc
import Argon2Workbench.Proofs.Context.Invocation
import Argon2Workbench.Proofs.Text.Written

namespace Argon2Workbench.Phc

open Hash.Argon2 (Inputs Status Variant)

def variantOfName? (name : List Char) : Option Variant :=
  if name = "argon2d".toList then some .d
  else if name = "argon2i".toList then some .i
  else none

def cost? (letter : Char) : List Char → Option Nat
  | first :: '=' :: digits => if first = letter then Text.decimal? digits else none
  | _ => none

def costs? (text : List Char) : Option (Nat × Nat × Nat) :=
  match text.splitOn ',' with
  | [memory, passes, lanes] => do
      return (← cost? 'm' memory, ← cost? 't' passes, ← cost? 'p' lanes)
  | _ => none

/-- Reads an encoded hash: six fields, each behind a dollar sign but the first, which is
empty. -/
def ofText? (text : String) : Option Phc :=
  match text.toList.splitOn '$' with
  | [[], name, ['v', '=', '1', '9'], costs, salt, tag] => do
      let variant ← variantOfName? name
      let (memory, passes, lanes) ← costs? costs
      let salt ← Bytes.ofBase64? salt
      let tag ← Bytes.ofBase64? tag
      return { variant, memory, passes, lanes, salt, tag }
  | _ => none

def variantName (variant : Variant) : List Char :=
  "argon2".toList ++ variant.letter.toList

def costTexts (hash : Phc) : List (List Char) :=
  ['m' :: '=' :: Nat.toDigits 10 hash.memory, 't' :: '=' :: Nat.toDigits 10 hash.passes,
   'p' :: '=' :: Nat.toDigits 10 hash.lanes]

def fields (hash : Phc) : List (List Char) :=
  [[], variantName hash.variant, "v=19".toList, [','].intercalate hash.costTexts,
   hash.salt.base64, hash.tag.base64]

theorem toList_text (hash : Phc) : hash.text.toList = ['$'].intercalate hash.fields := by
  have version : Nat.toDigits 10 Hash.Argon2.version = ['1', '9'] := by decide
  have same (part : String) : toString part = part := rfl
  have name : variantName hash.variant = "argon2".toList ++ hash.variant.letter.toList := rfl
  simp [text, fields, costTexts, name, List.intercalate, version, same]

theorem cost?_toDigits (letter : Char) (value : Nat) :
    cost? letter (letter :: '=' :: Nat.toDigits 10 value) = some value := by
  simp [cost?, Text.decimal?_toDigits]

theorem not_mem_cost {letter separator : Char} {value : Nat} (other : letter ≠ separator)
    (unequal : '=' ≠ separator) (mark : separator.isDigit = false) :
    separator ∉ letter :: '=' :: Nat.toDigits 10 value := by
  simp only [List.mem_cons, not_or]
  exact ⟨other.symm, unequal.symm, Text.not_mem_toDigits mark value⟩

theorem costs?_costTexts (hash : Phc) :
    costs? ([','].intercalate hash.costTexts) = some (hash.memory, hash.passes, hash.lanes) := by
  have split : ([','].intercalate hash.costTexts).splitOn ',' = hash.costTexts := by
    refine List.splitOn_intercalate ',' ?_ (by simp [costTexts])
    intro text member
    simp only [costTexts, List.mem_cons, List.not_mem_nil, or_false] at member
    rcases member with rfl | rfl | rfl <;> exact not_mem_cost (by decide) (by decide) (by decide)
  rw [costs?, split]
  simp only [costTexts, cost?_toDigits]
  rfl

theorem dollar_not_mem_costs (hash : Phc) : '$' ∉ [','].intercalate hash.costTexts := by
  have digits (value : Nat) : '$' ∉ Nat.toDigits 10 value :=
    Text.not_mem_toDigits (by decide) value
  simp [costTexts, List.intercalate, digits]

theorem splitOn_text (hash : Phc) : hash.text.toList.splitOn '$' = hash.fields := by
  rw [toList_text]
  refine List.splitOn_intercalate '$' ?_ (by simp [fields])
  intro field member
  simp only [fields, List.mem_cons, List.not_mem_nil, or_false] at member
  rcases member with rfl | rfl | rfl | rfl | rfl | rfl
  · simp
  · cases hash.variant <;> decide
  · decide
  · exact dollar_not_mem_costs hash
  · exact Bytes.not_mem_base64 (by decide) hash.salt
  · exact Bytes.not_mem_base64 (by decide) hash.tag

theorem variantOfName?_variantName (variant : Variant) :
    variantOfName? (variantName variant) = some variant := by
  cases variant <;> rfl

theorem ofText?_text (hash : Phc) : ofText? hash.text = some hash := by
  have version : "v=19".toList = ['v', '=', '1', '9'] := rfl
  simp only [ofText?, splitOn_text, fields, version, variantOfName?_variantName,
    costs?_costTexts, Bytes.ofBase64?_base64]
  rfl

theorem length_text (hash : Phc) :
    hash.text.length = 24 + (Nat.toDigits 10 hash.memory).length +
      (Nat.toDigits 10 hash.passes).length + (Nat.toDigits 10 hash.lanes).length +
      hash.salt.base64.length + hash.tag.base64.length := by
  have name : (variantName hash.variant).length = 7 := by
    cases hash.variant <;> rfl
  rw [← String.length_toList, toList_text]
  simp [fields, costTexts, List.intercalate, name]
  omega

theorem length_text_le (hash : Phc) (memory : hash.memory < tenTo 10)
    (passes : hash.passes < tenTo 10) (lanes : hash.lanes < tenTo 10) :
    hash.text.length ≤ 54 + hash.salt.base64.length + hash.tag.base64.length := by
  have memoryDigits := Text.length_toDigits_le (by decide) memory
  have passesDigits := Text.length_toDigits_le (by decide) passes
  have lanesDigits := Text.length_toDigits_le (by decide) lanes
  have length := hash.length_text
  omega

/-- A salt of 16 bytes and a tag of 32, with numbers as short as those of a single run. -/
theorem length_text_short {hash : Phc} (memory : hash.memory < tenTo 9)
    (passes : hash.passes < tenTo 8) (lanes : hash.lanes < tenTo 8)
    (salt : hash.salt.length = 16) (tag : hash.tag.length = 32) : hash.text.length ≤ 114 := by
  have memoryDigits := Text.length_toDigits_le (by decide) memory
  have passesDigits := Text.length_toDigits_le (by decide) passes
  have lanesDigits := Text.length_toDigits_le (by decide) lanes
  have length := hash.length_text
  rw [Bytes.length_base64, Bytes.length_base64, salt, tag] at length
  omega

/-- What a password is verified with: neither a secret nor associated data. -/
def inputs (hash : Phc) (password : Bytes) : Inputs :=
  { password
    salt := hash.salt
    secret := []
    associated := []
    tagLength := hash.tag.length
    passes := hash.passes
    memory := hash.memory
    lanes := hash.lanes }

def Verifies (hash : Phc) (password : Bytes) : Prop :=
  Hash.Argon2.tag hash.variant (hash.inputs password) = hash.tag

/-- The password is no part of the encoded hash, so wiping it changes nothing there. -/
theorem ofContext_wiped (context : Context) (variant : Variant) :
    ofContext context.wiped variant = ofContext context variant := by
  unfold Context.wiped
  split <;> rfl

theorem ofContext_withTag (context : Context) (variant : Variant) :
    ofContext (context.withTag variant) variant =
      { variant, memory := context.inputs.memory, passes := context.passes, lanes := context.lanes
        salt := context.salt, tag := Hash.Argon2.tag variant context.inputs } := by
  have tag := context.output_withTag variant
  simp only [ofContext, tag]
  rfl

theorem encode_ok {context : Context} {variant : Variant} {capacity : Int}
    (room : ((ofContext context variant).text.length : Int) < capacity) :
    context.encode variant capacity = .ok (ofContext context variant).text := by
  have enough : ¬ capacity < (((ofContext context variant).text.length + 1 : Nat) : Int) := by omega
  rw [Context.encode, if_neg enough]

/-- The encoded hash of a call that has succeeded verifies the password that the call was
made with, even if the call has wiped it. Read back, the hash has the very inputs that were
handed over, the memory among them as it was raised. -/
theorem encoded_verifies [Machine] {context : Context} {variant : Variant} {recording : Bool}
    {allocator : Allocator} {capacity : Int}
    (secretless : context.secret = none) (bare : context.associated = none)
    (succeeded : (context.invoke variant recording allocator).result = .ok Status.ok)
    (sufficient : ((ofContext (context.invoke variant recording allocator).context
      variant).text.length : Int) < capacity) :
    ∃ encoded hash,
      (context.invoke variant recording allocator).context.encode variant capacity =
        .ok encoded ∧
      ofText? encoded = some hash ∧ encoded = hash.text ∧ hash.variant = variant ∧
      hash.inputs context.password = context.inputs ∧
      hash.memory = max context.memory (8 * context.lanes) ∧
      hash.Verifies context.password := by
  obtain ⟨-, -, finished⟩ := Context.invoke_succeeded succeeded
  let hash := ofContext ((context.withTag variant).wiped) variant
  have same : hash = { variant, memory := context.inputs.memory, passes := context.passes
                       lanes := context.lanes, salt := context.salt
                       tag := Hash.Argon2.tag variant context.inputs } :=
    (ofContext_wiped _ _).trans (ofContext_withTag context variant)
  have inputs : hash.inputs context.password = context.inputs := by
    rw [same]
    simp only [Phc.inputs, Hash.Argon2.length_tag, Context.inputs, secretless, bare,
      Option.getD_none]
  refine ⟨hash.text, hash, ?_, ofText?_text hash, rfl, by rw [same], inputs, by rw [same]; rfl, ?_⟩
  · rw [encode_ok sufficient, finished]
  · rw [Verifies, inputs, same]

attribute [local instance] Machine.workstation

/-- Its memory is raised from 16 to 32, and the call wipes its password. -/
def raisedContext : Context :=
  { outputLength := 32, written := [], password := Text.utf8 "password", wipeable := true
    salt := Bytes.zeros 16, secret := none, associated := none, passes := 3, memory := 16
    lanes := 4, threads := 1, customAllocator := false, clearPassword := true
    clearSecret := false, clearMemory := false, printInternals := true }

theorem raisedContext_invoke :
    raisedContext.invoke .i false {} =
      { result := .ok Status.ok, context := (raisedContext.withTag .i).wiped, allocator := {}
        log := raisedContext.raisedLog .i } := by
  have done : raisedContext.status {} = ({}, Status.ok, []) := by
    have found : raisedContext.inputs.workingBytes < Machine.memory :=
      Machine.found (show 32768 ≤ twoTo 32 by decide)
    rw [Context.status_default rfl, Hash.Argon2.Inputs.outcome_of_fits _ (by decide) (by decide)
      (by decide), if_pos found]
  rw [Context.invoke_unrecorded rfl done, List.append_nil]

theorem raisedContext_verifies :
    ∃ encoded hash,
      (raisedContext.invoke .i false {}).context.encode .i 300 = .ok encoded ∧
      ofText? encoded = some hash ∧ encoded = hash.text ∧ hash.variant = .i ∧
      hash.inputs (Text.utf8 "password") = raisedContext.inputs ∧ hash.memory = 32 ∧
      hash.Verifies (Text.utf8 "password") := by
  refine encoded_verifies rfl rfl (by rw [raisedContext_invoke]) ?_
  rw [raisedContext_invoke, ofContext_wiped, ofContext_withTag]
  have tagLength : (Hash.Argon2.tag .i raisedContext.inputs).length = 32 :=
    Hash.Argon2.length_tag .i raisedContext.inputs
  have short := length_text_le
    { variant := .i, memory := raisedContext.inputs.memory, passes := raisedContext.passes
      lanes := raisedContext.lanes, salt := raisedContext.salt
      tag := Hash.Argon2.tag .i raisedContext.inputs } (by decide) (by decide) (by decide)
  have salt : raisedContext.salt.base64.length = 22 := by decide
  have tag := Bytes.length_base64_le (Hash.Argon2.tag .i raisedContext.inputs)
  simp only at short
  omega

/-- Two contexts have the same encoded hash only if they agree on all that is in it, for it
reads back as that. How each field ends is told by what it is written in, so no digit, symbol or
byte can pass from one field to the next. -/
theorem encode_eq_iff {first second : Context} {variant other : Variant} {capacity limit : Int}
    (room : ((ofContext first variant).text.length : Int) < capacity)
    (alsoRoom : ((ofContext second other).text.length : Int) < limit) :
    ∃ encoded again,
      first.encode variant capacity = .ok encoded ∧ second.encode other limit = .ok again ∧
      ofText? encoded = some
        { variant, memory := first.effectiveMemory, passes := first.passes, lanes := first.lanes
          salt := first.salt, tag := first.output } ∧
      (encoded = again ↔ variant = other ∧ first.effectiveMemory = second.effectiveMemory ∧
        first.passes = second.passes ∧ first.lanes = second.lanes ∧ first.salt = second.salt ∧
        first.output = second.output) := by
  refine ⟨_, _, encode_ok room, encode_ok alsoRoom, ofText?_text _, ?_⟩
  constructor
  · intro same
    have read : some (ofContext first variant) = some (ofContext second other) := by
      rw [← ofText?_text, same, ofText?_text]
    simpa only [ofContext, Option.some.injEq, Phc.mk.injEq] using read
  · rintro ⟨sameVariant, memory, passes, lanes, salt, output⟩
    simp only [ofContext, sameVariant, memory, passes, lanes, salt, output]

/-- Before any call the tag is zero. -/
def zeroContext (salt tag : Nat) : Context :=
  { raisedContext with salt := Bytes.zeros salt, outputLength := tag }

theorem length_zeroContext (salt tag : Nat) :
    (ofContext (zeroContext salt tag) .i).text.length =
      28 + (4 * salt + 2) / 3 + (4 * tag + 2) / 3 := by
  have digits : (Nat.toDigits 10 32).length = 2 ∧ (Nat.toDigits 10 3).length = 1 ∧
      (Nat.toDigits 10 4).length = 1 := by
    decide
  have zeros : (Bytes.zeros salt).length = salt ∧ (Bytes.zeros tag).length = tag := by
    simp [Bytes.zeros]
  rw [length_text, Bytes.length_base64, Bytes.length_base64]
  change 24 + (Nat.toDigits 10 32).length + (Nat.toDigits 10 3).length +
    (Nat.toDigits 10 4).length + (4 * (Bytes.zeros salt).length + 2) / 3 +
    (4 * (Bytes.zeros tag).length + 2) / 3 = _
  rw [digits.1, digits.2.1, digits.2.2, zeros.1, zeros.2]

/-- Neither a password that is not wiped nor memory that need not be raised shows. One byte that
goes from the salt to the tag does. -/
theorem zeroContext_encoded :
    let plain : Context := { zeroContext 2 1 with memory := 32, clearPassword := false }
    (∃ encoded, (zeroContext 2 1).encode .i 300 = .ok encoded ∧ plain.encode .i 34 = .ok encoded) ∧
    ∃ encoded again, (zeroContext 2 1).encode .i 300 = .ok encoded ∧
      (zeroContext 1 2).encode .i 300 = .ok again ∧ encoded ≠ again := by
  intro plain
  have short := length_zeroContext 2 1
  have long := length_zeroContext 1 2
  have alike : ofContext plain .i = ofContext (zeroContext 2 1) .i := rfl
  constructor
  · obtain ⟨encoded, again, first, second, -, equal⟩ := encode_eq_iff
      (by omega : ((ofContext (zeroContext 2 1) .i).text.length : Int) < 300)
      (by rw [alike]; omega : ((ofContext plain .i).text.length : Int) < 34)
    have same : encoded = again := equal.mpr ⟨rfl, rfl, rfl, rfl, rfl, rfl⟩
    exact ⟨encoded, first, same ▸ second⟩
  · obtain ⟨encoded, again, first, second, -, equal⟩ := encode_eq_iff
      (by omega : ((ofContext (zeroContext 2 1) .i).text.length : Int) < 300)
      (by omega : ((ofContext (zeroContext 1 2) .i).text.length : Int) < 300)
    refine ⟨encoded, again, first, second, fun same => ?_⟩
    obtain ⟨-, -, -, -, salt, -⟩ := equal.mp same
    exact absurd salt (by decide)

end Argon2Workbench.Phc
