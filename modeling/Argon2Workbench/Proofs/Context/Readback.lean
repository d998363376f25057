import Argon2Workbench.Proofs.Phc
import Argon2Workbench.Proofs.Text.Lines
import Argon2Workbench.Proofs.Text.Reader

/-! Known-answer records read back.

A record has lines that may be missing, fields of any length and no mark at its end. Reading it
line by line still leaves no choice: a missing line is told by the label of the line behind it,
and the record ends behind its tag.
-/

namespace Argon2Workbench

open Hash.Argon2 (Variant)
open Text (Reader closed label line lineIf numberBefore spacedBytes)

namespace Context

structure Shown where
  variant : Variant
  memory : Nat
  passes : Nat
  lanes : Nat
  outputLength : Nat
  password : Bytes
  salt : Bytes
  secret : Option Bytes
  associated : Option Bytes
  digest : Bytes
  tag : Bytes
deriving DecidableEq, Repr

def shown (context : Context) (variant : Variant) (digest : Bytes) : Shown :=
  { variant, digest, memory := context.memory, passes := context.passes, lanes := context.lanes
    outputLength := context.outputLength, password := context.password, salt := context.salt
    secret := context.secret, associated := context.associated, tag := context.output }

def headingLine (variant : Variant) : String :=
  s!"Argon2{variant.letter} version number {Hash.Argon2.version}"

def costLine (context : Context) : String :=
  s!"Memory: {context.memory} KiB, Iterations: {context.passes}, " ++
    s!"Parallelism: {context.lanes} lanes, Tag length: {context.outputLength} bytes"

def raisedLine (raised : Nat) : String :=
  s!"Memory raised to {raised} KiB ({minBlocksPerLane} blocks per lane minimum)"

def bytesLine (name : String) (bytes : Bytes) : String :=
  name ++ String.ofList bytes.spacedHex

def raised? (context : Context) : Option Nat :=
  if context.effectiveMemory = context.memory then none else some context.effectiveMemory

theorem recordLines_eq (context : Context) (variant : Variant) (digest : Bytes) :
    context.recordLines variant digest =
      recordBar :: headingLine variant :: recordBar :: context.costLine ::
        ((context.raised?.map raisedLine).toList ++
          recordField "Password" context.password :: recordField "Salt" context.salt ::
            ((context.secret.map (recordField "Secret")).toList ++
              ((context.associated.map (recordField "Associated data")).toList ++
                [bytesLine "Pre-hashing digest: " digest, bytesLine "Tag: " context.output]))) := by
  have raised : (context.raised?.map raisedLine).toList =
      if context.effectiveMemory = context.memory then []
      else [raisedLine context.effectiveMemory] := by
    rw [raised?]
    split <;> rfl
  rw [raised, recordLines]
  simp only [List.append_assoc, List.cons_append, List.nil_append]
  rfl

theorem toList_headingLine (variant : Variant) :
    (headingLine variant).toList = "Argon2".toList ++
      (variant.letter.toList ++ s!" version number {Hash.Argon2.version}".toList) := by
  unfold headingLine
  simp only [toString, String.toList_append, List.append_assoc]

theorem toList_costLine (context : Context) :
    context.costLine.toList =
      "Memory: ".toList ++ (Nat.toDigits 10 context.memory ++ (" KiB, Iterations: ".toList ++
        (Nat.toDigits 10 context.passes ++ (", Parallelism: ".toList ++
          (Nat.toDigits 10 context.lanes ++ (" lanes, Tag length: ".toList ++
            (Nat.toDigits 10 context.outputLength ++ " bytes".toList))))))) := by
  have comma : ", Parallelism: " = ", " ++ "Parallelism: " := by decide
  unfold costLine
  simp only [comma, toString, String.toList_append, List.append_assoc, Nat.toList_repr]

theorem toList_raisedLine (raised : Nat) :
    (raisedLine raised).toList =
      "Memory raised to ".toList ++ (Nat.toDigits 10 raised ++ (" KiB (".toList ++
        (Nat.toDigits 10 minBlocksPerLane ++ " blocks per lane minimum)".toList))) := by
  unfold raisedLine
  simp only [toString, String.toList_append, List.append_assoc, Nat.toList_repr]

theorem toList_recordField (name : String) (bytes : Bytes) :
    (recordField name bytes).toList = name.toList ++ ("[".toList ++
      (Nat.toDigits 10 bytes.length ++ ("]: ".toList ++ bytes.spacedHex))) := by
  simp only [recordField, toString, String.toList_append, List.append_assoc, Nat.toList_repr,
    String.toList_ofList]

theorem toList_bytesLine (name : String) (bytes : Bytes) :
    (bytesLine name bytes).toList = name.toList ++ bytes.spacedHex := by
  rw [bytesLine, String.toList_append, String.toList_ofList]

/-- No line of a record breaks in two. -/
theorem newline_not_mem_recordLines (context : Context) (variant : Variant) (digest : Bytes) :
    ∀ line ∈ context.recordLines variant digest, '\n' ∉ line.toList := by
  have digits := Text.not_mem_toDigits (by decide : '\n'.isDigit = false)
  have pairs := Bytes.not_mem_spacedHex (by decide) (by decide : '\n' ≠ ' ')
  have bar : '\n' ∉ recordBar.toList := by decide
  have heading : '\n' ∉ (headingLine variant).toList := by cases variant <;> decide
  have costs : '\n' ∉ context.costLine.toList := by
    rw [toList_costLine]
    simp [digits]
  have raised : ∀ line ∈ context.raised?.map raisedLine, '\n' ∉ line.toList := by
    simp [toList_raisedLine, digits]
  have field {name : String} (plain : '\n' ∉ name.toList) (bytes : Bytes) :
      '\n' ∉ (recordField name bytes).toList := by
    rw [toList_recordField]
    simp [plain, digits, pairs]
  have optional {name : String} (plain : '\n' ∉ name.toList) (value : Option Bytes) :
      ∀ line ∈ value.map (recordField name), '\n' ∉ line.toList := by
    simp [field plain]
  have ending {name : String} (plain : '\n' ∉ name.toList) (bytes : Bytes) :
      '\n' ∉ (bytesLine name bytes).toList := by
    rw [toList_bytesLine]
    simp [plain, pairs]
  rw [recordLines_eq]
  simp only [List.forall_mem_cons, List.forall_mem_append, Option.mem_toList]
  exact ⟨bar, heading, bar, costs, raised, field (by decide) _, field (by decide) _,
    optional (by decide) _, optional (by decide) _, ending (by decide) _, ending (by decide) _,
    List.forall_mem_nil _⟩

def readLetter : Reader Char Variant
  | 'd' :: rest => some (.d, rest)
  | 'i' :: rest => some (.i, rest)
  | _ => none

def readHeading : Reader Char Variant := do
  label "Argon2"
  let variant ← readLetter
  label s!" version number {Hash.Argon2.version}"
  return variant

def readCosts : Reader Char (Nat × Nat × Nat × Nat) := do
  label "Memory: "
  let memory ← numberBefore " KiB, Iterations: "
  let passes ← numberBefore ", Parallelism: "
  let lanes ← numberBefore " lanes, Tag length: "
  let outputLength ← numberBefore " bytes"
  return (memory, passes, lanes, outputLength)

def readRaised : Reader Char Nat := do
  label "Memory raised to "
  let raised ← numberBefore " KiB ("
  let _ ← numberBefore " blocks per lane minimum)"
  return raised

def readField (name : String) : Reader Char Bytes := do
  label name
  label "["
  let _ ← numberBefore "]: "
  spacedBytes

def readBytes (name : String) : Reader Char Bytes := do
  label name
  spacedBytes

def readRecord : Reader (List Char) Shown := do
  line (label recordBar)
  let variant ← line readHeading
  line (label recordBar)
  let (memory, passes, lanes, outputLength) ← line readCosts
  let _ ← lineIf readRaised
  let password ← line (readField "Password")
  let salt ← line (readField "Salt")
  let secret ← lineIf (readField "Secret")
  let associated ← lineIf (readField "Associated data")
  let digest ← line (readBytes "Pre-hashing digest: ")
  let tag ← line (readBytes "Tag: ")
  return { variant, memory, passes, lanes, outputLength, password, salt, secret, associated
           digest, tag }

theorem readLetter_append (variant : Variant) (rest : List Char) :
    readLetter (variant.letter.toList ++ rest) = some (variant, rest) := by
  cases variant <;> rfl

theorem readHeading_headingLine (variant : Variant) :
    readHeading (headingLine variant).toList = some (variant, []) := by
  rw [toList_headingLine, readHeading, Reader.bind_eq (Text.label_append ..),
    Reader.bind_eq (readLetter_append ..), Reader.bind_eq (Text.label_toList _)]
  rfl

theorem readCosts_costLine (context : Context) :
    readCosts context.costLine.toList =
      some ((context.memory, context.passes, context.lanes, context.outputLength), []) := by
  rw [toList_costLine, ← List.append_nil " bytes".toList, readCosts,
    Reader.bind_eq (Text.label_append ..), Reader.bind_eq (Text.numberBefore_append rfl ..),
    Reader.bind_eq (Text.numberBefore_append rfl ..),
    Reader.bind_eq (Text.numberBefore_append rfl ..),
    Reader.bind_eq (Text.numberBefore_append rfl ..)]
  rfl

theorem readRaised_raisedLine (raised : Nat) :
    readRaised (raisedLine raised).toList = some (raised, []) := by
  rw [toList_raisedLine, ← List.append_nil " blocks per lane minimum)".toList, readRaised,
    Reader.bind_eq (Text.label_append ..), Reader.bind_eq (Text.numberBefore_append rfl ..),
    Reader.bind_eq (Text.numberBefore_append rfl ..)]
  rfl

theorem readField_recordField (name : String) (bytes : Bytes) :
    readField name (recordField name bytes).toList = some (bytes, []) := by
  rw [toList_recordField, readField, Reader.bind_eq (Text.label_append ..),
    Reader.bind_eq (Text.label_append ..), Reader.bind_eq (Text.numberBefore_append rfl ..),
    Text.spacedBytes_spacedHex]

theorem readBytes_bytesLine (name : String) (bytes : Bytes) :
    readBytes name (bytesLine name bytes).toList = some (bytes, []) := by
  rw [toList_bytesLine, readBytes, Reader.bind_eq (Text.label_append ..),
    Text.spacedBytes_spacedHex]

theorem readRaised_password (bytes : Bytes) :
    readRaised (recordField "Password" bytes).toList = none := by
  rw [toList_recordField]
  rfl

theorem readField_digest (bytes : Bytes) :
    readField "Secret" (bytesLine "Pre-hashing digest: " bytes).toList = none ∧
      readField "Associated data" (bytesLine "Pre-hashing digest: " bytes).toList = none := by
  rw [toList_bytesLine]
  exact ⟨rfl, rfl⟩

theorem readField_associated (bytes : Bytes) :
    readField "Secret" (recordField "Associated data" bytes).toList = none := by
  rw [toList_recordField]
  rfl

/-- Neither associated data nor a digest reads as a secret. -/
theorem line_readSecret (associated : Option Bytes) (digest : Bytes) (rest : List (List Char)) :
    line (readField "Secret")
      ((associated.map (recordField "Associated data")).toList.map String.toList ++
        (bytesLine "Pre-hashing digest: " digest).toList :: rest) = none := by
  cases associated with
  | none => exact Text.line_cons_none (readField_digest digest).1 rest
  | some bytes => exact Text.line_cons_none (readField_associated bytes) _

/-- Reading takes the lines of a record and no more of them. -/
theorem readRecord_recordLines (context : Context) (variant : Variant) (digest : Bytes)
    (rest : List (List Char)) :
    readRecord ((context.recordLines variant digest).map String.toList ++ rest) =
      some (context.shown variant digest, rest) := by
  have noAssociated (others : List (List Char)) :=
    Text.line_cons_none (readField_digest digest).2 others
  rw [recordLines_eq]
  simp only [List.map_append, List.map_cons, List.map_nil, List.append_assoc, List.cons_append,
    List.nil_append]
  rw [readRecord, Reader.bind_eq (Text.line_cons (Text.label_toList _) _),
    Reader.bind_eq (Text.line_cons (readHeading_headingLine _) _),
    Reader.bind_eq (Text.line_cons (Text.label_toList _) _),
    Reader.bind_eq (Text.line_cons (readCosts_costLine _) _)]
  dsimp only
  rw [Reader.bind_eq
      (Text.lineIf_toList readRaised_raisedLine (Text.line_cons_none (readRaised_password _) _) _),
    Reader.bind_eq (Text.line_cons (readField_recordField _ _) _),
    Reader.bind_eq (Text.line_cons (readField_recordField _ _) _),
    Reader.bind_eq (Text.lineIf_toList (readField_recordField _) (line_readSecret _ _ _) _),
    Reader.bind_eq (Text.lineIf_toList (readField_recordField _) (noAssociated _) _),
    Reader.bind_eq (Text.line_cons (readBytes_bytesLine _ _) _),
    Reader.bind_eq (Text.line_cons (readBytes_bytesLine _ _) _)]
  rfl

variable {context : Context} {variant : Variant}

theorem record_of_prehash {digest : Bytes} (hashed : context.prehash variant = .ok digest) :
    context.record variant = .ok (closed (context.recordLines variant digest)) := by
  rw [record, hashed, ok_bind]
  rfl

theorem record_eq_closed {text : String} (written : context.record variant = .ok text) :
    ∃ digest, context.prehash variant = .ok digest ∧
      text = closed (context.recordLines variant digest) := by
  obtain ⟨digest, hashed, joined⟩ := bind_eq_ok written
  exact ⟨digest, hashed, (Except.ok.inj joined).symm⟩

/-- What is behind a record does not change how it reads. -/
theorem readRecord_closed (context : Context) (variant : Variant) (digest : Bytes)
    (rest : List Char) :
    readRecord (((closed (context.recordLines variant digest)).toList ++ rest).splitOn '\n') =
      some (context.shown variant digest, rest.splitOn '\n') := by
  rw [Text.splitOn_closed_plain (newline_not_mem_recordLines context variant digest),
    readRecord_recordLines]

theorem recordLines_eq_of_shown {second : Context} {other : Variant} {digest again : Bytes}
    (same : context.shown variant digest = second.shown other again) :
    context.recordLines variant digest = second.recordLines other again := by
  simp only [shown, Shown.mk.injEq] at same
  obtain ⟨rfl, memory, passes, lanes, length, password, salt, secret, associated, rfl, tag⟩ := same
  have effective : context.effectiveMemory = second.effectiveMemory := by
    rw [effectiveMemory, effectiveMemory, memory, lanes]
  unfold recordLines
  rw [effective, memory, passes, lanes, length, password, salt, secret, associated, tag]

theorem closed_eq_iff {second : Context} {other : Variant} {digest again : Bytes} :
    closed (context.recordLines variant digest) = closed (second.recordLines other again) ↔
      context.shown variant digest = second.shown other again := by
  constructor
  · intro same
    have read := readRecord_closed context variant digest []
    rw [same, readRecord_closed, Option.some.injEq, Prod.mk.injEq] at read
    exact read.1.symm
  · intro same
    rw [recordLines_eq_of_shown same]

def IsRecord (text : String) : Prop :=
  ∃ (context : Context) (variant : Variant), context.record variant = .ok text

theorem IsRecord.framed {text : String} (isRecord : IsRecord text) :
    ∃ middle, text = recordBar ++ "\n" ++ (middle ++ "\n") := by
  obtain ⟨context, variant, written⟩ := isRecord
  obtain ⟨digest, -, rfl⟩ := record_eq_closed written
  rw [recordLines_eq]
  exact Text.closed_framed ..

theorem IsRecord.ne_empty {text : String} (isRecord : IsRecord text) : text ≠ "" := by
  obtain ⟨middle, rfl⟩ := isRecord.framed
  simp [String.append_eq_empty_iff]

/-- Where a text goes on behind a record is told by the text. -/
theorem IsRecord.append_inj {first second : String} {rest others : List Char}
    (isRecord : IsRecord first) (isOther : IsRecord second)
    (same : first.toList ++ rest = second.toList ++ others) : first = second ∧ rest = others := by
  obtain ⟨context, variant, written⟩ := isRecord
  obtain ⟨digest, -, rfl⟩ := record_eq_closed written
  obtain ⟨again, other, rewritten⟩ := isOther
  obtain ⟨digest', -, rfl⟩ := record_eq_closed rewritten
  have read := readRecord_closed context variant digest rest
  rw [same, readRecord_closed, Option.some.injEq, Prod.mk.injEq] at read
  have behind : rest = others :=
    calc rest = ['\n'].intercalate (rest.splitOn '\n') := (List.intercalate_splitOn '\n').symm
      _ = ['\n'].intercalate (others.splitOn '\n') := by rw [read.2]
      _ = others := List.intercalate_splitOn '\n'
  subst behind
  exact ⟨String.toList_inj.mp (List.append_cancel_right same), rfl⟩

theorem join_injective {records others : List String}
    (areRecords : ∀ text ∈ records, IsRecord text) (areOthers : ∀ text ∈ others, IsRecord text)
    (same : String.join records = String.join others) : records = others := by
  induction records generalizing others with
  | nil =>
      cases others with
      | nil => rfl
      | cons second others =>
          rw [String.join_nil, String.join_cons, eq_comm, String.append_eq_empty_iff] at same
          exact absurd same.1 (areOthers second List.mem_cons_self).ne_empty
  | cons first records ih =>
      cases others with
      | nil =>
          rw [String.join_nil, String.join_cons, String.append_eq_empty_iff] at same
          exact absurd same.1 (areRecords first List.mem_cons_self).ne_empty
      | cons second others =>
          rw [String.join_cons, String.join_cons, ← String.toList_inj, String.toList_append,
            String.toList_append] at same
          obtain ⟨rfl, behind⟩ := (areRecords first List.mem_cons_self).append_inj
            (areOthers second List.mem_cons_self) same
          have rest := ih (fun text member => areRecords text (List.mem_cons_of_mem _ member))
            (fun text member => areOthers text (List.mem_cons_of_mem _ member))
            (String.toList_inj.mp behind)
          rw [rest]

/-- Wherever there is a digest there is a record, and the record tells all that it shows and
nothing else, with any text behind it. A row of records tells the records. -/
theorem records_readable :
    (∀ (context : Context) (variant : Variant) (digest : Bytes),
      context.prehash variant = .ok digest → ∃ text, context.record variant = .ok text ∧
        ∀ rest, readRecord ((text.toList ++ rest).splitOn '\n') =
          some (context.shown variant digest, rest.splitOn '\n')) ∧
    (∀ (first second : Context) (variant other : Variant) (text again : String),
      first.record variant = .ok text → second.record other = .ok again →
        (text = again ↔ variant = other ∧ first.memory = second.memory ∧
          first.passes = second.passes ∧ first.lanes = second.lanes ∧
          first.outputLength = second.outputLength ∧ first.password = second.password ∧
          first.salt = second.salt ∧ first.secret = second.secret ∧
          first.associated = second.associated ∧
          first.prehash variant = second.prehash other ∧ first.output = second.output)) ∧
    (∀ text, IsRecord text → ∃ middle, text = recordBar ++ "\n" ++ (middle ++ "\n")) ∧
    ∀ records others : List String, (∀ text ∈ records, IsRecord text) →
      (∀ text ∈ others, IsRecord text) → String.join records = String.join others →
        records = others := by
  refine ⟨fun context variant digest hashed => ?_,
    fun first second variant other text again written rewritten => ?_,
    fun text isRecord => isRecord.framed,
    fun records others areRecords areOthers => join_injective areRecords areOthers⟩
  · exact ⟨_, record_of_prehash hashed, readRecord_closed context variant digest⟩
  · obtain ⟨digest, hashed, rfl⟩ := record_eq_closed written
    obtain ⟨digest', rehashed, rfl⟩ := record_eq_closed rewritten
    rw [closed_eq_iff, hashed, rehashed]
    simp only [shown, Shown.mk.injEq, Except.ok.injEq]

/-- What is no input does not show in a record. The same byte as secret and as associated data
does, and so does the order of the two records. -/
theorem raisedContext_recorded :
    let threaded : Context := { Phc.raisedContext with threads := 4, clearPassword := false }
    let keyed : Context := { Phc.raisedContext with secret := some [3] }
    let labelled : Context := { Phc.raisedContext with associated := some [3] }
    (∃ text, Phc.raisedContext.record .i = .ok text ∧ threaded.record .i = .ok text ∧
      Phc.raisedContext.prehash .i = threaded.prehash .i) ∧
    ∃ text again, keyed.record .d = .ok text ∧ labelled.record .d = .ok again ∧ text ≠ again ∧
      (∃ middle, text = recordBar ++ "\n" ++ (middle ++ "\n")) ∧
      String.join [text, again] ≠ String.join [again, text] := by
  intro threaded keyed labelled
  obtain ⟨-, determined, framed, told⟩ := records_readable
  constructor
  · obtain ⟨text, written⟩ := record_ok (rfl : Phc.raisedContext.unmarshallable? = none) .i
    have alike : threaded.record .i = .ok text := written
    obtain ⟨-, -, -, -, -, -, -, -, -, prehash, -⟩ :=
      (determined _ _ _ _ text text written alike).mp rfl
    exact ⟨text, written, alike, prehash⟩
  · obtain ⟨text, written⟩ := record_ok (rfl : keyed.unmarshallable? = none) .d
    obtain ⟨again, rewritten⟩ := record_ok (rfl : labelled.unmarshallable? = none) .d
    have differ : text ≠ again := by
      intro same
      obtain ⟨-, -, -, -, -, -, -, secret, -⟩ :=
        (determined _ _ _ _ text again written rewritten).mp same
      exact absurd secret (by decide)
    have areRecords : ∀ record ∈ [text, again], IsRecord record := by
      intro record member
      simp only [List.mem_cons, List.not_mem_nil, or_false] at member
      rcases member with rfl | rfl
      · exact ⟨keyed, .d, written⟩
      · exact ⟨labelled, .d, rewritten⟩
    have areReversed : ∀ record ∈ [again, text], IsRecord record := fun record member =>
      areRecords record (List.mem_reverse.mp member)
    refine ⟨text, again, written, rewritten, differ, framed text ⟨keyed, .d, written⟩,
      fun same => ?_⟩
    have order := told [text, again] [again, text] areRecords areReversed same
    exact differ (List.cons.inj order).1

end Context

end Argon2Workbench
