import Argon2Workbench.Log.Entry
import Argon2Workbench.Proofs.Json.Values
import Argon2Workbench.Proofs.Number.Rounding
import Argon2Workbench.Proofs.Outcome
import Mathlib.Data.List.Induction

namespace Argon2Workbench.Log

inductive Field where
  | status
  | variant
  | memory
  | threads
deriving DecidableEq, Repr

namespace Field

def all : List Field := [status, variant, memory, threads]

def name : Field → String
  | status => "status"
  | variant => "argon2_type"
  | memory => "m_cost"
  | threads => "threads"

theorem mem_all (field : Field) : field ∈ all := by
  cases field <;> decide

end Field

namespace Fields

def value? (fields : Fields) : Field → Option Json
  | .status => fields.status
  | .variant => fields.variant
  | .memory => fields.memory
  | .threads => fields.threads

def put (fields : Fields) (field : Field) (value : Option Json) : Fields :=
  match field with
  | .status => { fields with status := value }
  | .variant => { fields with variant := value }
  | .memory => { fields with memory := value }
  | .threads => { fields with threads := value }

theorem value?_put (fields : Fields) (field other : Field) (value : Option Json) :
    (fields.put field value).value? other =
      if other = field then value else fields.value? other := by
  cases field <;> cases other <;> rfl

theorem eq_of_value? {fields others : Fields}
    (same : ∀ field, fields.value? field = others.value? field) : fields = others := by
  obtain ⟨status, variant, memory, threads⟩ := fields
  obtain rfl : status = others.status := same .status
  obtain rfl : variant = others.variant := same .variant
  obtain rfl : memory = others.memory := same .memory
  obtain rfl : threads = others.threads := same .threads
  rfl

theorem members_eq (fields : Fields) :
    fields.members = Field.all.filterMap fun field =>
      (fields.value? field).map (Text.ofString field.name, ·) := by
  obtain ⟨status, variant, memory, threads⟩ := fields
  cases status <;> cases variant <;> cases memory <;> cases threads <;> rfl

theorem mem_members {fields : Fields} {name : Text} {value : Json} :
    (name, value) ∈ fields.members ↔
      ∃ field : Field, name = field.name ∧ fields.value? field = some value := by
  rw [members_eq, List.mem_filterMap]
  constructor
  · rintro ⟨field, -, found⟩
    obtain ⟨_, found, same⟩ := Option.map_eq_some_iff.mp found
    cases same
    exact ⟨field, rfl, found⟩
  · rintro ⟨field, rfl, found⟩
    exact ⟨field, field.mem_all, by rw [found]; rfl⟩

theorem names_sublist (fields : Fields) :
    (fields.members.map Prod.fst).Sublist
      (Field.all.map fun field => Text.ofString field.name) := by
  rw [members_eq]
  induction Field.all with
  | nil => exact .slnil
  | cons field rest ih =>
      cases found : fields.value? field with
      | none => simpa [found] using ih.cons (Text.ofString field.name)
      | some value => simpa [found] using ih.cons_cons (Text.ofString field.name)

end Fields

inductive Value where
  | integer (number : Int)
  | text (characters : String)
deriving DecidableEq, Repr

def Value.json : Value → Json
  | integer number => .integer number
  | text characters => .string characters

theorem Value.legible (value : Value) : value.json.IsLegible := by
  cases value with
  | integer => trivial
  | text => exact Text.isJoined_ofString _

structure Content where
  stamp : String
  level : String
  logger : String
  message : String
  /-- The attributes in the order in which they are set, each to a value or to nothing. -/
  given : List (Field × Option Value) := []
  exception : Option String := none

namespace Content

variable {content : Content} {name : Text} {value : Json}

def value? (content : Content) (field : Field) : Option Value :=
  (content.given.reverse.lookup field).join

def attributes (content : Content) : List (Text × Json) :=
  content.given.map fun (field, value) =>
    (Text.ofString field.name, (value.map Value.json).getD .null)

/-- An entry that has the message as its template, which nothing is put into. -/
def entry (content : Content) (created milliseconds : Json) : Entry where
  logger := .string content.logger
  level := .string content.level
  template := .string content.message
  arguments := .row []
  created := created
  milliseconds := milliseconds
  exception := .ok (content.exception.map Text.ofString)

/-- A call that logs the message, for the exception is no part of a call. -/
def call (content : Content) (level : Level) : Call where
  logger := .string content.logger
  level := .integer level
  template := .string content.message
  attributes := content.attributes

inductive Shows (content : Content) : Text → Json → Prop
  | timestamp : Shows content "timestamp" (.string content.stamp)
  | level : Shows content "level" (.string content.level)
  | logger : Shows content "logger" (.string content.logger)
  | message : Shows content "message" (.string content.message)
  | field {field : Field} {value : Value} (set : content.value? field = some value) :
      Shows content field.name value.json
  | exception {text : String} (carried : content.exception = some text) :
      Shows content "exc_info" (.string text)

theorem Shows.legible (shows : content.Shows name value) : name.IsJoined ∧ value.IsLegible := by
  cases shows with
  | field => exact ⟨Text.isJoined_ofString _, Value.legible _⟩
  | _ => exact ⟨Text.isJoined_ofString _, Text.isJoined_ofString _⟩

def fields (content : Content) : Fields where
  status := (content.value? .status).map Value.json
  variant := (content.value? .variant).map Value.json
  memory := (content.value? .memory).map Value.json
  threads := (content.value? .threads).map Value.json

theorem value?_fields (content : Content) (field : Field) :
    content.fields.value? field = (content.value? field).map Value.json := by
  cases field <;> rfl

def line (content : Content) : Line where
  level := .string content.level
  logger := .string content.logger
  message := content.message
  fields := content.fields
  exception := content.exception.map Text.ofString

def members (content : Content) : List (Text × Json) :=
  content.line.head content.stamp ++ content.fields.members ++ content.line.tail

theorem mem_members : (name, value) ∈ content.members ↔ content.Shows name value := by
  simp only [members, List.mem_append, Fields.mem_members, value?_fields]
  constructor
  · rintro ((member | ⟨field, rfl, found⟩) | member)
    · simp only [Line.head, List.mem_cons, Prod.mk.injEq, List.not_mem_nil, or_false] at member
      rcases member with ⟨rfl, rfl⟩ | ⟨rfl, rfl⟩ | ⟨rfl, rfl⟩ | ⟨rfl, rfl⟩
      · exact .timestamp
      · exact .level
      · exact .logger
      · exact .message
    · obtain ⟨value, set, rfl⟩ := Option.map_eq_some_iff.mp found
      exact .field set
    · cases carried : content.exception with
      | none => simp [Line.tail, line, carried] at member
      | some text =>
          obtain ⟨rfl, rfl⟩ : name = Text.ofString "exc_info" ∧ value = .string text := by
            simpa [Line.tail, line, carried] using member
          exact .exception carried
  · intro shows
    cases shows with
    | timestamp => exact .inl (.inl (by simp [Line.head]))
    | level => exact .inl (.inl (by simp [Line.head, line]))
    | logger => exact .inl (.inl (by simp [Line.head, line]))
    | message => exact .inl (.inl (by simp [Line.head, line]))
    | field set => exact .inl (.inr ⟨_, rfl, by rw [set]; rfl⟩)
    | exception carried => exact .inr (by simp [Line.tail, line, carried])

/-- Only the numbers among the fields may be too long. -/
theorem isWritable_members : (Json.object content.members).isWritable = true ↔
    ∀ field number, content.value? field = some (.integer number) →
      number.natAbs < tenTo Numeral.digitLimit := by
  rw [Json.isWritable_object]
  constructor
  · intro writable field number set
    exact Json.isWritable_integer.mp (writable _ _ (mem_members.mpr (.field set)))
  · intro short name value member
    cases mem_members.mp member with
    | @field field value set =>
        cases value with
        | integer number => exact Json.isWritable_integer.mpr (short field number set)
        | text => rfl
    | _ => rfl

theorem nodup_names (content : Content) : (content.members.map Prod.fst).Nodup := by
  -- The names are among nine that differ, and in their order.
  have tail : (content.line.tail.map Prod.fst).Sublist [Text.ofString "exc_info"] := by
    cases carried : content.exception <;> simp [Line.tail, line, carried]
  have sublist := (content.fields.names_sublist.append_left
    ((content.line.head content.stamp).map Prod.fst)).append tail
  rw [← List.map_append, ← List.map_append] at sublist
  have distinct : (["timestamp", "level", "logger", "message"].map Text.ofString ++
      Field.all.map (fun field => Text.ofString field.name) ++
      [Text.ofString "exc_info"]).Nodup := by decide
  exact sublist.nodup distinct

end Content

namespace Entry

variable {entry : Entry} {content : Content}

/-- The entry has this content, the fields apart, of which none is set. -/
structure Holds [Machine] (entry : Entry) (content : Content) : Prop where
  stamp : entry.stamp = .ok content.stamp
  level : entry.level = .string content.level
  logger : entry.logger = .string content.logger
  message : entry.message = .ok (Text.ofString content.message)
  exception : entry.exception = .ok (content.exception.map Text.ofString)
  fields : ∀ field, entry.fields.value? field = none

theorem Holds.of_stamp [Machine] {created milliseconds : Json}
    (stamped : (content.entry created milliseconds).stamp = .ok content.stamp) :
    (content.entry created milliseconds).Holds content where
  stamp := stamped
  level := rfl
  logger := rfl
  message := rfl
  exception := rfl
  fields := by rintro (_ | _ | _ | _) <;> rfl

theorem ofCall_call {level : Level} (named : content.level = level.name)
    (short : level.natAbs < tenTo 4300) :
    ofCall (content.call level) =
      .ok { content.entry (.integer 0) (.integer 0) with exception := .ok none } := by
  have shown : Level.shown (.integer level) = .ok (.string content.level) := by
    rw [Level.shown, if_pos (Numeral.isWritable_iff.mpr short), named]
  change (Level.shown (.integer level) >>= _) = _
  rw [shown]
  rfl

theorem setAll_append (entry : Entry) (front back : List (Text × Json)) :
    entry.setAll (front ++ back) = (entry.setAll front).setAll back :=
  List.foldl_append

theorem set_name (entry : Entry) (field : Field) (value : Json) :
    entry.set field.name value =
      { entry with fields := entry.fields.put field (fieldOf value) } := by
  cases field <;> rfl

theorem fieldOf_json (value : Option Value) :
    fieldOf ((value.map Value.json).getD .null) = value.map Value.json := by
  rcases value with _ | ⟨number⟩ | ⟨characters⟩ <;> rfl

theorem setAll_attributes (entry : Entry) (content : Content)
    (unset : ∀ field, entry.fields.value? field = none) :
    entry.setAll content.attributes = { entry with fields := content.fields } := by
  suffices run : ∃ fields, entry.setAll content.attributes = { entry with fields } ∧
      ∀ field, fields.value? field = (content.value? field).map Value.json by
    obtain ⟨fields, set, values⟩ := run
    rw [set, Fields.eq_of_value? fun field =>
      (values field).trans (content.value?_fields field).symm]
  simp only [Content.attributes, Content.value?]
  -- The last attribute is set last and is looked up first, so the row is taken from its end.
  induction content.given using List.reverseRecOn with
  | nil => exact ⟨entry.fields, rfl, unset⟩
  | append_singleton given last ih =>
      obtain ⟨field, value⟩ := last
      obtain ⟨fields, set, values⟩ := ih
      refine ⟨fields.put field (value.map Value.json), ?_, fun other => ?_⟩
      · rw [List.map_append, setAll_append, set]
        exact (set_name _ field _).trans (by rw [fieldOf_json])
      · rw [Fields.value?_put, List.reverse_concat, List.lookup_cons]
        by_cases same : other = field
        · simp [same]
        · simp [beq_eq_false_iff_ne.mpr same, same, values]

theorem line_of_parts [Machine] (entry : Entry) {message : Text} {exception : Option Text}
    (said : entry.message = .ok message) (carried : entry.exception = .ok exception) :
    entry.line = .ok { level := entry.level, logger := entry.logger, message
                       fields := entry.fields, exception } := by
  rw [line, said, carried]
  rfl

theorem jsonLine_attributes [Machine] (holds : entry.Holds content) :
    (entry.setAll content.attributes).jsonLine =
      (Json.object content.members).rendered.mapError .digits := by
  have stamp : ({ entry with fields := content.fields } : Entry).stamp = .ok content.stamp :=
    holds.stamp
  have shown : ({ entry with fields := content.fields } : Entry).line = .ok content.line := by
    rw [line_of_parts { entry with fields := content.fields } holds.message holds.exception,
      holds.level, holds.logger]
    rfl
  rw [setAll_attributes entry content holds.fields, jsonLine, stamp, ok_bind, shown]
  rfl

theorem jsonLine_unwritten [Machine] (holds : entry.Holds content) {field : Field} {number : Int}
    (set : content.value? field = some (.integer number)) (long : tenTo 4300 ≤ number.natAbs) :
    (entry.setAll content.attributes).jsonLine = .error (.digits {}) := by
  have unwritable : ¬ (Json.object content.members).isWritable = true := fun writable =>
    absurd (Content.isWritable_members.mp writable field number set) (Nat.not_lt.mpr long)
  rw [jsonLine_attributes holds, Json.rendered, if_neg unwritable]
  rfl

/-- An entry that is given fields becomes one line of printable text, and the line is read as one
object, which has what the entry holds and no more. A number of more than 4300 digits is never
written, so an entry that is given one becomes no line. -/
theorem jsonLine_shows_content [Machine] (holds : entry.Holds content) :
    ((∀ field number, content.value? field = some (.integer number) →
        number.natAbs < tenTo 4300) →
      ∃ line members, (entry.setAll content.attributes).jsonLine = .ok line ∧
        (∀ character ∈ line.toList, Json.IsShown character) ∧
        Json.read? line = some (.object members) ∧
        (members.map Prod.fst).Nodup ∧
        ∀ name value, (name, value) ∈ members ↔ content.Shows name value) ∧
    ∀ field number, content.value? field = some (.integer number) →
      tenTo 4300 ≤ number.natAbs →
      (entry.setAll content.attributes).jsonLine = .error (.digits {}) := by
  refine ⟨fun short => ?_, fun field number => jsonLine_unwritten holds⟩
  have legible : (Json.object content.members).IsLegible :=
    Json.membersLegible_iff.mpr fun name value member => (Content.mem_members.mp member).legible
  have writable : (Json.object content.members).isWritable = true :=
    Content.isWritable_members.mpr short
  refine ⟨(Json.object content.members).render, content.members, ?_, ?_, Json.read?_render legible,
    content.nodup_names, fun name value => Content.mem_members⟩
  · rw [jsonLine_attributes holds, Json.rendered, if_pos writable]
    rfl
  · rw [Json.render, String.toList_ofList]
    exact Json.isShown_of_mem_write _ legible

attribute [local instance] Machine.workstation

/-- A message and an exception of two lines each, and fields that are set to nothing much. -/
def twoLines : Content where
  stamp := "2009-02-13 23:31:30,123"
  level := "WARNING"
  logger := "argon2_harness.crypto"
  message := "\"C:\\temp\"\n\x00 \u007f 🔑"
  given := [(.status, some (.integer 3)), (.variant, some (.text "")), (.memory, none),
    (.status, some (.integer 0))]
  exception := some "Traceback (most recent call last):\nValueError: no key"

theorem jsonLine_shows_twoLines :
    ∃ entry line members, ofCall (twoLines.call .warning) = .ok entry ∧
      ({ entry with
          created := .integer 1234567890
          milliseconds := .integer 123
          exception := .ok (twoLines.exception.map Text.ofString) }.setAll
        twoLines.attributes).jsonLine = .ok line ∧
      '\n' ∉ line.toList ∧ Json.read? line = some (.object members) ∧
      (Text.ofString "message", .string twoLines.message) ∈ members ∧
      (Text.ofString "status", .integer 0) ∈ members ∧
      (Text.ofString "argon2_type", .string "") ∈ members ∧
      (Text.ofString "exc_info",
        .string "Traceback (most recent call last):\nValueError: no key") ∈ members := by
  have called : ofCall (twoLines.call .warning) = _ :=
    ofCall_call (by decide)
      (Nat.lt_of_lt_of_le (by decide : 30 < tenTo 2) (tenTo_le_tenTo (by decide)))
  have holds : (twoLines.entry (.integer 1234567890) (.integer 123)).Holds twoLines :=
    .of_stamp (by decide +kernel)
  have short : ∀ field number, twoLines.value? field = some (.integer number) →
      number.natAbs < tenTo 4300 := by
    intro field number set
    cases field with
    | status => cases set; exact tenTo_pos 4300
    | variant | memory | threads => cases set
  obtain ⟨line, members, written, shown, read, -, complete⟩ :=
    (jsonLine_shows_content holds).1 short
  have noBreak : ¬ Json.IsShown '\n' := by decide
  have status : twoLines.value? .status = some (.integer 0) := rfl
  have variant : twoLines.value? .variant = some (.text "") := rfl
  exact ⟨_, line, members, called, written, fun member => noBreak (shown _ member), read,
    (complete _ _).mpr .message, (complete _ _).mpr (.field status),
    (complete _ _).mpr (.field variant), (complete _ _).mpr (.exception rfl)⟩

/-- A record with one field that is set to a number. -/
def numbered (number : Int) : Content where
  stamp := "1970-01-01 00:00:00,000"
  level := "ERROR"
  logger := "argon2_harness.test"
  message := "m"
  given := [(.status, some (.integer number))]

theorem numbered_holds [Machine] (number : Int) :
    ((numbered number).entry (.integer 0) (.integer 0)).Holds (numbered number) := by
  have stamped : ((numbered 0).entry (.integer 0) (.integer 0)).stamp =
      .ok "1970-01-01 00:00:00,000" := by decide +kernel
  exact .of_stamp stamped

/-- The least number that is too long, and a time in the year 31688740476: neither record becomes
a line. -/
theorem long_number_late_time_unwritten :
    (((numbered (tenTo 4300)).entry (.integer 0) (.integer 0)).setAll
        (numbered (tenTo 4300)).attributes).jsonLine = .error (.digits {}) ∧
      (((numbered 0).entry (.integer (tenTo 18)) (.integer 0)).setAll
        (numbered 0).attributes).jsonLine = .error (.moment .beyondYears) := by
  have set : (numbered (tenTo 4300)).value? .status = some (.integer (tenTo 4300)) := rfl
  have long : tenTo 4300 ≤ ((tenTo 4300 : Nat) : Int).natAbs := by rw [Int.natAbs_natCast]
  exact ⟨jsonLine_unwritten (numbered_holds _) set long, by decide +kernel⟩

end Entry

end Argon2Workbench.Log
