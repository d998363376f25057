import Argon2Workbench.Log.Stream
import Mathlib.Data.List.Basic

namespace Argon2Workbench.Log

structure Setup where
  levelName : Text
  jsonLines : Bool
deriving DecidableEq, Repr

namespace Setup

def IsStandard (setup : Setup) : Prop :=
  (Level.ofName? (Text.uppercase setup.levelName)).isSome

/-- Plain lines are asked for first, and JSON lines later. -/
def Mixed : List Setup → Prop
  | [] => False
  | first :: rest => first.jsonLines = false ∧ ∃ setup ∈ rest, setup.jsonLines = true

theorem IsStandard.namedSetting {setup : Setup} (standard : setup.IsStandard) :
    ∃ level, namedSetting setup.levelName = .number level := by
  obtain ⟨level, found⟩ := Option.isSome_iff_exists.mp standard
  have notBasic : Text.uppercase setup.levelName ≠ "BASIC_FORMAT" := by
    intro same
    rw [same] at found
    contradiction
  have notStyles : Text.uppercase setup.levelName ≠ "_STYLES" := by
    intro same
    rw [same] at found
    contradiction
  exact ⟨level, by simp [Log.namedSetting, notBasic, notStyles, found]⟩

end Setup

namespace Stream

def configureAll (stream : Stream) (setups : List Setup) : Stream :=
  setups.foldl (fun stream setup => (stream.configure setup.levelName setup.jsonLines).1) stream

variable {stream : Stream} {setup : Setup} {setups : List Setup}

theorem configureJson_number (stream : Stream) (level : Level) :
    ∃ after, stream.configureJson (.number level) = (after, .ok ()) ∧
      after.handlers =
        if .json ∈ stream.handlers then stream.handlers else stream.handlers ++ [.json] := by
  by_cases installed : Handler.json ∈ stream.handlers
  · exact ⟨{ stream with level }, by
      simp [configureJson, setLevel, LevelSetting.resolve, Except.map,
        installed], by rw [if_pos installed]⟩
  · exact ⟨{ level, handlers := stream.handlers ++ [.json] }, by
      simp [configureJson, setLevel, LevelSetting.resolve, Except.map,
        installed], by rw [if_neg installed]⟩

theorem configurePlain_number (stream : Stream) (level : Level) :
    ∃ after, stream.configurePlain (.number level) = (after, .ok ()) ∧
      after.handlers = if stream.handlers = [] then [.plain] else stream.handlers := by
  by_cases vacant : stream.handlers = []
  · exact ⟨{ level, handlers := [.plain] }, by
      simp [configurePlain, setLevel, LevelSetting.resolve, Except.map,
        vacant], by rw [if_pos vacant]⟩
  · exact ⟨stream, by simp [configurePlain, vacant], by rw [if_neg vacant]⟩

theorem configure_standard (stream : Stream) (standard : setup.IsStandard) :
    ∃ after, stream.configure setup.levelName setup.jsonLines = (after, .ok ()) ∧
      after.handlers =
        if setup.jsonLines then
          if .json ∈ stream.handlers then stream.handlers else stream.handlers ++ [.json]
        else if stream.handlers = [] then [.plain] else stream.handlers := by
  obtain ⟨level, setting⟩ := standard.namedSetting
  cases lines : setup.jsonLines with
  | true => simpa [configure, setting] using stream.configureJson_number level
  | false => simpa [configure, setting] using stream.configurePlain_number level

theorem configure_succeeds (stream : Stream) (standard : setup.IsStandard) :
    (stream.configure setup.levelName setup.jsonLines).2 = .ok () := by
  obtain ⟨after, configured, -⟩ := stream.configure_standard standard
  rw [configured]

theorem handlers_configure (stream : Stream) (standard : setup.IsStandard) :
    (stream.configure setup.levelName setup.jsonLines).1.handlers =
      if setup.jsonLines then
        if .json ∈ stream.handlers then stream.handlers else stream.handlers ++ [.json]
      else if stream.handlers = [] then [.plain] else stream.handlers := by
  obtain ⟨after, configured, handlers⟩ := stream.configure_standard standard
  rw [configured, handlers]

theorem handlers_configureAll_json (standard : ∀ setup ∈ setups, setup.IsStandard)
    (installed : .json ∈ stream.handlers) :
    (stream.configureAll setups).handlers = stream.handlers := by
  induction setups generalizing stream with
  | nil => rfl
  | cons setup rest ih =>
      obtain ⟨named, others⟩ := List.forall_mem_cons.mp standard
      have kept : (stream.configure setup.levelName setup.jsonLines).1.handlers =
          stream.handlers := by
        rw [handlers_configure stream named, if_pos installed,
          if_neg (List.ne_nil_of_mem installed), ite_self]
      have later := ih others (kept.symm ▸ installed)
      exact later.trans kept

theorem handlers_configureAll_plain (standard : ∀ setup ∈ setups, setup.IsStandard)
    (plain : stream.handlers = [.plain]) :
    (stream.configureAll setups).handlers =
      if ∃ setup ∈ setups, setup.jsonLines = true then [.plain, .json] else [.plain] := by
  induction setups generalizing stream with
  | nil => simpa [configureAll] using plain
  | cons setup rest ih =>
      obtain ⟨named, others⟩ := List.forall_mem_cons.mp standard
      have step := handlers_configure stream named
      cases lines : setup.jsonLines with
      | true =>
          have doubled : (stream.configure setup.levelName setup.jsonLines).1.handlers =
              [.plain, .json] := by simpa [lines, plain] using step
          have later := handlers_configureAll_json others (by rw [doubled]; simp)
          rw [if_pos ⟨setup, List.mem_cons_self, lines⟩, ← doubled]
          exact later
      | false =>
          have kept : (stream.configure setup.levelName setup.jsonLines).1.handlers =
              [.plain] := by simpa [lines, plain] using step
          have later := ih others kept
          simp only [List.exists_mem_cons_iff, lines, Bool.false_eq_true, false_or]
          exact later

/-- The first request decides, and a later one counts only if it is for JSON lines behind plain
ones. -/
theorem handlers_configureAll {first : Setup} (fresh : stream.handlers = [])
    (standard : ∀ setup ∈ first :: setups, setup.IsStandard) :
    (stream.configureAll (first :: setups)).handlers =
      if first.jsonLines then [.json]
      else if ∃ setup ∈ setups, setup.jsonLines = true then [.plain, .json] else [.plain] := by
  obtain ⟨named, others⟩ := List.forall_mem_cons.mp standard
  have step := handlers_configure stream named
  cases lines : first.jsonLines with
  | true =>
      have single : (stream.configure first.levelName first.jsonLines).1.handlers = [.json] := by
        simpa [lines, fresh] using step
      have later := handlers_configureAll_json others (by rw [single]; simp)
      exact later.trans single
  | false =>
      have single : (stream.configure first.levelName first.jsonLines).1.handlers = [.plain] := by
        simpa [lines, fresh] using step
      exact handlers_configureAll_plain others single

theorem written_of_handlers (installed : stream.handlers ≠ []) (stamp : String) (record : Record) :
    stream.written stamp record =
      if stream.admits record.level then
        stream.handlers.flatMap (lineText stamp record.line) else [] := by
  simp [written, text, installed]

/-- Set up by names of levels only, a stream has one handler, and writes each record that it admits
once, unless plain lines are set up first and JSON lines later. Then it has two handlers from that
time on, and writes each record twice. No request fails. -/
theorem configured_once_unless_mixed (fresh : stream.handlers = []) (called : setups ≠ [])
    (standard : ∀ setup ∈ setups, setup.IsStandard) :
    (∀ front setup back, setups = front ++ setup :: back →
      ((stream.configureAll front).configure setup.levelName setup.jsonLines).2 = .ok ()) ∧
    (¬ Setup.Mixed setups → ∃ handler, (stream.configureAll setups).handlers = [handler] ∧
      ∀ stamp record, (stream.configureAll setups).admits record.level = true →
        (stream.configureAll setups).written stamp record =
          lineText stamp record.line handler) ∧
    (Setup.Mixed setups → (stream.configureAll setups).handlers = [.plain, .json] ∧
      ∀ stamp record, (stream.configureAll setups).admits record.level = true →
        (stream.configureAll setups).written stamp record =
          lineText stamp record.line .plain ++ lineText stamp record.line .json) := by
  refine ⟨?_, ?_⟩
  · rintro front setup back rfl
    exact configure_succeeds _ (standard setup (by simp))
  obtain ⟨first, rest, rfl⟩ := List.exists_cons_of_ne_nil called
  have handlers := handlers_configureAll fresh standard
  constructor
  · intro unmixed
    obtain ⟨handler, single⟩ :
        ∃ handler, (stream.configureAll (first :: rest)).handlers = [handler] := by
      cases lines : first.jsonLines with
      | true => exact ⟨.json, by rw [handlers, if_pos lines]⟩
      | false =>
          have plainOnly : ¬ ∃ setup ∈ rest, setup.jsonLines = true :=
            fun later => unmixed ⟨lines, later⟩
          exact ⟨.plain, by rw [handlers, if_neg (by simp [lines]), if_neg plainOnly]⟩
    refine ⟨handler, single, fun stamp record admitted => ?_⟩
    rw [written_of_handlers (by simp [single]), if_pos admitted, single, List.flatMap_singleton]
  · rintro ⟨lines, later⟩
    rw [if_neg (by simp [lines]), if_pos later] at handlers
    refine ⟨handlers, fun stamp record admitted => ?_⟩
    rw [written_of_handlers (by simp [handlers]), if_pos admitted, handlers, List.flatMap_cons,
      List.flatMap_singleton]

/-- JSON lines, and then plain ones in another case: the second request changes nothing. -/
theorem json_then_plain_configured_once :
    (({} : Stream).configureAll [⟨"Info", true⟩, ⟨"error", false⟩]).handlers = [.json] ∧
      ∀ stamp message, (({} : Stream).configureAll [⟨"Info", true⟩, ⟨"error", false⟩]).written stamp
        { level := .error, logger := "argon2_harness.test", message } =
          lineText stamp { level := "ERROR", logger := "argon2_harness.test", message } .json := by
  have standard : ∀ setup ∈ ([⟨"Info", true⟩, ⟨"error", false⟩] : List Setup),
      setup.IsStandard := by
    unfold Setup.IsStandard
    decide
  have fresh : ({} : Stream).handlers = [] := rfl
  obtain ⟨-, once, -⟩ := configured_once_unless_mixed fresh (by simp) standard
  obtain ⟨handler, single, written⟩ := once (by simp [Setup.Mixed])
  have same : handler = .json := by
    have known : (({} : Stream).configureAll [⟨"Info", true⟩, ⟨"error", false⟩]).handlers =
        [.json] := by decide
    rw [known] at single
    exact (List.singleton_inj.mp single).symm
  subst same
  have admitted : (({} : Stream).configureAll [⟨"Info", true⟩, ⟨"error", false⟩]).admits .error =
      true := by decide
  exact ⟨single, fun stamp message => written stamp _ admitted⟩

/-- Plain lines, and then JSON lines: a record is written in both formats. -/
theorem plain_then_json_writes_twice :
    (∀ setup ∈ ([⟨"WARNING", false⟩, ⟨"WARNING", true⟩] : List Setup), setup.IsStandard) ∧
      (({} : Stream).configureAll [⟨"WARNING", false⟩, ⟨"WARNING", true⟩]).handlers.length = 2 ∧
      (({} : Stream).configureAll [⟨"WARNING", false⟩, ⟨"WARNING", true⟩]).written
          "1970-01-01 00:00:00,000"
          { level := .error, logger := "argon2_harness.test", message := "m" } =
        "ERROR argon2_harness.test: m\n" ++ Text.ofString
          ("\x7b\"timestamp\": \"1970-01-01 00:00:00,000\", \"level\": \"ERROR\", " ++
            "\"logger\": \"argon2_harness.test\", \"message\": \"m\"\x7d\n") := by
  refine ⟨?_, by decide, ?_⟩
  · unfold Setup.IsStandard
    decide
  · decide +kernel

end Stream

end Argon2Workbench.Log
