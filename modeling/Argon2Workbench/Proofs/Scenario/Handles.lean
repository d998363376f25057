import Argon2Workbench.Files.Reading
import Argon2Workbench.Proofs.Files.History
import Argon2Workbench.Proofs.Session.Program
import Argon2Workbench.Proofs.Text.Encoded

namespace Argon2Workbench

namespace Files

variable {files after : Files} {path : Text} {location : Location} {bytes : Bytes}

/-- The path is that of a file in an existing directory, whether the file is there or not. -/
def Names (files : Files) (path : Text) (location : Location) : Prop :=
  endsOpen path = false ∧ files.LeadsTo path location

instance : Decidable (files.Names path location) := by
  unfold Names LeadsTo
  infer_instance

theorem Names.agree (named : files.Names path location)
    (same : after.directories = files.directories) : after.Names path location :=
  ⟨named.1, named.2.agree same⟩

theorem Names.unique {other : Location} (named : files.Names path location)
    (again : files.Names path other) : location = other := by
  have same := named.2.symm.trans again.2
  have places := congrArg Entry.location? (Except.ok.inj same)
  rwa [location?_entryAt, location?_entryAt, Option.some.injEq] at places

theorem Names.read (named : files.Names path location) :
    files.read path =
      match files.contents.lookup location with
      | some bytes => .ok bytes
      | none => .error (.refused .noEntry path) := by
  obtain ⟨shut, leads⟩ := named
  cases stored : files.contents.lookup location with
  | some bytes => exact read_file shut (by rw [leads, entryAt, stored])
  | none =>
      rw [Files.read, leads, entryAt, stored, ok_bind]
      rfl

theorem Names.present (named : files.Names path location) :
    files.present path = (files.contents.lookup location).isSome := by
  obtain ⟨shut, leads⟩ := named
  rw [Files.present, leads, entryAt]
  cases files.contents.lookup location with
  | some bytes => simp [shut]
  | none => rfl

theorem Names.append (named : files.Names path location) (bytes : Bytes) :
    files.append path bytes =
      .ok (files.put location ((files.contents.lookup location).getD [] ++ bytes)) := by
  obtain ⟨shut, leads⟩ := named
  cases stored : files.contents.lookup location with
  | some old =>
      have found : files.find path = .ok (.file location old) := by rw [leads, entryAt, stored]
      exact append_file shut found
  | none => exact append_vacant shut (by rw [leads, entryAt, stored])

theorem Names.occupied (named : files.Names path location) :
    files.occupied path = (files.contents.lookup location).isSome := by
  rw [Files.occupied, named.2, entryAt]
  cases files.contents.lookup location <;> rfl

theorem Names.removable (named : files.Names path location) : files.Removable path :=
  (named.2.holds named.1).removable

theorem names_of_find {entry : Entry} (shut : endsOpen path = false)
    (found : files.find path = .ok entry) (placed : entry.location? = some location) :
    files.Names path location :=
  ⟨shut, leadsTo_of_find rfl found placed⟩

theorem append_unnamed (unnamed : ∀ location, ¬ files.Names path location) (bytes : Bytes) :
    ∃ error, files.append path bytes = .error error := by
  by_cases opened : endsOpen path = true
  · exact ⟨_, by rw [append, if_pos opened]⟩
  have shut : endsOpen path = false := by simpa using opened
  rw [append, if_neg opened]
  cases found : files.find path with
  | error error => exact ⟨error, rfl⟩
  | ok entry =>
      cases entry with
      | directory => exact ⟨_, rfl⟩
      | file location old => exact absurd (names_of_find shut found rfl) (unnamed location)
      | vacant location => exact absurd (names_of_find shut found rfl) (unnamed location)

theorem cleared_unnamed (unnamed : ∀ location, ¬ files.Names path location)
    (removable : files.Removable path) : files.cleared path = files := by
  obtain ⟨outcome, discarded⟩ := removable
  cases found : files.find path with
  | error error => rw [cleared, found]
  | ok entry =>
      cases entry with
      | directory => rw [cleared, found]
      | vacant location => rw [cleared, found]
      | file location old =>
          -- The path can only end like that of a directory, and then it is refused.
          have opened : endsOpen path = true := by
            by_contra shut
            exact unnamed location (names_of_find (by simpa using shut) found rfl)
          rw [discard, remove, found, ok_bind] at discarded
          simp only [if_pos opened] at discarded
          contradiction

theorem appendText_string (files : Files) (path : Text) (text : String) :
    files.appendText path text =
      match files.append path (Text.utf8 text) with
      | .error error => (files, .error (.access error))
      | .ok written => (written, .ok ()) := by
  have encoded := Text.strictBytes_ofString text
  simp only [appendText, encoded]
  rfl

theorem readText_utf8 {text : String} (stored : files.read path = .ok (Text.utf8 text)) :
    files.readText path = .ok (String.ofList (lineFeeds text.toList)) := by
  have received : (files.read path).mapError ReadError.access = .ok (Text.utf8 text) := by
    rw [stored]
    rfl
  rw [readText, received, ok_bind]
  simp only [Text.Utf8.pieces_utf8, Text.Utf8.firstMalformed_characters,
    Text.Utf8.decodeReplacing_utf8]
  rfl

/-- The uses of a file, through whichever of the paths that name it. -/
def usesAt (files : Files) (location : Location) (uses : List (Text × Use)) : List Use :=
  (uses.filter fun use => files.Names use.1 location).map (·.2)

theorem usesAt_snoc (files : Files) (location : Location) (uses : List (Text × Use))
    (path : Text) (use : Use) :
    files.usesAt location (uses ++ [(path, use)]) =
      files.usesAt location uses ++ if files.Names path location then [use] else [] := by
  by_cases named : files.Names path location <;> simp [usesAt, named]

end Files

namespace Scenario

open Files (Use)

def used [Machine] (scenario : Scenario) (path : Text) : Use → Scenario
  | .remove => (scenario.run (Session.removeStale path)).2
  | .append text => scenario.refiled (scenario.files.appendText path text).1
  | .look => scenario
  | .read => scenario

def usedAll [Machine] (scenario : Scenario) (uses : List (Text × Use)) : Scenario :=
  uses.foldl (fun scenario (path, use) => scenario.used path use) scenario

variable {scenario : Scenario} {path : Text} {location : Location}

theorem used_remove [Machine] (named : scenario.files.Names path location) :
    (scenario.run (Session.removeStale path)).1 =
      .ok (scenario.files.contents.lookup location).isSome := by
  rw [run_removeStale named.removable, named.occupied]

theorem files_used_named [Machine] (named : scenario.files.Names path location) (use : Use) :
    (scenario.used path use).files.contents.lookup location =
        use.effect (scenario.files.contents.lookup location) ∧
      (scenario.used path use).files.directories = scenario.files.directories ∧
      ∀ other, other ≠ location → (scenario.used path use).files.contents.lookup other =
        scenario.files.contents.lookup other := by
  cases use with
  | remove =>
      have left : (scenario.used path .remove).files = scenario.files.erase location := by
        rw [used, run_removeStale named.removable]
        exact Files.cleared_eq_erase named.2
      rw [left]
      exact ⟨scenario.files.lookup_erase location, rfl,
        fun other apart => scenario.files.lookup_erase_other apart⟩
  | append text =>
      have left : (scenario.used path (.append text)).files = scenario.files.put location
          ((scenario.files.contents.lookup location).getD [] ++ Text.utf8 text) := by
        rw [used, Files.appendText_string, named.append]
        rfl
      rw [left]
      exact ⟨scenario.files.lookup_put location _, rfl,
        fun other apart => scenario.files.lookup_put_other apart _⟩
  | look => exact ⟨rfl, rfl, fun _ _ => rfl⟩
  | read => exact ⟨rfl, rfl, fun _ _ => rfl⟩

theorem files_used_unnamed [Machine] (unnamed : ∀ location, ¬ scenario.files.Names path location)
    (use : Use) : (scenario.used path use).files = scenario.files := by
  cases use with
  | remove =>
      by_cases removable : scenario.files.Removable path
      · rw [used, run_removeStale removable]
        exact Files.cleared_unnamed unnamed removable
      · cases discarded : scenario.files.discard path with
        | error error => rw [used, run_removeStale_error discarded]
        | ok outcome => exact absurd ⟨outcome, discarded⟩ removable
  | append text =>
      obtain ⟨error, refused⟩ := Files.append_unnamed unnamed (Text.utf8 text)
      rw [used, Files.appendText_string, refused]
      rfl
  | look => rfl
  | read => rfl

/-- One use changes the file that it is for, as a use of this kind does, and nothing else. -/
theorem files_used [Machine] (scenario : Scenario) (path : Text) (use : Use) :
    (scenario.used path use).files.directories = scenario.files.directories ∧
      ∀ location, (scenario.used path use).files.contents.lookup location =
        if scenario.files.Names path location then
          use.effect (scenario.files.contents.lookup location)
        else scenario.files.contents.lookup location := by
  by_cases unnamed : ∀ location, ¬ scenario.files.Names path location
  · have same := files_used_unnamed unnamed use
    rw [same]
    exact ⟨rfl, fun location => (if_neg (unnamed location)).symm⟩
  · obtain ⟨place, named⟩ := not_forall_not.mp unnamed
    obtain ⟨stepped, same, others⟩ := files_used_named named use
    refine ⟨same, fun location => ?_⟩
    by_cases own : location = place
    · subst own
      rw [if_pos named, stepped]
    · rw [others location own, if_neg fun again => own (again.unique named)]

theorem files_usedAll [Machine] (scenario : Scenario) (uses : List (Text × Use)) :
    (scenario.usedAll uses).files.directories = scenario.files.directories ∧
      ∀ location, (scenario.usedAll uses).files.contents.lookup location =
        Files.standing (scenario.files.contents.lookup location)
          (scenario.files.usesAt location uses) := by
  -- Directories stay as they are, so a path names the same file at every moment of the run.
  induction uses using List.reverseRecOn with
  | nil => exact ⟨rfl, fun location => (Files.standing_nil _).symm⟩
  | append_singleton uses last ih =>
      obtain ⟨path, use⟩ := last
      obtain ⟨directories, standing⟩ := ih
      obtain ⟨kept, stepped⟩ := files_used (scenario.usedAll uses) path use
      have after : scenario.usedAll (uses ++ [(path, use)]) =
          (scenario.usedAll uses).used path use := by
        simp [usedAll]
      have names (location : Location) : (scenario.usedAll uses).files.Names path location ↔
          scenario.files.Names path location :=
        ⟨fun named => named.agree directories.symm, fun named => named.agree directories⟩
      rw [after]
      refine ⟨kept.trans directories, fun location => ?_⟩
      rw [stepped, standing, Files.usesAt_snoc]
      by_cases named : scenario.files.Names path location
      · rw [if_pos ((names location).mpr named), if_pos named, Files.standing_snoc]
      · rw [if_neg (mt (names location).mp named), if_neg named, List.append_nil]

open Files (appended kept lineFeeds standing)

/-- Every file is a log of what was appended to it: its bytes are those it had at first, unless
it was removed, and behind them the texts appended since the last removal, whatever was done to
other files meanwhile. Whoever looks for it, removes it or reads it is answered accordingly. -/
theorem handles_keep_log [Machine] (scenario : Scenario) (uses : List (Text × Use)) :
    let after := scenario.usedAll uses
    after.files.directories = scenario.files.directories ∧
    ∀ location,
      let initial := scenario.files.contents.lookup location
      let own := scenario.files.usesAt location uses
      let there : Bool := initial.isSome ∧ .remove ∉ own ∨ appended own ≠ []
      after.files.contents.lookup location = standing initial own ∧
      ∀ path, scenario.files.Names path location →
        (after.files.read path =
          match standing initial own with
          | some bytes => .ok bytes
          | none => .error (.refused .noEntry path)) ∧
        after.files.present path = there ∧
        (after.run (Session.removeStale path)).1 = .ok there ∧
        (∀ text : String, (after.files.appendText path text).2 = .ok ()) ∧
        (kept initial own = none → appended own ≠ [] →
          after.files.readText path =
            .ok (String.ofList (lineFeeds (String.join (appended own)).toList)) ∧
          ((∀ text ∈ appended own, '\r' ∉ text.toList) →
            after.files.readText path = .ok (String.join (appended own)))) := by
  intro after
  obtain ⟨directories, contents⟩ := scenario.files_usedAll uses
  refine ⟨directories, fun location => ?_⟩
  intro initial own there
  have stored : after.files.contents.lookup location = standing initial own := contents location
  have present : (standing initial own).isSome = there := by
    rw [Bool.eq_iff_iff, Files.isSome_standing, decide_eq_true_iff]
  refine ⟨stored, fun path before => ?_⟩
  have named : after.files.Names path location := before.agree directories
  have bytes := named.read
  rw [stored] at bytes
  refine ⟨bytes, ?_, ?_, fun text => ?_, fun gone written => ?_⟩
  · rw [named.present, stored, present]
  · rw [used_remove named, stored, present]
  · rw [Files.appendText_string, named.append]
  · rw [Files.standing_appended gone written] at bytes
    have read := Files.readText_utf8 bytes
    refine ⟨read, fun plain => ?_⟩
    have whole : '\r' ∉ (String.join (appended own)).toList := by
      rw [String.toList_join, List.mem_flatMap]
      rintro ⟨text, member, return_⟩
      exact plain text member return_
    rw [read, Files.lineFeeds_eq_self whole, String.ofList_toList]

attribute [local instance] Machine.workstation

/-- A file that was there before, one that is written through two of its paths, and one that is
removed in between. A line break is written in halves. -/
def interleaved : List (Text × Use) :=
  [("kat.log", .append "\r"), ("notes", .remove), ("notes", .append "a\r"), ("draft", .append "x"),
   ("kat.log", .read), ("./notes", .append "\nb"), ("draft", .remove), ("draft", .append ""),
   ("draft", .append "yz")]

def loggedBefore : Scenario :=
  { files := { contents := [(["kat.log"], [0x0a])] } }

theorem interleaved_logs :
    let after := loggedBefore.usedAll interleaved
    after.files.read "kat.log" = .ok [0x0a, 0x0d] ∧
    (after.run (Session.removeStale "kat.log")).1 = .ok true ∧
    after.files.present "./notes" = true ∧
    after.files.readText "notes" = .ok "a\nb" ∧
    after.files.readText "draft" = .ok "yz" := by
  intro after
  have log : loggedBefore.files.usesAt ["kat.log"] interleaved = [.append "\r", .read] := by
    decide +kernel
  have notes : loggedBefore.files.usesAt ["notes"] interleaved =
      [.remove, .append "a\r", .append "\nb"] := by
    decide +kernel
  have draft : loggedBefore.files.usesAt ["draft"] interleaved =
      [.append "x", .remove, .append "", .append "yz"] := by
    decide +kernel
  obtain ⟨-, logs⟩ := handles_keep_log loggedBefore interleaved
  obtain ⟨-, named⟩ := logs ["kat.log"]
  obtain ⟨bytes, -, removed, -⟩ := named "kat.log" (by decide +kernel)
  obtain ⟨-, notesNamed⟩ := logs ["notes"]
  obtain ⟨-, present, -⟩ := notesNamed "./notes" (by decide +kernel)
  obtain ⟨-, -, -, -, read⟩ := notesNamed "notes" (by decide +kernel)
  obtain ⟨-, draftNamed⟩ := logs ["draft"]
  obtain ⟨-, -, -, -, plain⟩ := draftNamed "draft" (by decide +kernel)
  rw [log] at bytes removed
  rw [notes] at present read
  rw [draft] at plain
  refine ⟨bytes, removed, present, ?_, ?_⟩
  · exact (read rfl (by decide)).1
  · exact (plain rfl (by decide)).2 (by decide)

end Scenario

end Argon2Workbench
