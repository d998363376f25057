import Argon2Workbench.Files
import Argon2Workbench.Proofs.Outcome
import Mathlib.Tactic.SplitIfs

namespace Argon2Workbench.Files

deriving instance DecidableEq for Entry

variable {files : Files} {path : Text} {location : Location}

/-- The path is in a directory that exists, and neither leads to a directory nor ends as
only a directory's may. -/
def Holds (files : Files) (path : Text) : Prop :=
  endsOpen path = false ∧
    ∃ location, files.find path = .ok (.vacant location) ∨
      ∃ bytes, files.find path = .ok (.file location bytes)

def occupied (files : Files) (path : Text) : Bool :=
  match files.find path with
  | .ok (.file ..) => true
  | _ => false

def cleared (files : Files) (path : Text) : Files :=
  match files.find path with
  | .ok (.file location _) => files.erase location
  | _ => files

def Removable (files : Files) (path : Text) : Prop :=
  ∃ after, files.discard path = .ok after

theorem discard_of_removable (removable : files.Removable path) :
    files.discard path = .ok (files.cleared path, files.occupied path) := by
  obtain ⟨after, discarded⟩ := removable
  simp only [discard, remove, cleared, occupied] at discarded ⊢
  cases found : files.find path with
  | error error =>
      simp only [found, error_bind] at discarded ⊢
      cases error with
      | refused reason text => cases reason <;> simp_all
      | embeddedNull => simp_all
      | unencodable error => simp_all
  | ok entry =>
      simp only [found, ok_bind] at discarded ⊢
      cases entry with
      | directory => contradiction
      | vacant location => rfl
      | file location bytes =>
          by_cases opened : endsOpen path = true
          · simp only [if_pos opened] at discarded
            contradiction
          · simp only [if_neg opened]
            rfl

theorem Holds.removable (holds : files.Holds path) : files.Removable path := by
  obtain ⟨shut, location, vacant | ⟨bytes, found⟩⟩ := holds
  · have absent : files.remove path = .error (.refused .noEntry path) := by
      rw [remove, vacant, ok_bind]
      rfl
    exact ⟨_, by rw [discard, absent]⟩
  · have removed : files.remove path = .ok (files.erase location) := by
      rw [remove, found, ok_bind]
      simp only [shut]
      rfl
    exact ⟨_, by rw [discard, removed]⟩

theorem lookup_erase (files : Files) (location : Location) :
    (files.erase location).contents.lookup location = none := by
  rw [List.lookup_eq_none_iff]
  intro entry member
  have other := (List.mem_filter.mp member).2
  simp only [bne_iff_ne] at other ⊢
  exact other.symm

theorem lookup_put (files : Files) (location : Location) (bytes : Bytes) :
    (files.put location bytes).contents.lookup location = some bytes := by
  have erased : (files.contents.filter (·.1 != location)).lookup location = none :=
    files.lookup_erase location
  simp [put, List.lookup_append, erased]

def Entry.location? : Entry → Option Location
  | .directory => none
  | .file location _ => some location
  | .vacant location => some location

def entryAt (files : Files) (location : Location) : Entry :=
  match files.contents.lookup location with
  | some bytes => .file location bytes
  | none => .vacant location

theorem entryAt_erase (files : Files) (location : Location) :
    (files.erase location).entryAt location = .vacant location := by
  rw [entryAt, lookup_erase]

theorem entryAt_put (files : Files) (location : Location) (bytes : Bytes) :
    (files.put location bytes).entryAt location = .file location bytes := by
  rw [entryAt, lookup_put]

theorem walk_last {here : Location} {name : Text} {rest : List Text} (other : ¬ name = ".")
    (down : ¬ name = upward) (short : ¬ nameLimit < name.bytes.length)
    (file : ¬ files.directories.contains (here ++ [name]) = true) (last : rest.isEmpty = true) :
    files.walk here (name :: rest) = .ok (files.entryAt (here ++ [name])) := by
  rw [walk, if_neg other, if_neg down, if_neg short, if_neg file, entryAt]
  cases files.contents.lookup (here ++ [name]) with
  | some bytes => exact if_pos last
  | none => exact if_pos last

/-- Which place a path leads to depends on the directories alone. -/
theorem walk_agree {after : Files} {here : Location} {names : List Text} {entry : Entry}
    (same : after.directories = files.directories) (found : files.walk here names = .ok entry)
    (placed : entry.location? = some location) :
    after.walk here names = .ok (after.entryAt location) := by
  -- Contents are looked at with the last name only: there the entries may differ, and before
  -- it the walk passes through the same directories.
  fun_induction files.walk here names with
  | case1 =>
      cases found
      contradiction
  | case2 here rest ih => rw [walk, if_pos rfl, ih found]
  | case3 here rest other ih => rw [walk, if_neg other, if_pos rfl, ih found]
  | case4 => simp at found
  | case5 here name rest other down short place directory ih =>
      rw [walk, if_neg other, if_neg down, if_neg short, same, if_pos directory, ih found]
  | case6 here name rest other down short place file bytes stored last =>
      cases found
      obtain rfl := Option.some.inj placed
      rw [← same] at file
      exact walk_last other down short file last
  | case7 => simp at found
  | case8 here name rest other down short place file stored last =>
      cases found
      obtain rfl := Option.some.inj placed
      rw [← same] at file
      exact walk_last other down short file last
  | case9 => simp at found

/-- The path leads to a place for a file, in a directory that exists. -/
def LeadsTo (files : Files) (path : Text) (location : Location) : Prop :=
  files.find path = .ok (files.entryAt location)

theorem leadsTo_of_find {after : Files} {entry : Entry}
    (same : after.directories = files.directories) (found : files.find path = .ok entry)
    (placed : entry.location? = some location) : after.LeadsTo path location := by
  simp only [LeadsTo, find, resolve, id_eq] at found ⊢
  cases encoded : path.encoded with
  | error error => simp [encoded] at found
  | ok encoded =>
      simp only [encoded] at found ⊢
      split_ifs at found ⊢ with null empty long absolute
      cases walked : files.walk [] (Path.ofText path).names with
      | error reason => simp [walked, Except.mapError] at found
      | ok reached =>
          simp only [walked, Except.mapError, Except.ok.injEq] at found
          subst found
          rw [walk_agree same walked placed]
          rfl

theorem location?_entryAt (files : Files) (location : Location) :
    (files.entryAt location).location? = some location := by
  unfold entryAt
  split <;> rfl

theorem LeadsTo.agree {after : Files} (leads : files.LeadsTo path location)
    (same : after.directories = files.directories) : after.LeadsTo path location :=
  leadsTo_of_find same leads (files.location?_entryAt location)

theorem Holds.leadsTo (holds : files.Holds path) : ∃ location, files.LeadsTo path location := by
  obtain ⟨-, location, vacant | ⟨bytes, found⟩⟩ := holds
  · exact ⟨location, leadsTo_of_find rfl vacant rfl⟩
  · exact ⟨location, leadsTo_of_find rfl found rfl⟩

theorem LeadsTo.holds (leads : files.LeadsTo path location) (shut : endsOpen path = false) :
    files.Holds path := by
  refine ⟨shut, location, ?_⟩
  rw [leads, entryAt]
  cases files.contents.lookup location with
  | some bytes => exact .inr ⟨bytes, rfl⟩
  | none => exact .inl rfl

theorem find_erase (leads : files.LeadsTo path location) :
    (files.erase location).find path = .ok (.vacant location) := by
  have after : (files.erase location).LeadsTo path location := leads.agree rfl
  rw [after, entryAt_erase]

theorem find_put (leads : files.LeadsTo path location) (bytes : Bytes) :
    (files.put location bytes).find path = .ok (.file location bytes) := by
  have after : (files.put location bytes).LeadsTo path location := leads.agree rfl
  rw [after, entryAt_put]

theorem erase_absent (absent : files.contents.lookup location = none) :
    files.erase location = files := by
  have kept : files.contents.filter (·.1 != location) = files.contents := by
    rw [List.filter_eq_self]
    intro entry member
    have other := List.lookup_eq_none_iff.mp absent entry member
    simp only [bne_iff_ne] at other ⊢
    exact other.symm
  rw [erase, kept]

theorem cleared_eq_erase (leads : files.LeadsTo path location) :
    files.cleared path = files.erase location := by
  rw [cleared, leads, entryAt]
  cases stored : files.contents.lookup location with
  | some bytes => rfl
  | none => exact (erase_absent stored).symm

theorem find_cleared (holds : files.Holds path) :
    ∃ location, (files.cleared path).find path = .ok (.vacant location) := by
  obtain ⟨location, leads⟩ := holds.leadsTo
  exact ⟨location, by rw [cleared_eq_erase leads, find_erase leads]⟩

theorem cleared_holds (holds : files.Holds path) : (files.cleared path).Holds path := by
  obtain ⟨location, vacant⟩ := find_cleared holds
  exact ⟨holds.1, location, .inl vacant⟩

theorem erase_erase (files : Files) (location : Location) :
    (files.erase location).erase location = files.erase location :=
  erase_absent (files.lookup_erase location)

theorem erase_put (files : Files) (location : Location) (bytes : Bytes) :
    (files.put location bytes).erase location = files.erase location := by
  simp [put, erase, List.filter_append, List.filter_filter]

theorem put_erase (files : Files) (location : Location) (bytes : Bytes) :
    (files.erase location).put location bytes = files.put location bytes := by
  simp [put, erase, List.filter_filter]

theorem lookup_erase_other (files : Files) {location other : Location} (apart : other ≠ location) :
    (files.erase location).contents.lookup other = files.contents.lookup other := by
  simp only [erase]
  induction files.contents with
  | nil => rfl
  | cons entry rest ih =>
      obtain ⟨place, bytes⟩ := entry
      by_cases same : place = location
      · subst same
        have skipped : (other == place) = false := by simpa using apart
        simp [List.lookup_cons, skipped, ih]
      · simp [same, List.lookup_cons, ih]

theorem lookup_put_other (files : Files) {location other : Location} (apart : other ≠ location)
    (bytes : Bytes) :
    (files.put location bytes).contents.lookup other = files.contents.lookup other := by
  have kept := files.lookup_erase_other apart
  have elsewhere : [(location, bytes)].lookup other = none := by
    simpa [List.lookup_eq_none_iff] using apart
  simp only [erase] at kept
  simp [put, List.lookup_append, kept, elsewhere]

theorem read_file {bytes : Bytes} (shut : endsOpen path = false)
    (found : files.find path = .ok (.file location bytes)) : files.read path = .ok bytes := by
  rw [read, found, ok_bind]
  simp only [shut]
  rfl

theorem append_vacant {bytes : Bytes} (shut : endsOpen path = false)
    (vacant : files.find path = .ok (.vacant location)) :
    files.append path bytes = .ok (files.put location bytes) := by
  have closed : ¬ endsOpen path = true := by simp [shut]
  rw [append, if_neg closed, vacant, ok_bind]
  rfl

theorem append_file {bytes old : Bytes} (shut : endsOpen path = false)
    (found : files.find path = .ok (.file location old)) :
    files.append path bytes = .ok (files.put location (old ++ bytes)) := by
  have closed : ¬ endsOpen path = true := by simp [shut]
  rw [append, if_neg closed, found, ok_bind]
  rfl

end Argon2Workbench.Files
