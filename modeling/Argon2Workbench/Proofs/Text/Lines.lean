import Argon2Workbench.Proofs.Text.Written
import Mathlib.Data.List.Basic

namespace Argon2Workbench

namespace Text

def closed (lines : List String) : String :=
  String.join (lines.map (· ++ "\n"))

theorem closed_cons (line : String) (lines : List String) :
    closed (line :: lines) = line ++ "\n" ++ closed lines := by
  simp [closed]

theorem closed_concat (lines : List String) (line : String) :
    closed (lines ++ [line]) = closed lines ++ line ++ "\n" := by
  simp [closed, String.join_append, String.append_assoc]

theorem closed_framed (first second : String) (lines : List String) :
    ∃ middle, closed (first :: second :: lines) = first ++ "\n" ++ (middle ++ "\n") := by
  obtain ⟨front, last, split⟩ : ∃ front last, second :: lines = front ++ [last] :=
    ⟨_, _, (List.dropLast_concat_getLast (List.cons_ne_nil second lines)).symm⟩
  exact ⟨closed front ++ last, by rw [closed_cons, split, closed_concat]⟩

theorem toList_closed (lines : List String) :
    (closed lines).toList = lines.flatMap fun line => line.toList ++ ['\n'] := by
  simp [closed, String.toList_join, List.flatMap_map]

/-- A line break within a line parts it, and those that close a line part it from the next. -/
theorem splitOn_closed (lines : List String) (rest : List Char) :
    ((closed lines).toList ++ rest).splitOn '\n' =
      (lines.flatMap fun line => line.toList.splitOn '\n') ++ rest.splitOn '\n' := by
  rw [toList_closed]
  induction lines with
  | nil => rfl
  | cons line lines ih =>
      rw [List.flatMap_cons, List.flatMap_cons, List.append_assoc, List.append_assoc,
        List.append_assoc, List.singleton_append, List.splitOn_append_cons_self, ih]

theorem splitOn_closed_plain {lines : List String} (plain : ∀ line ∈ lines, '\n' ∉ line.toList)
    (rest : List Char) :
    ((closed lines).toList ++ rest).splitOn '\n' = lines.map String.toList ++ rest.splitOn '\n' := by
  have each (line : String) (member : line ∈ lines) : line.toList.splitOn '\n' = [line.toList] :=
    List.splitOn_eq_singleton (plain line member)
  rw [splitOn_closed, List.flatMap_congr each, ← List.map_eq_flatMap]

end Text

end Argon2Workbench
