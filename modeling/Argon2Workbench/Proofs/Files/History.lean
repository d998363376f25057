import Argon2Workbench.Text.Utf8
import Mathlib.Data.List.DropRight

namespace Argon2Workbench.Files

inductive Use where
  | remove
  | append (text : String)
  | look
  | read
deriving DecidableEq

def Use.text? : Use → Option String
  | append text => some text
  | _ => none

def Use.effect : Use → Option Bytes → Option Bytes
  | remove, _ => none
  | append text, bytes => some (bytes.getD [] ++ Text.utf8 text)
  | look, bytes => bytes
  | read, bytes => bytes

/-- The texts appended since the last removal. -/
def appended (uses : List Use) : List String :=
  (uses.rtakeWhile (· ≠ .remove)).filterMap Use.text?

def kept (initial : Option Bytes) (uses : List Use) : Option Bytes :=
  if .remove ∈ uses then none else initial

def standing (initial : Option Bytes) (uses : List Use) : Option Bytes :=
  if kept initial uses = none ∧ appended uses = [] then none
  else some ((kept initial uses).getD [] ++ (appended uses).flatMap Text.utf8)

variable {initial : Option Bytes} {uses : List Use}

theorem standing_nil (initial : Option Bytes) : standing initial [] = initial := by
  have nothing : appended [] = [] := rfl
  cases initial <;> simp [standing, kept, nothing]

theorem appended_snoc {use : Use} (other : use ≠ .remove) :
    appended (uses ++ [use]) = appended uses ++ use.text?.toList := by
  rw [appended, List.rtakeWhile_concat_pos _ _ _ (by simpa using other), List.filterMap_append]
  cases use <;> rfl

theorem kept_snoc {use : Use} (other : use ≠ .remove) :
    kept initial (uses ++ [use]) = kept initial uses := by
  simp [kept, other.symm]

theorem standing_snoc (initial : Option Bytes) (uses : List Use) (use : Use) :
    standing initial (uses ++ [use]) = use.effect (standing initial uses) := by
  cases use with
  | remove => simp [standing, kept, appended, Use.effect]
  | append text =>
      have other : Use.append text ≠ .remove := nofun
      rw [standing, appended_snoc other, kept_snoc other, if_neg (by simp [Use.text?])]
      by_cases absent : kept initial uses = none ∧ appended uses = []
      · simp [standing, Use.effect, Use.text?, absent]
      · simp [standing, Use.effect, Use.text?, absent]
  | look => simp [standing, Use.effect, Use.text?, appended_snoc, kept_snoc]
  | read => simp [standing, Use.effect, Use.text?, appended_snoc, kept_snoc]

theorem isSome_kept :
    (kept initial uses).isSome = true ↔ initial.isSome = true ∧ .remove ∉ uses := by
  by_cases removed : .remove ∈ uses <;> simp [kept, removed]

theorem isSome_standing :
    (standing initial uses).isSome = true ↔
      initial.isSome = true ∧ .remove ∉ uses ∨ appended uses ≠ [] := by
  rw [← isSome_kept, standing]
  cases kept initial uses <;> simp

theorem standing_appended (gone : kept initial uses = none) (written : appended uses ≠ []) :
    standing initial uses = some (Text.utf8 (String.join (appended uses))) := by
  rw [standing, if_neg fun absent => written absent.2, gone, Option.getD_none, List.nil_append,
    Text.utf8, String.toList_join, List.flatMap_assoc]
  rfl

end Argon2Workbench.Files
