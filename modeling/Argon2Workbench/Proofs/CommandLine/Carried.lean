import Argon2Workbench.Proofs.CommandLine.Line

/-! Values that stand in the same token as a name.

The reading from left to right tries the names one by one; the words of the two passes
are found by their first equals sign, or by their first two runes. No token carries a
value for two parameters, so both find the same.
-/

namespace Argon2Workbench.CommandLine

open Text (Rune)

/-- A token in which a value stands behind a name of the parameter. -/
inductive Carries : Token → Parameter → Text → Prop
  | long (parameter : Parameter) (value : Text) :
      Carries (parameter.attach value) parameter value
  | marked (parameter : Parameter) (value : Text) :
      Carries (Text.ofString parameter.short ++ .scalar '=' :: value) parameter value
  | plain (parameter : Parameter) (value : Text) (unmarked : value.head? ≠ some (.scalar '=')) :
      Carries (Text.ofString parameter.short ++ value) parameter value

variable {token : Token} {parameter : Parameter} {value : Text}

theorem Parameter.attach_eq (parameter : Parameter) (value : Text) :
    parameter.attach value = Text.ofString parameter.long ++ .scalar '=' :: value :=
  List.append_assoc ..

theorem Carries.suffix (carried : Carries token parameter value) : value <:+ token := by
  cases carried with
  | long => exact ⟨Text.ofString parameter.long ++ equalsSign, rfl⟩
  | marked => exact ⟨Text.ofString parameter.short ++ [.scalar '='], by simp⟩
  | plain => exact ⟨_, rfl⟩

theorem carries_of_valueIn? (carried : parameter.valueIn? token = some value) :
    Carries token parameter value := by
  simp only [Parameter.valueIn?, Option.or_eq_some_iff, List.isPrefixOf?_eq_some_iff_append_eq]
    at carried
  rcases carried with long | ⟨-, marked | ⟨unmarked, plain⟩⟩
  · rw [← long, Parameter.attach_eq, List.append_assoc]
    exact Parameter.attach_eq parameter value ▸ .long parameter value
  · rw [← marked, List.append_assoc]
    exact .marked parameter value
  · rw [← plain]
    refine .plain parameter value fun starts => ?_
    obtain ⟨rest, rfl⟩ := List.head?_eq_some_iff.mp starts
    have prefixed : (Text.ofString parameter.short ++ equalsSign).isPrefixOf? token =
        some rest := by
      rw [List.isPrefixOf?_eq_some_iff_append_eq, ← plain]
      exact List.append_assoc ..
    simp [unmarked] at prefixed

theorem valueIn?_ne_none (carried : Carries token parameter value) :
    parameter.valueIn? token ≠ none := by
  intro missing
  simp only [Parameter.valueIn?, Option.or_eq_none_iff] at missing
  obtain ⟨noLong, -, noPlain⟩ := missing
  cases carried with
  | long =>
      have prefixed : (parameter.attach []).isPrefixOf? (parameter.attach value) = some value := by
        simp [Parameter.attach]
      simp [noLong] at prefixed
  | marked =>
      have prefixed : (Text.ofString parameter.short).isPrefixOf?
          (Text.ofString parameter.short ++ .scalar '=' :: value) = some (.scalar '=' :: value) := by
        simp
      simp [noPlain] at prefixed
  | plain =>
      have prefixed : (Text.ofString parameter.short).isPrefixOf?
          (Text.ofString parameter.short ++ value) = some value := by simp
      simp [noPlain] at prefixed

theorem splitValue?_append {name : Token} (unmarked : Rune.scalar '=' ∉ name) (value : Text) :
    splitValue? (name ++ .scalar '=' :: value) = some (name, value) := by
  have before : ∀ rune ∈ name, decide (rune ≠ .scalar '=') = true := by
    intro rune member
    simpa using fun same : rune = .scalar '=' => unmarked (same ▸ member)
  have dropped : (name ++ .scalar '=' :: value).dropWhile (· ≠ .scalar '=') =
      .scalar '=' :: value := by
    rw [List.dropWhile_append_of_pos before]
    rfl
  have taken : (name ++ .scalar '=' :: value).takeWhile (· ≠ .scalar '=') = name := by
    rw [List.takeWhile_append_of_pos before]
    simp
  simp only [splitValue?, dropped, taken]

theorem eq_append_of_splitValue? {name : Token} (split : splitValue? token = some (name, value)) :
    token = name ++ .scalar '=' :: value ∧ Rune.scalar '=' ∉ name := by
  by_cases marked : Rune.scalar '=' ∈ token
  · obtain ⟨before, after, rfl, unmarked⟩ := List.eq_append_cons_of_mem marked
    rw [splitValue?_append unmarked] at split
    cases split
    exact ⟨rfl, unmarked⟩
  · have dropped : token.dropWhile (· ≠ .scalar '=') = [] := by
      apply List.dropWhile_eq_nil_iff.mpr
      intro rune member
      simpa using fun same : rune = .scalar '=' => marked (same ▸ member)
    simp only [splitValue?, dropped] at split
    contradiction

theorem attached?_eq_some_iff :
    attached? token = some (parameter, value) ↔
      (∃ name, splitValue? token = some (name, value) ∧ Parameter.ofName? name = some parameter) ∨
      (∀ name rest, splitValue? token = some (name, rest) → Parameter.ofName? name = none) ∧
        Parameter.ofShort? (token.take 2) = some parameter ∧ token.drop 2 = value := by
  cases split : splitValue? token with
  | none => simp [attached?, split]
  | some found =>
      obtain ⟨name, rest⟩ := found
      cases named : Parameter.ofName? name with
      | none => simp [attached?, split, named]
      | some other => simp [attached?, split, named, and_comm]

theorem carries_of_attached? (attached : attached? token = some (parameter, value)) :
    Carries token parameter value := by
  rcases attached?_eq_some_iff.mp attached with ⟨name, split, named⟩ | ⟨unnamed, short, rfl⟩
  · obtain ⟨rfl, -⟩ := eq_append_of_splitValue? split
    rcases Parameter.eq_of_ofName? named with rfl | rfl
    · exact .marked parameter value
    · exact Parameter.attach_eq parameter value ▸ .long parameter value
  · have whole : Text.ofString parameter.short ++ token.drop 2 = token := by
      rw [← Parameter.eq_of_ofShort? short, List.take_append_drop]
    suffices unmarked : (token.drop 2).head? ≠ some (.scalar '=') by
      have carried := Carries.plain parameter (token.drop 2) unmarked
      rwa [whole] at carried
    intro starts
    obtain ⟨rest, marked⟩ := List.head?_eq_some_iff.mp starts
    obtain ⟨letter, runes, -, notEquals⟩ := parameter.short_runes
    have split : splitValue? token = some (Text.ofString parameter.short, rest) := by
      rw [← whole, marked]
      refine splitValue?_append ?_ rest
      simp [runes, notEquals.symm]
    simpa [parameter.ofName?_short] using unnamed _ _ split

theorem attached?_of_carries (carried : Carries token parameter value) :
    attached? token = some (parameter, value) := by
  obtain ⟨letter, short, notDash, notEquals⟩ := parameter.short_runes
  obtain ⟨name, long, -, unmarked⟩ := parameter.long_runes
  cases carried with
  | long =>
      refine attached?_eq_some_iff.mpr (.inl ⟨_, ?_, parameter.ofName?_long⟩)
      rw [Parameter.attach_eq]
      exact splitValue?_append (by simp [long, unmarked]) value
  | marked =>
      refine attached?_eq_some_iff.mpr (.inl ⟨_, ?_, parameter.ofName?_short⟩)
      exact splitValue?_append (by simp [short, notEquals.symm]) value
  | plain _ _ bare =>
      refine attached?_eq_some_iff.mpr (.inr ⟨?_, ?_, ?_⟩)
      · intro front rest split
        obtain ⟨same, -⟩ := eq_append_of_splitValue? split
        by_contra named
        obtain ⟨other, named⟩ := Option.ne_none_iff_exists'.mp named
        rcases Parameter.eq_of_ofName? named with rfl | rfl
        · obtain ⟨_, otherShort, -⟩ := other.short_runes
          rw [short, otherShort] at same
          simp only [List.cons_append, List.nil_append, List.cons.injEq] at same
          exact bare (by simp [same.2.2])
        · obtain ⟨_, otherLong, -⟩ := other.long_runes
          rw [short, otherLong] at same
          simp only [List.cons_append, List.cons.injEq, Rune.scalar.injEq] at same
          exact notDash same.2.1
      · have taken : (Text.ofString parameter.short ++ value).take 2 =
            Text.ofString parameter.short := by simp [short]
        rw [taken, parameter.ofShort?_short]
      · simp [short]

/-- Looking for an equals sign first, or for the names one by one, comes to the same. -/
theorem carried?_eq_attached? (token : Token) : Parameter.carried? token = attached? token := by
  apply Option.ext
  rintro ⟨parameter, value⟩
  have sound : ∀ parameter value, Parameter.carried? token = some (parameter, value) →
      attached? token = some (parameter, value) := by
    intro parameter value found
    obtain ⟨other, -, carried⟩ := List.exists_of_findSome?_eq_some found
    simp only [Option.map_eq_some_iff, Prod.mk.injEq] at carried
    obtain ⟨_, carried, rfl, rfl⟩ := carried
    exact attached?_of_carries (carries_of_valueIn? carried)
  constructor
  · exact sound parameter value
  · intro attached
    cases found : Parameter.carried? token with
    | none =>
        have missing := List.findSome?_eq_none_iff.mp found parameter (by cases parameter <;> decide)
        exact absurd (Option.map_eq_none_iff.mp missing)
          (valueIn?_ne_none (carries_of_attached? attached))
    | some pair => rw [← attached, sound pair.1 pair.2 found]

end Argon2Workbench.CommandLine
