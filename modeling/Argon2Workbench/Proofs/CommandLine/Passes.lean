import Argon2Workbench.Proofs.CommandLine.Carried

namespace Argon2Workbench.CommandLine

open Text (Rune)

variable {token : Token} {parameter : Parameter} {value : Text} {tokens : List Token}

theorem Carries.dashed (carried : Carries token parameter value) :
    ∃ second rest, token = .scalar '-' :: second :: rest := by
  obtain ⟨letter, short, -⟩ := parameter.short_runes
  obtain ⟨name, long, -⟩ := parameter.long_runes
  cases carried with
  | long => exact ⟨_, _, by rw [parameter.attach_eq, long]; rfl⟩
  | marked => exact ⟨_, _, by rw [short]; rfl⟩
  | plain => exact ⟨_, _, by rw [short]; rfl⟩

theorem Word.ofToken_of_carries (carried : Carries token parameter value)
    (nameless : Parameter.ofName? token = none) : ofToken token = .given parameter value := by
  obtain ⟨second, rest, rfl⟩ := carried.dashed
  simp [ofToken, nameless, attached?_of_carries carried]

theorem Word.ofToken_attach (parameter : Parameter) (value : Text) :
    ofToken (parameter.attach value) = .given parameter value :=
  ofToken_of_carries (.long parameter value) (parameter.ofName?_attach value)

theorem Word.ofToken_name (named : Parameter.ofName? token = some parameter) :
    ofToken token = .bare parameter := by
  obtain ⟨letter, short, -⟩ := parameter.short_runes
  obtain ⟨name, long, -⟩ := parameter.long_runes
  rcases Parameter.eq_of_ofName? named with rfl | rfl
  · simp [ofToken, short, short ▸ named]
  · simp [ofToken, long, long ▸ named]

/-- A token that is no name and carries no value takes part in no setting. -/
theorem Word.ofToken_idle (nameless : Parameter.ofName? token = none)
    (idle : Parameter.carried? token = none) :
    ofToken token = .operand token ∨ ofToken token = .unknown token := by
  rw [carried?_eq_attached?] at idle
  simp only [ofToken, nameless, idle]
  split
  · exact .inl rfl
  · split
    · exact .inl rfl
    · exact .inr rfl

theorem Parameter.attach_ne_divider (parameter : Parameter) (value : Text) :
    parameter.attach value ≠ divider := by
  obtain ⟨name, long, nonempty, -⟩ := parameter.long_runes
  rw [attach_eq, long]
  cases name with
  | nil => contradiction
  | cons => simp [divider, Text.ofString]

namespace Line

def settings (line : Line) : Given :=
  line.filterMap Item.setting?

def draft (line : Line) : Except UsageError Draft :=
  match line.unfinished? with
  | some parameter => .error (.missing parameter)
  | none => .ok { given := line.settings, left := line.operands }

theorem draft_cons (item : Item) (line : Line) (finished : item.unfinished? = none) :
    draft (item :: line) = line.draft.map fun draft =>
      { given := item.setting?.toList ++ draft.given, left := item.operand?.toList ++ draft.left } := by
  have unfinished : unfinished? (item :: line) = line.unfinished? := by
    rw [unfinished?, List.findSome?_cons, finished]
    rfl
  rw [draft, draft, unfinished]
  cases line.unfinished? with
  | some parameter => rfl
  | none => cases item <;> rfl

end Line

/-- One step of the first pass, at a token that is neither a name nor the divider. -/
theorem Draft.ofTokens_cons (seen : Bool) (rest : List Token) (line : Line)
    (other : token ≠ divider) (nameless : Parameter.ofName? token = none)
    (remaining : ∀ seen, Draft.ofTokens seen rest = line.draft) :
    Draft.ofTokens seen (token :: rest) = Line.draft (.ofToken token :: line) := by
  cases carried : Parameter.carried? token with
  | some found =>
      obtain ⟨parameter, value⟩ := found
      have word := Word.ofToken_of_carries
        (carries_of_attached? (carried?_eq_attached? token ▸ carried)) nameless
      simp only [Draft.ofTokens, if_neg other, word, remaining, Item.ofToken, carried]
      rw [Line.draft_cons _ line rfl]
      rfl
  | none =>
      rcases Word.ofToken_idle nameless carried with word | word <;>
      · simp only [Draft.ofTokens, if_neg other, word, remaining, Item.ofToken, carried]
        rw [Line.draft_cons _ line rfl]
        rfl

theorem Item.ofToken_divider : Item.ofToken divider = .operand divider := by
  decide

theorem Line.ofToken_free {line : Line}
    (free : divider ∉ Line.operands (.ofToken token :: line)) : token ≠ divider := by
  rintro rfl
  rw [Item.ofToken_divider] at free
  exact free List.mem_cons_self

theorem Line.free_behind {item : Item} {line : Line}
    (free : divider ∉ Line.operands (item :: line)) : divider ∉ line.operands := by
  refine fun member => free ?_
  rw [operands, List.filterMap_cons]
  split
  · exact member
  · exact .tail _ member

theorem Draft.ofTokens_paired (free : divider ∉ (Line.ofTokens tokens).operands) (seen : Bool) :
    Draft.ofTokens seen (paired tokens) = (Line.ofTokens tokens).draft := by
  fun_induction paired tokens generalizing seen with
  | case1 => rfl
  | case2 token =>
      cases named : Parameter.ofName? token with
      | none =>
          simp only [Line.ofTokens, named] at free ⊢
          exact Draft.ofTokens_cons seen [] [] (Line.ofToken_free free) named fun _ => rfl
      | some parameter =>
          have other : token ≠ divider := by
            rintro rfl
            contradiction
          simp only [Draft.ofTokens, if_neg other, Word.ofToken_name named, Line.ofTokens, named]
          rfl
  | case3 token value rest parameter named ih =>
      simp only [Line.ofTokens, named] at free
      simp only [Line.ofTokens, named, Draft.ofTokens, if_neg (parameter.attach_ne_divider value),
        Word.ofToken_attach, ih (Line.free_behind free)]
      rw [Line.draft_cons _ _ rfl]
      rfl
  | case4 token value rest named ih =>
      simp only [Line.ofTokens, named] at free ⊢
      exact Draft.ofTokens_cons seen _ _ (Line.ofToken_free free) named
        fun seen => ih (Line.free_behind free) seen

theorem words_of_not_mem_divider {left : List Token} (free : divider ∉ left) :
    words left = left.map Word.ofToken := by
  have before : ∀ token ∈ left, decide (token ≠ divider) = true := by
    intro token member
    simpa using fun same : token = divider => free (same ▸ member)
  have taken : left.takeWhile (· ≠ divider) = left := List.takeWhile_eq_self_iff.mpr before
  have dropped : left.dropWhile (· ≠ divider) = [] := List.dropWhile_eq_nil_iff.mpr before
  simp only [words, taken, dropped, List.map_nil, List.append_nil]

theorem Line.idle_of_mem_operands (member : token ∈ (ofTokens tokens).operands) :
    token ∈ tokens ∧ Parameter.ofName? token = none ∧ Parameter.carried? token = none := by
  have alone : ∀ other, Parameter.ofName? other = none →
      token ∈ operands [.ofToken other] →
        token = other ∧ Parameter.ofName? token = none ∧ Parameter.carried? token = none := by
    intro other nameless member
    cases carried : Parameter.carried? other with
    | some found => simp [operands, Item.ofToken, carried, Item.operand?] at member
    | none =>
        have same : token = other := by
          simpa [operands, Item.ofToken, carried, Item.operand?] using member
        exact ⟨same, same ▸ nameless, same ▸ carried⟩
  fun_induction ofTokens tokens with
  | case1 => simp [operands] at member
  | case2 other parameter named => simp [operands, Item.operand?] at member
  | case3 other named =>
      obtain ⟨rfl, idle⟩ := alone other named member
      exact ⟨by simp, idle⟩
  | case4 other value rest parameter named ih =>
      obtain ⟨inRest, idle⟩ := ih (by simpa [operands, Item.operand?] using member)
      exact ⟨.tail _ (.tail _ inRest), idle⟩
  | case5 other value rest named ih =>
      have split : token ∈ operands [.ofToken other] ∨ token ∈ operands (ofTokens (value :: rest)) := by
        rw [← List.mem_append, operands, operands, ← List.filterMap_append]
        exact member
      rcases split with first | later
      · obtain ⟨rfl, idle⟩ := alone other named first
        exact ⟨by simp, idle⟩
      · obtain ⟨inRest, idle⟩ := ih later
        exact ⟨.tail _ inRest, idle⟩

theorem Line.Undivided.free (undivided : Undivided tokens) :
    divider ∉ (ofTokens tokens).operands := fun member =>
  undivided.1 (idle_of_mem_operands member).1

/-- A word that sets nothing: an operand, or an option that is not known. -/
def Word.Idle (word : Word) : Prop :=
  ∃ token, word = .operand token ∨ word = .unknown token

theorem Word.Idle.bare? {word : Word} (idle : word.Idle) : word.bare? = none := by
  obtain ⟨token, rfl | rfl⟩ := idle <;> rfl

theorem Word.Idle.given? {word : Word} (idle : word.Idle) : word.given? = none := by
  obtain ⟨token, rfl | rfl⟩ := idle <;> rfl

namespace Reading

variable {words : List Word}

theorem no_bare (idle : ∀ word ∈ words, word.Idle) : words.findSome? Word.bare? = none :=
  List.findSome?_eq_none_iff.mpr fun word member => (idle word member).bare?

theorem no_given (idle : ∀ word ∈ words, word.Idle) : words.filterMap Word.given? = [] :=
  List.filterMap_eq_nil_iff.mpr fun word member => (idle word member).given?

theorem ofWords_operands (given : Given) {operands : List Token} (free : divider ∉ operands) :
    ofWords given (operands.map .operand) = .ok { given, modes := operands } := by
  have idle : ∀ word ∈ operands.map Word.operand, word.Idle := by
    intro word member
    obtain ⟨token, -, rfl⟩ := List.mem_map.mp member
    exact ⟨token, .inl rfl⟩
  have allOperands : ∀ word ∈ operands.map Word.operand, Word.isOperand word = true := by
    simp [Word.isOperand]
  have skipped : (operands.map Word.operand).takeWhile (!·.isOperand) = [] := by
    cases operands <;> rfl
  have kept : (operands.map Word.operand).dropWhile (!·.isOperand) =
      operands.map Word.operand := by
    cases operands <;> rfl
  have tokens : (operands.map Word.operand).filterMap Word.token? = operands := by
    simp [List.filterMap_map, Function.comp_def, Word.token?]
  simp only [ofWords, no_bare idle, no_given idle, skipped, kept,
    List.takeWhile_eq_self_iff.mpr allOperands, List.dropWhile_eq_nil_iff.mpr allOperands, tokens,
    List.erase_of_not_mem free, List.filterMap_nil, List.append_nil, List.isEmpty_nil, if_true]

/-- An option that is not known is out of place wherever it stands. -/
theorem ofWords_unknown (given : Given) (idle : ∀ word ∈ words, word.Idle)
    (unknown : .unknown token ∈ words) :
    ∃ extras, ofWords given words = .error (.unrecognized extras) := by
  let fromOperands := words.dropWhile (!·.isOperand)
  let extras := (words.takeWhile (!·.isOperand)).filterMap Word.token? ++
    (fromOperands.dropWhile Word.isOperand).filterMap Word.token?
  have outside : token ∈ extras := by
    rw [← List.takeWhile_append_dropWhile (p := (!·.isOperand)) (l := words)] at unknown
    rcases List.mem_append.mp unknown with front | behind
    · exact List.mem_append_left _ (List.mem_filterMap.mpr ⟨_, front, rfl⟩)
    · rw [← List.takeWhile_append_dropWhile (p := Word.isOperand) (l := words.dropWhile _)]
        at behind
      rcases List.mem_append.mp behind with row | later
      · have operand := List.mem_takeWhile_imp row
        contradiction
      · exact List.mem_append_right _ (List.mem_filterMap.mpr ⟨_, later, rfl⟩)
  have nonempty : extras.isEmpty = false := List.isEmpty_eq_false_iff.mpr (List.ne_nil_of_mem outside)
  exact ⟨extras, by simp only [ofWords, no_bare idle, nonempty, extras, fromOperands]; rfl⟩

theorem ofTokens_unfinished (free : divider ∉ (Line.ofTokens tokens).operands)
    (unfinished : (Line.ofTokens tokens).unfinished? = some parameter) :
    ofTokens tokens = .error (.missing parameter) := by
  simp only [ofTokens, Draft.ofTokens_paired free, Line.draft, unfinished]
  rfl

/-- Behind the first pass, only the operands of a line are left to be read. -/
theorem ofTokens_finished (free : divider ∉ (Line.ofTokens tokens).operands)
    (finished : (Line.ofTokens tokens).unfinished? = none) :
    ofTokens tokens = ofWords (Line.ofTokens tokens).settings
      ((Line.ofTokens tokens).operands.map Word.ofToken) := by
  simp only [ofTokens, Draft.ofTokens_paired free, Line.draft, finished]
  exact congrArg (ofWords _) (words_of_not_mem_divider free)

/-- The second pass takes a line's operands for modes, unless one of them looks like an
option. -/
theorem ofTokens_operands (free : divider ∉ (Line.ofTokens tokens).operands)
    (finished : (Line.ofTokens tokens).unfinished? = none) :
    (∃ extras, ofTokens tokens = .error (.unrecognized extras) ∧
      ∃ token ∈ (Line.ofTokens tokens).operands, Word.ofToken token = .unknown token) ∨
    ofTokens tokens = .ok {
      given := (Line.ofTokens tokens).settings, modes := (Line.ofTokens tokens).operands } := by
  have idle : ∀ token ∈ (Line.ofTokens tokens).operands,
      Word.ofToken token = .operand token ∨ Word.ofToken token = .unknown token := by
    intro token member
    obtain ⟨-, nameless, idle⟩ := Line.idle_of_mem_operands member
    exact Word.ofToken_idle nameless idle
  rw [ofTokens_finished free finished]
  by_cases unknown : ∃ token ∈ (Line.ofTokens tokens).operands, Word.ofToken token = .unknown token
  · obtain ⟨token, member, word⟩ := unknown
    have present : .unknown token ∈ (Line.ofTokens tokens).operands.map Word.ofToken :=
      List.mem_map.mpr ⟨token, member, word⟩
    have allIdle : ∀ word ∈ (Line.ofTokens tokens).operands.map Word.ofToken, word.Idle := by
      intro word inWords
      obtain ⟨other, inOperands, rfl⟩ := List.mem_map.mp inWords
      exact ⟨other, idle other inOperands⟩
    obtain ⟨extras, refused⟩ := ofWords_unknown (Line.ofTokens tokens).settings allIdle present
    exact .inl ⟨extras, refused, token, member, word⟩
  · have operands : (Line.ofTokens tokens).operands.map Word.ofToken =
        (Line.ofTokens tokens).operands.map .operand := by
      refine List.map_congr_left fun token member => ?_
      exact (idle token member).resolve_right fun word => unknown ⟨token, member, word⟩
    refine .inr ?_
    rw [operands]
    exact ofWords_operands _ free

end Reading

end Argon2Workbench.CommandLine
