import Argon2Workbench.Proofs.CommandLine.Line

namespace Argon2Workbench.CommandLine

theorem paired_cons {token : Token} (nameless : Parameter.ofName? token = none)
    (rest : List Token) : paired (token :: rest) = token :: paired rest := by
  cases rest with
  | nil => rfl
  | cons value rest => rw [paired, nameless]

theorem paired_pair {name : Token} {parameter : Parameter}
    (named : Parameter.ofName? name = some parameter) (value : Token) (rest : List Token) :
    paired (name :: value :: rest) = parameter.attach value :: paired rest := by
  rw [paired, named]

theorem nameless_of_mem_dropLast_cons {first token : Token} {rest : List Token}
    (nameless : Parameter.ofName? first = none)
    (later : ∀ token ∈ rest.dropLast, Parameter.ofName? token = none)
    (member : token ∈ (first :: rest).dropLast) : Parameter.ofName? token = none := by
  cases rest with
  | nil => contradiction
  | cons second rest =>
      rw [List.dropLast_cons_cons] at member
      rcases List.mem_cons.mp member with rfl | member
      · exact nameless
      · exact later token member

theorem nameless_of_mem_paired (tokens : List Token) :
    ∀ token ∈ (paired tokens).dropLast, Parameter.ofName? token = none := by
  fun_induction paired tokens with
  | case1 => simp
  | case2 token => simp
  | case3 name value rest parameter named ih =>
      exact fun token => nameless_of_mem_dropLast_cons (parameter.ofName?_attach value) ih
  | case4 first value rest nameless ih =>
      exact fun token => nameless_of_mem_dropLast_cons nameless ih

theorem paired_eq_self {tokens : List Token}
    (nameless : ∀ token ∈ tokens.dropLast, Parameter.ofName? token = none) :
    paired tokens = tokens := by
  induction tokens with
  | nil => rfl
  | cons first rest ih =>
      cases rest with
      | nil => rfl
      | cons second rest =>
          rw [List.dropLast_cons_cons] at nameless
          rw [paired_cons (nameless first List.mem_cons_self),
            ih fun token member => nameless token (List.mem_cons_of_mem first member)]

theorem bind_ofName?_getLast?_of_cons {first : Token} {rest : List Token}
    (closed : (first :: rest).getLast?.bind Parameter.ofName? = none) :
    rest.getLast?.bind Parameter.ofName? = none := by
  cases last : rest.getLast? with
  | none => rfl
  | some token => simpa [List.getLast?_cons, last] using closed

/-- A name at the end would take the first token of what follows. -/
theorem paired_append {tokens : List Token}
    (closed : (paired tokens).getLast?.bind Parameter.ofName? = none) (more : List Token) :
    paired (tokens ++ more) = paired tokens ++ paired more := by
  fun_induction paired tokens with
  | case1 => rfl
  | case2 token => exact paired_cons closed more
  | case3 name value rest parameter named ih =>
      have later := ih (bind_ofName?_getLast?_of_cons closed)
      exact (paired_pair named value (rest ++ more)).trans (by rw [later, List.cons_append])
  | case4 first value rest nameless ih =>
      have later := ih (bind_ofName?_getLast?_of_cons closed)
      exact (paired_cons nameless (value :: rest ++ more)).trans (by rw [later, List.cons_append])

/-- Neighbouring tokens of which pairing makes one. -/
inductive Segment where
  | pair (name : Token) (parameter : Parameter) (value : Token)
  | lone (token : Token)
deriving DecidableEq, Repr

namespace Segment

def tokens : Segment → List Token
  | pair name _ value => [name, value]
  | lone token => [token]

def written : Segment → Token
  | pair _ parameter value => parameter.attach value
  | lone token => token

end Segment

/-- The segments make up the row. No token stands alone that is a name, unless it is the last of
the row. -/
structure Splits (tokens : List Token) (segments : List Segment) : Prop where
  whole : segments.flatMap Segment.tokens = tokens
  named : ∀ name parameter value, .pair name parameter value ∈ segments →
    Parameter.ofName? name = some parameter
  nameless : ∀ token, .lone token ∈ segments.dropLast → Parameter.ofName? token = none

namespace Splits

variable {tokens rest : List Token} {segment : Segment} {segments : List Segment}

theorem nil : Splits [] [] :=
  ⟨rfl, by simp, by simp⟩

theorem pair {name : Token} {parameter : Parameter}
    (named : Parameter.ofName? name = some parameter) (value : Token)
    (split : Splits rest segments) :
    Splits (name :: value :: rest) (.pair name parameter value :: segments) where
  whole := by rw [List.flatMap_cons, split.whole]; rfl
  named other parameter' value' member := by
    rcases List.mem_cons.mp member with same | member
    · cases same
      exact named
    · exact split.named _ _ _ member
  nameless token member := by
    cases segments with
    | nil => contradiction
    | cons second others =>
        rw [List.dropLast_cons_cons] at member
        rcases List.mem_cons.mp member with same | member
        · contradiction
        · exact split.nameless token member

theorem lone {token : Token} (free : Parameter.ofName? token = none ∨ segments = [])
    (split : Splits rest segments) : Splits (token :: rest) (.lone token :: segments) where
  whole := by rw [List.flatMap_cons, split.whole]; rfl
  named name parameter value member := by
    rcases List.mem_cons.mp member with same | member
    · contradiction
    · exact split.named _ _ _ member
  nameless other member := by
    cases segments with
    | nil => contradiction
    | cons second others =>
        rw [List.dropLast_cons_cons] at member
        rcases List.mem_cons.mp member with same | member
        · cases same
          exact free.resolve_right (List.cons_ne_nil second others)
        · exact split.nameless other member

/-- What is known of a row from its first segment on. -/
theorem of_cons (split : Splits tokens (segment :: segments)) :
    ∃ rest, tokens = segment.tokens ++ rest ∧ Splits rest segments := by
  refine ⟨segments.flatMap Segment.tokens, split.whole.symm, rfl, ?_, ?_⟩
  · exact fun name parameter value member =>
      split.named name parameter value (List.mem_cons_of_mem segment member)
  · intro token member
    cases segments with
    | nil => contradiction
    | cons second others =>
        exact split.nameless token (List.mem_cons_of_mem segment member)

theorem nameless_of_cons {token second : Token}
    (split : Splits (token :: second :: rest) (.lone token :: segments)) :
    Parameter.ofName? token = none := by
  cases segments with
  | nil => simpa [Segment.tokens] using split.whole
  | cons next others => exact split.nameless token (by simp)

end Splits

/-- Every row has its segments, and pairing writes them. -/
theorem exists_splits (tokens : List Token) :
    ∃ segments, Splits tokens segments ∧ paired tokens = segments.map Segment.written := by
  fun_induction paired tokens with
  | case1 => exact ⟨[], .nil, rfl⟩
  | case2 token => exact ⟨[.lone token], .lone (.inr rfl) .nil, rfl⟩
  | case3 name value rest parameter named ih =>
      obtain ⟨segments, split, written⟩ := ih
      exact ⟨.pair name parameter value :: segments, .pair named value split, by rw [written]; rfl⟩
  | case4 first value rest nameless ih =>
      obtain ⟨segments, split, written⟩ := ih
      exact ⟨.lone first :: segments, .lone (.inl nameless) split, by rw [written]; rfl⟩

namespace Splits

variable {tokens : List Token} {segment second : Segment} {segments others : List Segment}

theorem head_unique (split : Splits tokens (segment :: segments))
    (other : Splits tokens (second :: others)) : segment = second := by
  obtain ⟨rest, rfl, -⟩ := split.of_cons
  obtain ⟨rest', same, -⟩ := other.of_cons
  cases segment with
  | pair name parameter value =>
      have named := split.named name parameter value List.mem_cons_self
      cases second with
      | pair name' parameter' value' =>
          cases same
          have named' := other.named name parameter' value List.mem_cons_self
          rw [Option.some.inj (named.symm.trans named')]
      | lone token =>
          cases same
          have nameless : Parameter.ofName? name = none := other.nameless_of_cons
          simp [nameless] at named
  | lone token =>
      cases second with
      | pair name' parameter' value' =>
          have named := other.named name' parameter' value' List.mem_cons_self
          cases same
          have nameless : Parameter.ofName? token = none := split.nameless_of_cons
          simp [nameless] at named
      | lone token' =>
          cases same
          rfl

theorem eq_nil (split : Splits [] segments) : segments = [] := by
  cases segments with
  | nil => rfl
  | cons segment segments =>
      obtain ⟨rest, whole, -⟩ := split.of_cons
      cases segment <;> simp [Segment.tokens] at whole

theorem unique (split : Splits tokens segments) (other : Splits tokens others) :
    others = segments := by
  induction segments generalizing tokens others with
  | nil =>
      cases split.whole
      exact other.eq_nil
  | cons segment segments ih =>
      cases others with
      | nil =>
          cases other.whole
          exact split.eq_nil.symm
      | cons second others =>
          cases split.head_unique other
          obtain ⟨rest, rfl, later⟩ := split.of_cons
          obtain ⟨rest', same, later'⟩ := other.of_cons
          cases List.append_cancel_left same
          rw [ih later later']

end Splits

/-- Pairing leaves no name in front of another token, so that a second pairing changes nothing.
Rows may be paired one by one if the first does not end with a name. Every row falls into
segments in one way, and is paired segment by segment. -/
theorem paired_by_segments (tokens : List Token) :
    (∀ token ∈ (paired tokens).dropLast, Parameter.ofName? token = none) ∧
    paired (paired tokens) = paired tokens ∧
    (∀ more, (paired tokens).getLast?.bind Parameter.ofName? = none →
      paired (tokens ++ more) = paired tokens ++ paired more) ∧
    (∃! segments, Splits tokens segments) ∧
    ∀ segments, Splits tokens segments → paired tokens = segments.map Segment.written := by
  obtain ⟨segments, split, written⟩ := exists_splits tokens
  refine ⟨nameless_of_mem_paired tokens, paired_eq_self (nameless_of_mem_paired tokens),
    fun more closed => paired_append closed more, ⟨segments, split, fun _ => split.unique⟩, ?_⟩
  intro others other
  rw [split.unique other, written]

/-- The second name is the value of the first, and the third has none before the row goes on. -/
theorem names_paired_by_segments :
    paired ["-m", "--lanes", "r", "-m"] = ["--mcost=--lanes", "r", "-m"] ∧
      paired (["-m", "--lanes", "r"] ++ ["-m", "5"]) = ["--mcost=--lanes", "r", "--mcost=5"] := by
  obtain ⟨-, -, -, -, written⟩ := paired_by_segments ["-m", "--lanes", "r", "-m"]
  obtain ⟨-, -, appended, -⟩ := paired_by_segments ["-m", "--lanes", "r"]
  have split : Splits ["-m", "--lanes", "r", "-m"]
      [.pair "-m" .memory "--lanes", .lone "r", .lone "-m"] :=
    .pair rfl "--lanes" (.lone (.inl rfl) (.lone (.inr rfl) .nil))
  exact ⟨written _ split, appended ["-m", "5"] rfl⟩

end Argon2Workbench.CommandLine
