import Argon2Workbench.Proofs.Context.Construction

namespace Argon2Workbench

open Hash.Argon2 (Inputs Status Variant)

namespace Hash.Argon2

/-- The tag behind an initial hash. Password, salt, secret and associated data come in by way
of the hash alone. -/
def Layout.tag (layout : Layout) (length : Nat) (initialHash : Bytes) : Bytes :=
  longHash length ((Memory.filled layout initialHash).final layout).bytes

theorem tag_eq_layout_tag (variant : Variant) (inputs : Inputs) :
    tag variant inputs =
      (Layout.ofInputs variant inputs).tag inputs.tagLength (inputs.initialHash variant) :=
  rfl

theorem Inputs.length_initialHash (inputs : Inputs) (variant : Variant) :
    (inputs.initialHash variant).length = 64 :=
  Blake2b.length_digest _ (Nat.le_refl 64)

end Hash.Argon2

namespace Context

variable {context : Context}

def lengths (context : Context) : List Nat :=
  [context.outputLength, context.password.length, context.salt.length,
   (context.secret.getD []).length, (context.associated.getD []).length]

theorem Constructible.marshallable [Machine] (constructible : context.Constructible)
    (lengths : ∀ length ∈ context.lengths, length < twoTo 32)
    (memory : context.effectiveMemory < twoTo 32) : context.unmarshallable? = none := by
  have bounded := constructible.bounded
  have sizes : maxLanes = 16777215 ∧ maxThreads = 16777215 ∧ maxPasses = 16777215 ∧
      twoTo 32 = 4294967296 := by decide
  have split : context.marshalled = context.lengths ++
      [context.passes, context.effectiveMemory, context.lanes, context.threads] := rfl
  rw [unmarshallable?_eq_none_iff, split]
  intro value member
  rcases List.mem_append.mp member with length | number
  · exact lengths value length
  · have passesFit := bounded.passes
    have lanesFit := bounded.lanes
    have threadsFit := bounded.threads
    simp only [List.mem_cons, List.not_mem_nil, or_false] at number
    omega

def recordEnding (digest tag : Bytes) : String :=
  s!"Pre-hashing digest: {String.ofList digest.spacedHex}\n" ++
    s!"Tag: {String.ofList tag.spacedHex}\n"

theorem join_append_pair (front : List String) (first last : String) :
    String.join (front ++ [first, last]) = String.join front ++ (first ++ last) := by
  simp [String.join, List.foldl_append, String.append_assoc]

theorem record_withTag (fits : context.unmarshallable? = none) (variant : Variant) :
    ∃ opening, (context.withTag variant).record variant =
      .ok (opening ++ recordEnding (context.inputs.initialHash variant)
        (Hash.Argon2.tag variant context.inputs)) := by
  have same : (context.withTag variant).unmarshallable? = none := fits
  have tag := context.output_withTag variant
  rw [record, prehash_ok same, ok_bind, recordLines, List.map_append]
  simp only [List.map_cons, List.map_nil, join_append_pair, tag]
  exact ⟨_, rfl⟩

end Context

end Argon2Workbench
