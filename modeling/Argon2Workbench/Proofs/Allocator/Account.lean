import Argon2Workbench.Allocator
import Mathlib.Data.List.Nodup

/-! What can be told of an allocator by those who never look into it.

An account is kept of the blocks that came back from each of several allocators, and of
what was handed to each of them to be freed. From this alone it follows what an allocator
must still hold.
-/

namespace Argon2Workbench.Allocator

/-- What came of a demand, as it is seen from outside. -/
inductive Deed where
  | granted (owner : Nat) (address : Address) (length : Nat)
  | freed (owner : Nat) (block : Option Address)
  | denied (owner : Nat)
deriving DecidableEq, Repr

namespace Deed

def owner : Deed → Nat
  | granted owner _ _ => owner
  | freed owner _ => owner
  | denied owner => owner

def granted? (index : Nat) : Deed → Option (Address × Nat)
  | granted owner address length => if owner = index then some (address, length) else none
  | _ => none

def address? : Deed → Option Address
  | granted _ address _ => some address
  | freed _ block => block
  | denied _ => none

/-- No deed is about a block before the one that brought it out. -/
def Fresh (history : List Deed) : Prop :=
  history.Pairwise fun earlier later =>
    ∀ owner address length, later = granted owner address length → earlier.address? ≠ some address

end Deed

open Deed (Fresh)

/-- All blocks that the allocator with a number has ever returned, each with its length. -/
def returned (index : Nat) (history : List Deed) : List (Address × Nat) :=
  history.filterMap (·.granted? index)

/-- The blocks that it has returned and that were not freed on it since. -/
def held (index : Nat) : List Deed → List (Address × Nat)
  | [] => []
  | deed :: later =>
      match deed.granted? index with
      | none => held index later
      | some block =>
          if .freed index (some block.1) ∈ later then held index later
          else block :: held index later

variable {index : Nat} {history : List Deed} {deed : Deed} {block : Address × Nat}

theorem Deed.granted?_eq_some :
    deed.granted? index = some block ↔ deed = .granted index block.1 block.2 := by
  cases deed with
  | granted owner address length =>
      simp only [granted?, Option.ite_none_right_eq_some, Option.some.injEq, granted.injEq]
      exact and_congr_right fun _ => Prod.ext_iff
  | freed => simp [granted?]
  | denied => simp [granted?]

theorem Deed.granted?_eq_none (other : deed.owner ≠ index) : deed.granted? index = none := by
  cases deed with
  | granted owner address length => exact if_neg other
  | freed => rfl
  | denied => rfl

theorem returned_snoc (index : Nat) (history : List Deed) (deed : Deed) :
    returned index (history ++ [deed]) =
      returned index history ++ (deed.granted? index).toList := by
  rw [returned, List.filterMap_append]
  cases granted : deed.granted? index <;> simp [returned, granted]

/-- Nothing but a block that is freed on the allocator changes what it held. -/
theorem held_snoc (kept : ∀ address, deed ≠ .freed index (some address)) :
    held index (history ++ [deed]) = held index history ++ (deed.granted? index).toList := by
  induction history with
  | nil => cases granted : deed.granted? index <;> simp [held, granted]
  | cons first later ih =>
      have same : ∀ address, .freed index (some address) ∈ later ++ [deed] ↔
          .freed index (some address) ∈ later := by
        intro address
        simp [(kept address).symm]
      rw [List.cons_append, held, held, ih]
      cases first.granted? index with
      | none => rfl
      | some block =>
          simp only [same]
          split <;> rfl

theorem held_snoc_freed (index : Nat) (history : List Deed) (address : Address) :
    held index (history ++ [.freed index (some address)]) =
      (held index history).filter (·.1 != address) := by
  induction history with
  | nil => rfl
  | cons first later ih =>
      rw [List.cons_append, held, held, ih]
      cases first.granted? index with
      | none => rfl
      | some block =>
          by_cases same : block.1 = address
          · simp [same]
            split <;> simp [same]
          · have other : Deed.freed index (some block.1) ≠ .freed index (some address) := by
              simpa using same
            simp only [List.mem_append, List.mem_singleton, other, or_false]
            split
            · rfl
            · rw [List.filter_cons_of_pos (by simpa using same)]

theorem Deed.Fresh.snoc (fresh : Fresh history)
    (apart : ∀ owner address length, deed = .granted owner address length →
      ∀ earlier ∈ history, earlier.address? ≠ some address) :
    Fresh (history ++ [deed]) := by
  refine List.pairwise_append.mpr ⟨fresh, List.pairwise_singleton _ _, ?_⟩
  intro earlier member later last owner address length granted
  rw [List.mem_singleton.mp last] at granted
  exact apart owner address length granted earlier member

/-- What is held is what was returned here and was not freed here, in any order. -/
theorem mem_held_iff (fresh : Fresh history) :
    block ∈ held index history ↔
      .granted index block.1 block.2 ∈ history ∧ .freed index (some block.1) ∉ history := by
  induction history with
  | nil => simp [held]
  | cons first later ih =>
      obtain ⟨apart, freshLater⟩ := List.pairwise_cons.mp fresh
      have ih := ih freshLater
      cases granted : first.granted? index with
      | none =>
          have other : .granted index block.1 block.2 ≠ first := by
            rintro rfl
            simp [Deed.granted?] at granted
          simp only [held, granted, ih, List.mem_cons, other, false_or, not_or]
          -- Freshness of the account: the block cannot have been freed before it came out.
          refine and_congr_right fun out => (and_iff_right ?_).symm
          rintro rfl
          exact apart _ out index block.1 block.2 rfl rfl
      | some found =>
          obtain rfl := Deed.granted?_eq_some.mp granted
          by_cases same : block.1 = found.1
          · have once : .granted index found.1 block.2 ∉ later := fun again =>
              apart _ again index found.1 block.2 rfl rfl
            have notLater : block ∉ held index later := fun member =>
              once (same ▸ (ih.mp member).1)
            by_cases freed : .freed index (some found.1) ∈ later <;>
              simp [held, granted, freed, notLater, once, same, Prod.ext_iff]
          · have other : (.granted index block.1 block.2 : Deed) ≠
                .granted index found.1 found.2 := by
              simp [same]
            have notFirst : block ≠ found := fun equal => same (by rw [equal])
            simp only [held, granted, List.mem_cons, other, false_or, reduceCtorEq]
            split
            · exact ih
            · simp only [List.mem_cons, notFirst, false_or]
              exact ih

theorem nodup_held (fresh : Fresh history) : ((held index history).map (·.1)).Nodup := by
  induction history with
  | nil => exact List.nodup_nil
  | cons first later ih =>
      obtain ⟨apart, freshLater⟩ := List.pairwise_cons.mp fresh
      have ih := ih freshLater
      cases granted : first.granted? index with
      | none => simpa only [held, granted] using ih
      | some found =>
          obtain rfl := Deed.granted?_eq_some.mp granted
          simp only [held, granted]
          split
          · exact ih
          · refine List.nodup_cons.mpr ⟨fun again => ?_, ih⟩
            obtain ⟨block, member, same⟩ := List.mem_map.mp again
            have out := ((mem_held_iff freshLater).mp member).1
            exact apart _ out index block.1 block.2 rfl (by rw [same, Deed.address?])

end Argon2Workbench.Allocator
