import Argon2Workbench.Allocator.Pool
import Argon2Workbench.Proofs.Allocator.Account
import Argon2Workbench.Proofs.Context.Supply
import Mathlib

/-! The books of allocators that share one pool of blocks.

Whatever is asked of whom, the table of every allocator is what the account of its deeds
says that it holds. Blocks may be freed in any order, more than once, and on an allocator
that never returned them.
-/

namespace Argon2Workbench.Allocator

open Deed (Fresh)

variable {index : Nat} {past : List Deed} {next : Deed} {length : Int} {address : Address}
  {allocator : Allocator} {pool : Pool} {limit : Int} {limits : List Int}

theorem free_unknown (unknown : address ∉ allocator.blocks.map (·.1)) :
    (allocator.free (some address) length).1 = allocator := by
  have out : ¬ (allocator.blocks.any (·.1 == address)) = true := by
    simpa using unknown
  rw [free, if_neg out]

theorem blocks_free (allocator : Allocator) (address : Address) (length : Int) :
    (allocator.free (some address) length).1.blocks =
      allocator.blocks.filter (·.1 != address) := by
  by_cases known : address ∈ allocator.blocks.map (·.1)
  · have out : allocator.blocks.any (·.1 == address) = true := by
      simpa using known
    rw [free, if_pos out]
  · rw [free_unknown known, List.filter_eq_self.mpr]
    rintro block member
    rw [bne_iff_ne]
    rintro rfl
    exact known (List.mem_map_of_mem member)

theorem total_free (allocator : Allocator) (block : Option Address) (length : Int) :
    (allocator.free block length).1.total = allocator.total := by
  cases block with
  | none => rfl
  | some address =>
      simp only [free]
      split <;> rfl

/-- What an allocator is by the account of its deeds. -/
structure Balanced (limit : Int) (index : Nat) (past : List Deed) (allocator : Allocator) :
    Prop where
  limited : allocator.limit = limit
  blocks : allocator.blocks = held index past
  total : allocator.total = ((returned index past).map (·.2)).sum
  bounded : limit ≠ 0 → ∀ block ∈ returned index past, (block.2 : Int) ≤ limit

namespace Balanced

theorem start (limit : Int) (index : Nat) : Balanced limit index [] { limit } where
  limited := rfl
  blocks := rfl
  total := rfl
  bounded := fun _ _ member => nomatch member

theorem idle (balanced : Balanced limit index past allocator)
    (noGrant : next.granted? index = none)
    (noFree : ∀ address, next ≠ .freed index (some address)) :
    Balanced limit index (past ++ [next]) allocator where
  limited := balanced.limited
  blocks := by rw [balanced.blocks, held_snoc noFree, noGrant, Option.toList, List.append_nil]
  total := by rw [balanced.total, returned_snoc, noGrant, Option.toList, List.append_nil]
  bounded := by
    rw [returned_snoc, noGrant, Option.toList, List.append_nil]
    exact balanced.bounded

theorem elsewhere (balanced : Balanced limit index past allocator) (other : next.owner ≠ index) :
    Balanced limit index (past ++ [next]) allocator :=
  balanced.idle (Deed.granted?_eq_none other) fun _ same => other (by rw [same, Deed.owner])

theorem add (balanced : Balanced limit index past allocator) {granted : Nat}
    (admits : allocator.Admits granted) (address : Address) :
    Balanced limit index (past ++ [.granted index address granted])
      (allocator.add address granted) := by
  have one : (Deed.granted index address granted).granted? index = some (address, granted) :=
    Deed.granted?_eq_some.mpr rfl
  refine ⟨balanced.limited, ?_, ?_, ?_⟩
  · rw [held_snoc (fun _ => Deed.noConfusion), one, ← balanced.blocks]
    rfl
  · rw [returned_snoc, one, List.map_append, List.sum_append, ← balanced.total]
    rfl
  · intro bounds block member
    rw [returned_snoc, one, List.mem_append] at member
    rcases member with before | last
    · exact balanced.bounded bounds block before
    · obtain rfl := List.mem_singleton.mp last
      rw [Admits, balanced.limited] at admits
      exact admits.resolve_left bounds

theorem free [Machine] (balanced : Balanced limit index past allocator) (block : Option Address)
    (length : Int) :
    Balanced limit index (past ++ [.freed index block]) (allocator.free block length).1 := by
  cases block with
  | none => exact balanced.idle rfl fun _ => by simp
  | some address =>
      have none : (Deed.freed index (some address)).granted? index = none := rfl
      refine ⟨?_, ?_, ?_, ?_⟩
      · rw [limit_free, balanced.limited]
      · rw [blocks_free, balanced.blocks, held_snoc_freed]
      · rw [total_free, balanced.total, returned_snoc, none, Option.toList, List.append_nil]
      · rw [returned_snoc, none, Option.toList, List.append_nil]
        exact balanced.bounded

end Balanced

namespace Pool

def deed [Machine] (pool : Pool) (index : Nat) : Demand → Deed
  | .allocate length =>
      match (pool.perform index (.allocate length)).2.result with
      | .ok (some granted) => .granted index pool.nextAddress granted
      | _ => .denied index
  | .free block _ => .freed index (pool.block block)
  | .freeNull _ => .freed index none

def after [Machine] (pool : Pool) : List (Nat × Demand) → Pool
  | [] => pool
  | (index, demand) :: rest => (pool.perform index demand).1.after rest

def history [Machine] (pool : Pool) : List (Nat × Demand) → List Deed
  | [] => []
  | (index, demand) :: rest => pool.deed index demand :: (pool.perform index demand).1.history rest

theorem put_allocator (pool : Pool) (index : Nat) :
    pool.put index (pool.allocator index) = pool := by
  have same : pool.allocators.set index (pool.allocators.getD index {}) = pool.allocators := by
    apply List.ext_getElem?
    intro other
    rw [List.getElem?_set]
    split
    · next equal =>
        subst equal
        split
        · next within => simp [List.getElem?_eq_getElem within]
        · next beyond => rw [List.getElem?_eq_none (Nat.le_of_not_lt beyond)]
    · rfl
  exact congrArg (fun allocators => { pool with allocators }) same

theorem allocator_put (within : index < pool.allocators.length) :
    (pool.put index allocator).allocator index = allocator := by
  simp [put, Pool.allocator, within]

theorem allocator_put_other {other : Nat} (apart : index ≠ other) :
    (pool.put index allocator).allocator other = pool.allocator other := by
  simp [put, Pool.allocator, apart]

inductive Performed [Machine] (pool : Pool) (index : Nat) : Demand → Pool → Deed → Prop where
  | granted {length : Nat} (admits : (pool.allocator index).Admits length)
      (found : length < Machine.memory) :
      Performed pool index (.allocate length)
        { pool.put index ((pool.allocator index).add pool.nextAddress length) with
          blocks := pool.blocks ++ [some pool.nextAddress] }
        (.granted index pool.nextAddress length)
  | denied {length : Int} {blocks : List (Option Address)}
      (grown : blocks = pool.blocks ∨ blocks = pool.blocks ++ [none]) :
      Performed pool index (.allocate length) { pool with blocks } (.denied index)
  | freed {demand : Demand} {block : Option Address} {length : Int}
      (known : ∀ address, block = some address → some address ∈ pool.blocks) :
      Performed pool index demand (pool.put index ((pool.allocator index).free block length).1)
        (.freed index block)

theorem mem_blocks_of_block {number : Nat} (found : pool.block number = some address) :
    some address ∈ pool.blocks := by
  rw [block, Option.join_eq_some_iff] at found
  exact List.mem_of_getElem? found

theorem performed [Machine] (pool : Pool) (index : Nat) (demand : Demand) :
    Performed pool index demand (pool.perform index demand).1 (pool.deed index demand) := by
  cases demand with
  | allocate length =>
      rcases allocate_cases (pool.allocator index) length pool.nextAddress with
        ⟨granted, rfl, admits, found, answered⟩ | ⟨log, answered⟩ | ⟨error, answered⟩
      · simpa [perform, deed, answered] using Performed.granted admits found
      · simpa [perform, deed, answered, put_allocator] using
          @Performed.denied _ pool index length _ (.inr rfl)
      · simpa [perform, deed, answered] using
          @Performed.denied _ pool index length _ (.inl rfl)
  | free number length => exact .freed fun _ => mem_blocks_of_block
  | freeNull length =>
      refine @Performed.freed _ pool index _ none length ?_
      rintro _ ⟨⟩

/-- The books of a pool are kept: every allocator is balanced, and no address is in use
that a later block could get. -/
structure Books (limits : List Int) (past : List Deed) (pool : Pool) : Prop where
  size : pool.allocators.length = limits.length
  balanced : ∀ index limit, limits[index]? = some limit →
    Balanced limit index past (pool.allocator index)
  fresh : Fresh past
  blocks : ∀ address, some address ∈ pool.blocks → 0 < address ∧ address < pool.nextAddress
  behind : ∀ deed ∈ past, ∀ address, deed.address? = some address →
    0 < address ∧ address < pool.nextAddress

namespace Books

theorem start (limits : List Int) : Books limits [] (ofLimits limits) where
  size := List.length_map _
  balanced := by
    intro index limit found
    have same : (ofLimits limits).allocator index = { limit } := by
      simp [ofLimits, Pool.allocator, found]
    exact same ▸ Balanced.start limit index
  fresh := .nil
  blocks := fun _ member => nomatch member
  behind := fun _ member => nomatch member

/-- The books after a deed, from what it leaves of the one allocator that was asked. -/
theorem snoc (books : Books limits past pool) {changed : Allocator}
    {blocks : List (Option Address)}
    (own : ∀ limit, Balanced limit next.owner past (pool.allocator next.owner) →
      Balanced limit next.owner (past ++ [next]) changed)
    (grown : pool.blocks.length ≤ blocks.length)
    (known : ∀ address, some address ∈ blocks → some address ∈ pool.blocks ∨
      address = pool.nextAddress ∧ pool.blocks.length < blocks.length)
    (granted : ∀ owner address length, next = .granted owner address length →
      address = pool.nextAddress)
    (mentioned : ∀ address, next.address? = some address → some address ∈ blocks) :
    Books limits (past ++ [next]) { pool.put next.owner changed with blocks } := by
  have grownAddress : pool.nextAddress ≤ blocks.length + 1 := Nat.succ_le_succ grown
  have bounded : ∀ address, some address ∈ blocks → 0 < address ∧ address < blocks.length + 1 := by
    intro address member
    rcases known address member with before | ⟨rfl, longer⟩
    · have bounds := books.blocks address before
      exact ⟨bounds.1, Nat.lt_of_lt_of_le bounds.2 grownAddress⟩
    · exact ⟨Nat.succ_pos _, Nat.succ_lt_succ longer⟩
  refine ⟨List.length_set.trans books.size, ?_, ?_, bounded, ?_⟩
  · intro index limit found
    have balanced := books.balanced index limit found
    by_cases asked : next.owner = index
    · subst asked
      have within : next.owner < pool.allocators.length := by
        rw [books.size]
        exact (List.getElem?_eq_some_iff.mp found).1
      exact (allocator_put within).symm ▸ own limit balanced
    · exact (allocator_put_other asked).symm ▸ balanced.elsewhere asked
  · apply books.fresh.snoc
    rintro owner address length out earlier member same
    have below := (books.behind earlier member address same).2
    rw [granted owner address length out] at below
    exact Nat.lt_irrefl _ below
  · intro deed member address same
    rcases List.mem_append.mp member with before | last
    · have bounds := books.behind deed before address same
      exact ⟨bounds.1, Nat.lt_of_lt_of_le bounds.2 grownAddress⟩
    · rw [List.mem_singleton.mp last] at same
      exact bounded address (mentioned address same)

theorem step [Machine] (books : Books limits past pool) {demand : Demand} {after : Pool}
    (performed : Performed pool index demand after next) :
    Books limits (past ++ [next]) after := by
  cases performed with
  | @granted length admits found =>
      apply books.snoc
      · exact fun limit balanced => balanced.add admits _
      · simp
      · intro address member
        rw [List.mem_append, List.mem_singleton, Option.some.injEq] at member
        exact member.imp_right fun same => ⟨same, by simp⟩
      · intro owner address length same
        exact (Deed.granted.inj same).2.1.symm
      · intro address same
        rw [← same]
        exact List.mem_append_right _ (List.mem_singleton.mpr rfl)
  | @denied length blocks grown =>
      rw [← put_allocator pool index]
      apply books.snoc
      · exact fun limit balanced => balanced.idle rfl fun _ => Deed.noConfusion
      · rcases grown with rfl | rfl <;> simp
      · intro address member
        rcases grown with rfl | rfl
        · exact .inl member
        · exact .inl (by simpa using member)
      · exact fun _ _ _ same => nomatch same
      · exact fun _ same => nomatch same
  | @freed demand block length known =>
      apply books.snoc
      · exact fun limit balanced => balanced.free block length
      · exact Nat.le_refl _
      · exact fun _ member => .inl member
      · exact fun _ _ _ same => nomatch same
      · exact known

theorem run [Machine] (books : Books limits past pool) (demands : List (Nat × Demand)) :
    Books limits (past ++ pool.history demands) (pool.after demands) := by
  induction demands generalizing past pool with
  | nil => simpa [history, after] using books
  | cons first rest ih =>
      obtain ⟨index, demand⟩ := first
      have tail := ih (books.step (performed pool index demand))
      rwa [List.append_assoc, List.singleton_append] at tail

end Books

theorem granted_iff [Machine] (pool : Pool) (index : Nat) (length : Int) (granted : Nat) :
    (pool.perform index (.allocate length)).2.result = .ok (some granted) ↔
      (granted : Int) = length ∧ (pool.allocator index).Admits granted ∧
        granted < Machine.memory := by
  constructor
  · intro answered
    rcases allocate_cases (pool.allocator index) length pool.nextAddress with
      ⟨length, rfl, admits, found, allocated⟩ | ⟨log, allocated⟩ | ⟨error, allocated⟩
    · simp only [perform, allocated, Except.ok.injEq, Option.some.injEq] at answered
      subst answered
      exact ⟨rfl, admits, found⟩
    · simp [perform, allocated] at answered
    · simp [perform, allocated] at answered
  · rintro ⟨rfl, admits, found⟩
    simp [perform, allocate_within admits found]

theorem allocators_of_denied [Machine]
    (denied : ∀ granted, (pool.perform index (.allocate length)).2.result ≠ .ok (some granted)) :
    (pool.perform index (.allocate length)).1.allocators = pool.allocators := by
  rcases allocate_cases (pool.allocator index) length pool.nextAddress with
    ⟨granted, rfl, admits, found, _⟩ | ⟨log, allocated⟩ | ⟨error, allocated⟩
  · exact absurd ((granted_iff pool index granted granted).mpr ⟨rfl, admits, found⟩)
      (denied granted)
  · simp only [perform, allocated, put_allocator]
  · simp only [perform, allocated]

theorem perform_freeNull [Machine] (pool : Pool) (index : Nat) (length : Int) :
    (pool.perform index (.freeNull length)).1 = pool :=
  put_allocator pool index

/-- A block that the allocator does not hold is not its to free. -/
theorem perform_free_unheld [Machine] (books : Books limits past pool) {number : Nat}
    (block : pool.block number = some address)
    (unheld : ∀ length, (address, length) ∉ held index past) (length : Int) :
    (pool.perform index (.free number length)).1 = pool := by
  have unknown : address ∉ (pool.allocator index).blocks.map (·.1) := by
    by_cases within : index < limits.length
    · have found : limits[index]? = some limits[index] := List.getElem?_eq_getElem within
      rw [(books.balanced index _ found).blocks]
      rintro member
      obtain ⟨⟨same, granted⟩, out, rfl⟩ := List.mem_map.mp member
      exact unheld granted out
    · have missing : pool.allocators[index]? = none :=
        List.getElem?_eq_none (books.size ▸ Nat.le_of_not_lt within)
      simp [Pool.allocator, missing]
  simp only [perform, Pool.free, block, free_unknown unknown, put_allocator]

/-- However allocators of one pool are used and misused, each keeps books that agree with
what came back from it and what was freed on it, and nothing that fails, repeats or belongs
elsewhere is entered in any of them. -/
theorem books_balance [Machine] (limits : List Int) (demands : List (Nat × Demand)) :
    let pool := (ofLimits limits).after demands
    let past := (ofLimits limits).history demands
    (∀ index limit, limits[index]? = some limit →
      (pool.allocator index).blocks = held index past ∧
      (pool.allocator index).outstanding = (held index past).length ∧
      ((held index past).map (·.1)).Nodup ∧
      (∀ block, block ∈ held index past ↔
        0 < block.1 ∧ .granted index block.1 block.2 ∈ past ∧
          .freed index (some block.1) ∉ past) ∧
      (pool.allocator index).total = ((returned index past).map (·.2)).sum ∧
      (0 < limit → ∀ block ∈ returned index past, (block.2 : Int) ≤ limit) ∧
      (∀ length granted,
        (pool.perform index (.allocate length)).2.result = .ok (some granted) ↔
          (granted : Int) = length ∧ (limit = 0 ∨ length ≤ limit) ∧ granted < Machine.memory)) ∧
    (∀ index length,
      (∀ granted, (pool.perform index (.allocate length)).2.result ≠ .ok (some granted)) →
        (pool.perform index (.allocate length)).1.allocators = pool.allocators) ∧
    (∀ index length, (pool.perform index (.freeNull length)).1 = pool) ∧
    (∀ index number length address, pool.block number = some address →
      .freed index (some address) ∈ past ∨ (∀ granted, .granted index address granted ∉ past) →
        (pool.perform index (.free number length)).1 = pool) := by
  intro pool past
  have books : Books limits past pool := by
    simpa using (Books.start limits).run demands
  refine ⟨fun index limit found => ?_, fun index length => allocators_of_denied,
    perform_freeNull pool, fun index number length address block misused => ?_⟩
  · have balanced := books.balanced index limit found
    refine ⟨balanced.blocks, congrArg List.length balanced.blocks, nodup_held books.fresh, ?_,
      balanced.total, fun positive => balanced.bounded (Int.ne_of_gt positive), ?_⟩
    · intro block
      rw [mem_held_iff books.fresh]
      refine ⟨fun member => ⟨?_, member⟩, fun member => member.2⟩
      exact (books.behind _ member.1 block.1 rfl).1
    · intro length granted
      rw [granted_iff, Admits, balanced.limited]
      exact and_congr_right fun same => by rw [same]
  · refine perform_free_unheld books block (fun granted member => ?_) length
    have out := (mem_held_iff books.fresh).mp member
    rcases misused with repeated | foreign
    · exact out.2 repeated
    · exact foreign granted out.1

attribute [local instance] Machine.workstation

/-- Two allocators, the second with a limit: a request beyond it, a block that is handed to
the wrong one and then twice to its owner. -/
def misuse : List (Nat × Demand) :=
  [(0, .allocate 8), (1, .allocate 9), (1, .allocate 0), (1, .free 0 8), (0, .free 0 8),
    (0, .free 0 8), (1, .freeNull 5)]

theorem misuse_balances :
    let pool := (ofLimits [0, 8]).after misuse
    pool.allocators =
      [{ limit := 0, blocks := [], total := 8 }, { limit := 8, blocks := [(3, 0)], total := 0 }] ∧
    (pool.allocator 1).outstanding = 1 ∧
    (pool.perform 1 (.allocate 9)).1.allocators = pool.allocators ∧
    (pool.perform 1 (.free 0 8)).1 = pool ∧
    (pool.perform 0 (.free 0 8)).1 = pool := by
  intro pool
  obtain ⟨_, denied, _, misused⟩ := books_balance [0, 8] misuse
  have one : held 1 ((ofLimits [0, 8]).history misuse) = [(3, 0)] := by decide
  refine ⟨by decide, ?_, ?_, ?_, ?_⟩
  · obtain ⟨account, _⟩ := books_balance [0, 8] misuse
    rw [(account 1 8 rfl).2.1, one, List.length_singleton]
  · have refused : (pool.perform 1 (.allocate 9)).2.result = .ok none := rfl
    exact denied 1 9 fun granted answered => nomatch refused.symm.trans answered
  · exact misused 1 0 8 1 (by decide) (.inl (by decide))
  · exact misused 0 0 8 1 (by decide) (.inl (by decide))

end Pool

end Argon2Workbench.Allocator
