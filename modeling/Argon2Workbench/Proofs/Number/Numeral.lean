import Argon2Workbench.Number.Numeral
import Argon2Workbench.Proofs.Text.Written
import Mathlib.Data.List.TakeWhile
import Mathlib.Data.Nat.Digits.Defs

namespace Argon2Workbench

namespace Text

theorem digitValue?_blank {character : Char} (blank : isBlank character = true) :
    digitValue? character = none := by
  have apart : ∀ code ∈ blankCodes,
      digitZeros.find? (fun first => first ≤ code && code < first + 10) = none := by decide
  rw [digitValue?, apart _ (List.contains_iff_mem.mp blank), Option.map_none]

section

variable {drop : Char → Bool}

/-- What is dropped at the ends is of the class. -/
theorem exists_margins (drop : Char → Bool) (characters : List Char) :
    ∃ front back, characters = front ++ trim drop characters ++ back ∧
      (∀ character ∈ front, drop character = true) ∧
      ∀ character ∈ back, drop character = true := by
  let inner := characters.dropWhile drop
  refine ⟨characters.takeWhile drop, (inner.reverse.takeWhile drop).reverse, ?_, ?_, ?_⟩
  · have whole : inner = trim drop characters ++ (inner.reverse.takeWhile drop).reverse := by
      rw [trim, ← List.reverse_append, List.takeWhile_append_dropWhile, List.reverse_reverse]
    rw [List.append_assoc, ← whole, List.takeWhile_append_dropWhile]
  · exact fun character member => List.mem_takeWhile_imp member
  · intro character member
    exact List.mem_takeWhile_imp (List.mem_reverse.mp member)

theorem dropWhile_margin {front characters : List Char}
    (margin : ∀ character ∈ front, drop character = true)
    (stop : characters.head?.all (!drop ·) = true) :
    (front ++ characters).dropWhile drop = characters := by
  rw [List.dropWhile_append_of_pos margin]
  cases characters with
  | nil => rfl
  | cons first rest =>
      have kept : drop first = false := by simpa using stop
      rw [List.dropWhile_cons_of_neg (by simp [kept])]

/-- A text that begins and ends outside the class is all that is kept of it. -/
theorem trim_margins {front kept back : List Char}
    (before : ∀ character ∈ front, drop character = true)
    (behind : ∀ character ∈ back, drop character = true)
    (first : kept.head?.all (!drop ·) = true) (last : kept.getLast?.all (!drop ·) = true)
    (nonempty : kept ≠ []) :
    trim drop (front ++ kept ++ back) = kept := by
  obtain ⟨start, rest, rfl⟩ := List.exists_cons_of_ne_nil nonempty
  have inner : (front ++ (start :: rest ++ back)).dropWhile drop = start :: rest ++ back :=
    dropWhile_margin before (by simpa using first)
  have reversed : (back.reverse ++ (start :: rest).reverse).dropWhile drop =
      (start :: rest).reverse :=
    dropWhile_margin (fun character member => behind character (List.mem_reverse.mp member))
      (by rwa [List.head?_reverse])
  rw [trim, List.append_assoc, inner, List.reverse_append, reversed, List.reverse_reverse]

end

end Text

namespace Numeral

open Text

/-- Digits of any script. Between two of them there may be one underscore. -/
inductive Digits : List Char → List Nat → Prop
  | last {character : Char} {digit : Nat} (read : digitValue? character = some digit) :
      Digits [character] [digit]
  | next {character : Char} {digit : Nat} {characters : List Char} {digits : List Nat}
      (read : digitValue? character = some digit) (later : Digits characters digits) :
      Digits (character :: characters) (digit :: digits)
  | parted {character : Char} {digit : Nat} {characters : List Char} {digits : List Nat}
      (read : digitValue? character = some digit) (later : Digits characters digits) :
      Digits (character :: '_' :: characters) (digit :: digits)

/-- The sign in front, if there is one, and whether it makes the number negative. -/
inductive Sign : List Char → Bool → Prop
  | none : Sign [] false
  | plus : Sign ['+'] false
  | minus : Sign ['-'] true

inductive Spelled : List Char → Bool → List Nat → Prop
  | spelled {sign unsigned : List Char} {negative : Bool} {digits : List Nat}
      (signed : Sign sign negative) (row : Digits unsigned digits) :
      Spelled (sign ++ unsigned) negative digits

/-- The integer that a sign and digits stand for, each digit by its place. -/
def placed (negative : Bool) (digits : List Nat) : Int :=
  let value : Nat := Nat.ofDigits 10 digits.reverse
  if negative then -value else value

theorem valueOf_eq_ofDigits (digits : List Nat) :
    valueOf digits = Nat.ofDigits 10 digits.reverse := by
  rw [Nat.ofDigits_eq_foldr, List.foldr_reverse, valueOf]
  congr 1
  funext value digit
  rw [Nat.cast_id, Nat.add_comm]

theorem placed_zeros (negative : Bool) (zeros : Nat) (digits : List Nat) :
    placed negative (List.replicate zeros 0 ++ digits) = placed negative digits := by
  simp only [placed, List.reverse_append, List.reverse_replicate,
    Nat.ofDigits_append_replicate_zero]

namespace Digits

variable {characters : List Char} {digits : List Nat}

theorem head (row : Digits characters digits) :
    ∃ first rest, characters = first :: rest ∧ (digitValue? first).isSome = true := by
  cases row with
  | last read => exact ⟨_, _, rfl, Option.isSome_of_eq_some read⟩
  | next read => exact ⟨_, _, rfl, Option.isSome_of_eq_some read⟩
  | parted read => exact ⟨_, _, rfl, Option.isSome_of_eq_some read⟩

theorem getLast (row : Digits characters digits) :
    ∃ front last, characters = front ++ [last] ∧ (digitValue? last).isSome = true := by
  induction row with
  | @last character _ read => exact ⟨[], character, rfl, Option.isSome_of_eq_some read⟩
  | @next character _ _ _ _ _ ih =>
      obtain ⟨front, last, rfl, read⟩ := ih
      exact ⟨character :: front, last, rfl, read⟩
  | @parted character _ _ _ _ _ ih =>
      obtain ⟨front, last, rfl, read⟩ := ih
      exact ⟨character :: '_' :: front, last, rfl, read⟩

theorem ne_nil (row : Digits characters digits) : digits ≠ [] := by
  cases row <;> exact List.cons_ne_nil _ _

end Digits

theorem digitRun_next {character : Char} {digit : Nat} {rest : List Char}
    (read : digitValue? character = some digit) (unparted : rest.head? ≠ some '_') :
    digitRun (character :: rest) = (digit :: (digitRun rest).1, (digitRun rest).2) := by
  rw [digitRun, read]
  dsimp only
  split
  · contradiction
  · rfl

theorem digitRun_parted {character next : Char} {digit : Nat} {rest : List Char}
    (read : digitValue? character = some digit) (later : (digitValue? next).isSome = true) :
    digitRun (character :: '_' :: next :: rest) =
      (digit :: (digitRun (next :: rest)).1, (digitRun (next :: rest)).2) := by
  rw [digitRun, read]
  dsimp only
  split
  · next same =>
      cases same
      rw [if_pos later]
  · next apart => exact absurd rfl (apart next rest)

theorem digitRun_digits {characters : List Char} {digits : List Nat}
    (row : Digits characters digits) : digitRun characters = (digits, []) := by
  induction row with
  | last read => rw [digitRun_next read (by simp), digitRun]
  | next read later ih =>
      obtain ⟨first, rest, rfl, digit⟩ := later.head
      have unparted : (first :: rest).head? ≠ some '_' := by
        intro same
        cases Option.some.inj same
        contradiction
      rw [digitRun_next read unparted, ih]
  | parted read later ih =>
      obtain ⟨first, rest, rfl, digit⟩ := later.head
      rw [digitRun_parted read digit, ih]

theorem digitRun_ne_nil {character : Char} (read : (digitValue? character).isSome = true)
    (rest : List Char) : (digitRun (character :: rest)).1 ≠ [] := by
  obtain ⟨digit, read⟩ := Option.isSome_iff_exists.mp read
  rw [digitRun, read]
  dsimp only
  split
  · split <;> exact List.cons_ne_nil _ _
  · exact List.cons_ne_nil _ _

/-- What the reader takes is nothing, or it is a row. -/
theorem digitRun_cases (characters : List Char) :
    digitRun characters = ([], characters) ∨
      ∃ row, characters = row ++ (digitRun characters).2 ∧ Digits row (digitRun characters).1 := by
  fun_induction digitRun characters with
  | case1 => exact .inl rfl
  | case2 character rest unread => exact .inl rfl
  | case3 character digit read next rest later digits remaining run ih =>
      have taken := digitRun_ne_nil later rest
      rw [run] at ih taken
      rcases ih with none | ⟨row, split, behind⟩
      · exact absurd (congrArg Prod.fst none) taken
      · exact .inr ⟨character :: '_' :: row, by rw [split]; rfl, .parted read behind⟩
  | case4 character digit read next rest unread =>
      exact .inr ⟨[character], rfl, .last read⟩
  | case5 character digit read rest unparted digits remaining run ih =>
      rw [run] at ih
      rcases ih with none | ⟨row, split, later⟩
      · cases none
        exact .inr ⟨[character], rfl, .last read⟩
      · exact .inr ⟨character :: row, congrArg (character :: ·) split, .next read later⟩

theorem signOf_unsigned {first : Char} (read : (digitValue? first).isSome = true)
    (rest : List Char) : signOf (first :: rest) = (false, first :: rest) := by
  rw [signOf.eq_def]
  split
  · next same =>
      cases same
      contradiction
  · next same =>
      cases same
      contradiction
  · rfl

theorem signOf_append {sign unsigned : List Char} {negative : Bool} {digits : List Nat}
    (signed : Sign sign negative) (row : Digits unsigned digits) :
    signOf (sign ++ unsigned) = (negative, unsigned) := by
  cases signed with
  | none =>
      obtain ⟨first, rest, rfl, read⟩ := row.head
      exact signOf_unsigned read rest
  | plus => rfl
  | minus => rfl

theorem sign_of_signOf (characters : List Char) :
    ∃ sign, characters = sign ++ (signOf characters).2 ∧ Sign sign (signOf characters).1 := by
  rw [signOf.eq_def]
  split
  · exact ⟨['-'], rfl, .minus⟩
  · exact ⟨['+'], rfl, .plus⟩
  · exact ⟨[], rfl, .none⟩

theorem parts_of_readInteger {characters : List Char} {value : Int}
    (read : readInteger characters = .ok value) :
    (digitRun (signOf characters).2).1 ≠ [] ∧ (digitRun (signOf characters).2).2 = [] ∧
      (digitRun (signOf characters).2).1.length ≤ digitLimit ∧
      value = placed (signOf characters).1 (digitRun (signOf characters).2).1 := by
  simp only [readInteger] at read
  split at read
  · contradiction
  next taken =>
  split at read
  · contradiction
  next short =>
  split at read
  · contradiction
  next rest =>
  simp only [Bool.or_eq_true, List.isEmpty_iff, not_or] at taken
  simp only [Bool.not_eq_true', Bool.not_eq_false, List.isEmpty_iff] at rest
  cases read
  exact ⟨taken.1, rest, Nat.not_lt.mp short, by rw [placed, valueOf_eq_ofDigits]⟩

/-- The reader accepts the rows of the grammar that are not too long, and nothing else. -/
theorem readInteger_eq_ok_iff {characters : List Char} {value : Int} :
    readInteger characters = .ok value ↔
      ∃ negative digits, Spelled characters negative digits ∧ digits.length ≤ digitLimit ∧
        value = placed negative digits := by
  constructor
  · intro read
    obtain ⟨sign, whole, signed⟩ := sign_of_signOf characters
    obtain ⟨taken, rest, short, value'⟩ := parts_of_readInteger read
    rcases digitRun_cases (signOf characters).2 with none | ⟨row, split, behind⟩
    · exact absurd (congrArg Prod.fst none) taken
    · have spelled := Spelled.spelled signed behind
      rw [rest, List.append_nil] at split
      rw [← split, ← whole] at spelled
      exact ⟨_, _, spelled, short, value'⟩
  · rintro ⟨negative, digits, ⟨signed, row⟩, short, rfl⟩
    have nonempty : digits.isEmpty = false := by
      rw [List.isEmpty_eq_false_iff]
      exact row.ne_nil
    simp only [readInteger, signOf_append signed row, digitRun_digits row]
    simp [nonempty, Nat.not_lt.mpr short, placed, valueOf_eq_ofDigits]

theorem isBlank_digit {character : Char} (read : (digitValue? character).isSome = true) :
    isBlank character = false := by
  apply Bool.eq_false_iff.mpr
  intro blank
  rw [digitValue?_blank blank] at read
  contradiction

namespace Spelled

variable {characters : List Char} {negative : Bool} {digits : List Nat}
  (spelled : Spelled characters negative digits)

include spelled

theorem ne_nil : characters ≠ [] := by
  obtain ⟨signed, row⟩ := spelled
  obtain ⟨first, rest, rfl, -⟩ := row.head
  simp

theorem head_unblank : characters.head?.all (!isBlank ·) = true := by
  obtain ⟨signed, row⟩ := spelled
  cases signed with
  | none =>
      obtain ⟨first, rest, rfl, read⟩ := row.head
      simp [isBlank_digit read]
  | plus => rfl
  | minus => rfl

theorem getLast_unblank : characters.getLast?.all (!isBlank ·) = true := by
  obtain ⟨signed, row⟩ := spelled
  obtain ⟨front, last, rfl, read⟩ := row.getLast
  simp [← List.append_assoc, isBlank_digit read]

end Spelled

def decimalDigits (value : Nat) : List Nat :=
  (Nat.toDigits 10 value).map fun character => character.toNat - '0'.toNat

theorem digitValue?_isDigit {character : Char} (digit : character.isDigit = true) :
    digitValue? character = some (character.toNat - '0'.toNat) := by
  have range : 0x30 ≤ character.toNat ∧ character.toNat < 0x30 + 10 := by
    simp only [Char.isDigit, Bool.and_eq_true, decide_eq_true_eq, ge_iff_le,
      UInt32.le_iff_toNat_le] at digit
    exact ⟨digit.1, Nat.lt_succ_of_le digit.2⟩
  simp [digitValue?, digitZeros, range]

theorem digits_of_isDigit {characters : List Char} (nonempty : characters ≠ [])
    (plain : ∀ character ∈ characters, character.isDigit = true) :
    Digits characters (characters.map fun character => character.toNat - '0'.toNat) := by
  induction characters with
  | nil => contradiction
  | cons first rest ih =>
      have read := digitValue?_isDigit (plain first List.mem_cons_self)
      cases rest with
      | nil => exact .last read
      | cons second rest =>
          exact .next read (ih (List.cons_ne_nil _ _) fun character member =>
            plain character (List.mem_cons_of_mem first member))

theorem digits_toDigits (value : Nat) : Digits (Nat.toDigits 10 value) (decimalDigits value) :=
  digits_of_isDigit Nat.toDigits_ne_nil fun _ member => isDigit_of_mem_decimal member

theorem ofDigits_decimalDigits (value : Nat) :
    Nat.ofDigits 10 (decimalDigits value).reverse = value := by
  rw [← valueOf_eq_ofDigits, valueOf, decimalDigits, List.foldl_map]
  exact Nat.ofDigitChars_ten_toDigits

theorem length_decimalDigits_le {value count : Nat} (positive : 0 < count)
    (bound : value < tenTo count) : (decimalDigits value).length ≤ count := by
  rw [decimalDigits, List.length_map]
  exact length_toDigits_le positive bound

theorem toList_toString_ofNat (value : Nat) :
    (toString (Int.ofNat value)).toList = Nat.toDigits 10 value :=
  Nat.toList_repr

theorem toList_toString_negSucc (value : Nat) :
    (toString (Int.negSucc value)).toList = '-' :: Nat.toDigits 10 (value + 1) := by
  change ("-" ++ Nat.repr (value + 1)).toList = _
  rw [String.toList_append, Nat.toList_repr]
  rfl

theorem spelled_toString (value : Int) :
    ∃ negative, Spelled (toString value).toList negative (decimalDigits value.natAbs) ∧
      placed negative (decimalDigits value.natAbs) = value := by
  cases value with
  | ofNat value =>
      refine ⟨false, ?_, ?_⟩
      · rw [toList_toString_ofNat]
        exact .spelled .none (digits_toDigits value)
      · simp only [placed, Bool.false_eq_true, if_false, Int.natAbs_ofNat', ofDigits_decimalDigits]
        rfl
  | negSucc value =>
      refine ⟨true, ?_, ?_⟩
      · rw [toList_toString_negSucc]
        exact .spelled .minus (digits_toDigits (value + 1))
      · simp only [placed, if_true, Int.natAbs_negSucc, ofDigits_decimalDigits]
        rfl

end Numeral

end Argon2Workbench
