import Mathlib.Data.Nat.Digits.Defs

namespace Foundation

namespace Numeral

/-- The value of `numeral` behind digits that have the value `start`. -/
def parse (base : Nat) (digit : Char → Option Nat) : Nat → List Char → Option Nat
  | start, [] => some start
  | start, character :: numeral =>
      (digit character).bind fun value => parse base digit (base * start + value) numeral

variable {base : Nat} {digit : Char → Option Nat} {start value : Nat} {numeral other : List Char}

theorem parse_cons_eq_some {character : Char} :
    parse base digit start (character :: numeral) = some value ↔
      ∃ first, digit character = some first ∧
        parse base digit (base * start + first) numeral = some value := by
  rw [parse, Option.bind_eq_some_iff]

theorem parse_append (base : Nat) (digit : Char → Option Nat) (start : Nat)
    (numeral other : List Char) :
    parse base digit start (numeral ++ other) =
      (parse base digit start numeral).bind fun middle => parse base digit middle other := by
  induction numeral generalizing start with
  | nil => rfl
  | cons character numeral ih =>
      rw [List.cons_append, parse, parse, Option.bind_assoc]
      exact congrArg _ (funext fun first => ih (base * start + first))

theorem parse_zeros {character : Char} (zero : digit character = some 0) (count : Nat) :
    parse base digit 0 (List.replicate count character) = some 0 := by
  induction count with
  | zero => rfl
  | succ count ih => rw [List.replicate_succ, parse, zero, Option.bind_some, Nat.mul_zero, ih]

/-- The usual numeral of a number reads back as that number, with any alphabet whose
digits are read back. -/
theorem parse_toDigits {alphabet : Char → Char} (large : 1 < base)
    (reads : ∀ value < base, digit (alphabet value.digitChar) = some value) (number : Nat) :
    parse base digit 0 ((Nat.toDigits base number).map alphabet) = some number := by
  induction number using Nat.base_induction base large with
  | single number small =>
      rw [Nat.toDigits_of_lt_base small, List.map_singleton, parse, reads number small]
      simp [parse]
  | digit number last small positive ih =>
      rw [← Nat.toDigits_append_toDigits large positive small, List.map_append, parse_append, ih,
        Option.bind_some, Nat.toDigits_of_lt_base small, List.map_singleton, parse, reads last small]
      rfl

/-- The digits behind `start` decide where in its interval the value lies. -/
theorem parse_bounds (digits : ∀ character first, digit character = some first → first < base)
    (parsed : parse base digit start numeral = some value) :
    start * base ^ numeral.length ≤ value ∧ value < (start + 1) * base ^ numeral.length := by
  induction numeral generalizing start with
  | nil =>
      cases parsed
      simp
  | cons character numeral ih =>
      obtain ⟨first, read, rest⟩ := parse_cons_eq_some.mp parsed
      obtain ⟨least, most⟩ := ih rest
      have small := digits character first read
      have power : base ^ (numeral.length + 1) = base * base ^ numeral.length := Nat.pow_succ'
      rw [List.length_cons, power]
      constructor
      · calc start * (base * base ^ numeral.length)
            = base * start * base ^ numeral.length := by rw [← Nat.mul_assoc, Nat.mul_comm start base]
          _ ≤ (base * start + first) * base ^ numeral.length :=
            Nat.mul_le_mul_right _ (Nat.le_add_right _ _)
          _ ≤ value := least
      · calc value < (base * start + first + 1) * base ^ numeral.length := most
          _ ≤ (base * start + base) * base ^ numeral.length :=
            Nat.mul_le_mul_right _ (by omega)
          _ = (start + 1) * (base * base ^ numeral.length) := by ring

theorem parse_lt (digits : ∀ character first, digit character = some first → first < base)
    (parsed : parse base digit 0 numeral = some value) : value < base ^ numeral.length := by
  have bounds := (parse_bounds digits parsed).2
  rwa [Nat.zero_add, Nat.one_mul] at bounds

/-- Two numerals of one length with one value are the same. -/
theorem parse_injective (digits : ∀ character first, digit character = some first → first < base)
    (letters : ∀ left ∈ numeral, ∀ right ∈ other, digit left = digit right → left = right)
    {again : Nat} (length : numeral.length = other.length)
    (parsed : parse base digit start numeral = some value)
    (second : parse base digit again other = some value) : start = again ∧ numeral = other := by
  induction numeral generalizing start again other with
  | nil =>
      rw [List.length_nil] at length
      rw [List.eq_nil_of_length_eq_zero length.symm] at second ⊢
      cases parsed
      cases second
      exact ⟨rfl, rfl⟩
  | cons left numeral ih =>
      cases other with
      | nil => simp at length
      | cons right other =>
          obtain ⟨first, read, rest⟩ := parse_cons_eq_some.mp parsed
          obtain ⟨last, found, tail⟩ := parse_cons_eq_some.mp second
          have behind : ∀ left ∈ numeral, ∀ right ∈ other, digit left = digit right → left = right :=
            fun left inside right member =>
              letters left (List.mem_cons_of_mem _ inside) right (List.mem_cons_of_mem _ member)
          obtain ⟨same, rfl⟩ := ih behind (by simpa using length) rest tail
          have small := digits left first read
          have little := digits right last found
          have starts : start = again := by
            rcases Nat.lt_trichotomy start again with less | equal | more
            · have gap := Nat.mul_le_mul_left base (Nat.succ_le_of_lt less)
              rw [Nat.mul_succ] at gap
              omega
            · exact equal
            · have gap := Nat.mul_le_mul_left base (Nat.succ_le_of_lt more)
              rw [Nat.mul_succ] at gap
              omega
          subst starts
          obtain rfl : first = last := by omega
          have heads := letters left List.mem_cons_self right List.mem_cons_self (read.trans found.symm)
          exact ⟨rfl, by rw [heads]⟩

theorem parse_isSome_iff : (parse base digit start numeral).isSome = true ↔
    ∀ character ∈ numeral, (digit character).isSome = true := by
  induction numeral generalizing start with
  | nil => simp [parse]
  | cons character numeral ih =>
      rw [parse, List.forall_mem_cons]
      cases digit character with
      | none => simp
      | some value => simp [ih]

end Numeral

end Foundation
