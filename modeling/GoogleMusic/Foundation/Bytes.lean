import Mathlib.Data.Nat.Digits.Defs

namespace Foundation

def bigEndian (bytes : List UInt8) : Nat := Nat.ofDigits 256 (bytes.map UInt8.toNat).reverse

section Values

variable {bytes front back : List UInt8}

theorem bigEndian_append (front back : List UInt8) :
    bigEndian (front ++ back) = bigEndian front * 256 ^ back.length + bigEndian back := by
  rw [bigEndian, List.map_append, List.reverse_append, Nat.ofDigits_append, List.length_reverse,
    List.length_map, Nat.mul_comm, Nat.add_comm]
  rfl

theorem bigEndian_singleton (byte : UInt8) : bigEndian [byte] = byte.toNat := Nat.ofDigits_singleton

theorem bigEndian_lt (bytes : List UInt8) : bigEndian bytes < 256 ^ bytes.length := by
  have digits : ∀ digit ∈ (bytes.map UInt8.toNat).reverse, digit < 256 := by
    intro digit member
    obtain ⟨byte, _, rfl⟩ := List.mem_map.mp (List.mem_reverse.mp member)
    exact byte.toNat_lt
  have bound := Nat.ofDigits_lt_base_pow_length (by decide) digits
  rwa [List.length_reverse, List.length_map] at bound

theorem bigEndian_zeros (count : Nat) (bytes : List UInt8) :
    bigEndian (List.replicate count 0 ++ bytes) = bigEndian bytes := by
  rw [bigEndian, List.map_append, List.map_replicate, List.reverse_append, List.reverse_replicate]
  exact Nat.ofDigits_append_replicate_zero _

/-- A part of a numeral has the value of the whole only if nothing but zeros is missing. -/
theorem bigEndian_take {count : Nat} (large : 256 ^ count ≤ bigEndian bytes) :
    bigEndian (bytes.take count) < bigEndian bytes := by
  have bound := bigEndian_lt (bytes.take count)
  have short : 256 ^ (bytes.take count).length ≤ 256 ^ count :=
    Nat.pow_le_pow_right (by decide) (List.length_take_le count bytes)
  omega

/-- More bytes do not leave a value as it is, unless they are all zero. -/
theorem bigEndian_append_eq (more : back ≠ []) (same : bigEndian (front ++ back) = bigEndian front) :
    bigEndian front = 0 ∧ bigEndian back = 0 := by
  rw [bigEndian_append] at same
  have weight : 256 ≤ 256 ^ back.length :=
    Nat.le_self_pow (Nat.ne_of_gt (List.length_pos_iff.mpr more)) 256
  have grown := Nat.mul_le_mul_left (bigEndian front) weight
  omega

end Values

end Foundation
