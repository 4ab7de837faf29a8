import GoogleMusic.Foundation.Bytes
import GoogleMusic.Vendored.Identity

namespace GoogleMusic

open Foundation

/-- `s.encode('hex')`. -/
def encodeHex (s : List UInt8) : List Char :=
  s.flatMap fun byte => [(byte.toNat / 16).digitChar, (byte.toNat % 16).digitChar]

/-- `long(s.encode('hex'), 16)`, which has no sign, prefix or white space to skip. -/
def bytesToLong (s : List UInt8) : Except Raised Nat := hexNumeral (encodeHex s)

def unhexlify : List Char → Except Raised (List UInt8)
  | [] => .ok []
  | [_] => .error .typeError
  | high :: low :: rest =>
      match hexValue high, hexValue low with
      | some first, some second => do
          let bytes ← unhexlify rest
          pure (UInt8.ofNat (16 * first + second) :: bytes)
      | _, _ => .error .typeError

/-- The digits with a zero in front where their number is odd. -/
def evened (digits : List Char) : List Char :=
  if digits.length % 2 = 1 then '0' :: digits else digits

def longToBytes (lnum : Int) (padmultiple : Nat := 1) : Except Raised (List UInt8) :=
  if lnum = 0 then .ok (List.replicate padmultiple 0)
  else if lnum < 0 then .error .valueError
  else do
    let s ← unhexlify (evened (hexDigits lnum.toNat))
    let filledSoFar := s.length % padmultiple
    pure (if padmultiple ≠ 1 ∧ padmultiple ≠ 0 ∧ filledSoFar ≠ 0 then
      List.replicate (padmultiple - filledSoFar) 0 ++ s else s)

structure Key where
  n : Nat
  e : Nat
deriving DecidableEq

/-- `key_from_b64` behind the decoding of the text. -/
def keyFromBinary (binaryKey : List UInt8) : Except Raised Key := do
  let i ← bytesToLong (binaryKey.take 4)
  let mod ← bytesToLong ((binaryKey.take (4 + i)).drop 4)
  let j ← bytesToLong ((binaryKey.take (i + 4 + 4)).drop (i + 4))
  let exponent ← bytesToLong ((binaryKey.take (i + 8 + j)).drop (i + 8))
  pure { n := mod, e := exponent }

/-- The two lengths are written as constants. -/
def structOf (mod exponent : List UInt8) : List UInt8 :=
  [0, 0, 0, 0x80] ++ mod ++ [0, 0, 0, 0x03] ++ exponent

def keyToStruct (key : Key) : Except Raised (List UInt8) := do
  let mod ← longToBytes key.n
  let exponent ← longToBytes key.e
  pure (structOf mod exponent)

section Numbers

variable {s bytes : List UInt8} {digits : List Char} {start value : Nat}

theorem hexValue_digitChar : ∀ value < 16, hexValue value.digitChar = some value := by
  decide

theorem parse_encodeHex (s : List UInt8) (start : Nat) :
    Numeral.parse 16 hexValue start (encodeHex s) = some (start * 256 ^ s.length + bigEndian s) := by
  induction s generalizing start with
  | nil => simp [encodeHex, Numeral.parse, bigEndian]
  | cons byte s ih =>
      have high : byte.toNat / 16 < 16 := Nat.div_lt_of_lt_mul byte.toNat_lt
      have low : byte.toNat % 16 < 16 := Nat.mod_lt _ (by decide)
      have value : 16 * (16 * start + byte.toNat / 16) + byte.toNat % 16 = 256 * start + byte.toNat := by
        omega
      change Numeral.parse 16 hexValue start (_ :: _ :: encodeHex s) = _
      rw [Numeral.parse, hexValue_digitChar _ high, Option.bind_some, Numeral.parse,
        hexValue_digitChar _ low, Option.bind_some, value, ih, ← List.singleton_append,
        bigEndian_append, bigEndian_singleton, List.length_append, List.length_singleton, Nat.pow_add]
      congr 1
      ring

theorem bytesToLong_eq (filled : s ≠ []) : bytesToLong s = .ok (bigEndian s) := by
  have digits : encodeHex s ≠ [] := by
    cases s with
    | nil => exact absurd rfl filled
    | cons byte s => exact List.cons_ne_nil _ _
  rw [bytesToLong, hexNumeral, if_neg digits, ofHex, parse_encodeHex, Nat.zero_mul, Nat.zero_add]

/-- Pairs of digits have the value of the bytes that they stand for. -/
theorem unhexlify_run (even : digits.length % 2 = 0)
    (numeral : ∀ character ∈ digits, (hexValue character).isSome = true) :
    ∃ bytes, unhexlify digits = .ok bytes ∧ 2 * bytes.length = digits.length ∧
      ∀ start, Numeral.parse 16 hexValue start digits =
        some (start * 256 ^ bytes.length + bigEndian bytes) := by
  fun_induction unhexlify digits with
  | case1 => exact ⟨[], rfl, rfl, fun start => by simp [Numeral.parse, bigEndian]⟩
  | case2 => simp at even
  | case3 high low rest first second isSecond isFirst ih =>
      have behind : ∀ character ∈ rest, (hexValue character).isSome = true := fun character member =>
        numeral character (List.mem_cons_of_mem _ (List.mem_cons_of_mem _ member))
      rw [List.length_cons, List.length_cons] at even
      obtain ⟨bytes, read, length, values⟩ := ih (by omega) behind
      have small := hexValue_lt isFirst
      have little := hexValue_lt isSecond
      have byte : (UInt8.ofNat (16 * first + second)).toNat = 16 * first + second :=
        UInt8.toNat_ofNat_of_lt (by change _ < 256; omega)
      refine ⟨UInt8.ofNat (16 * first + second) :: bytes, by rw [read]; rfl, ?_, fun start => ?_⟩
      · rw [List.length_cons, List.length_cons, List.length_cons]
        omega
      · have value : 16 * (16 * start + first) + second = 256 * start + (16 * first + second) := by omega
        rw [Numeral.parse, isFirst, Option.bind_some, Numeral.parse, isSecond, Option.bind_some, value,
          values, ← List.singleton_append, bigEndian_append, bigEndian_singleton, byte,
          List.length_append, List.length_singleton, Nat.pow_add]
        congr 1
        ring
  | case4 high low rest apart =>
      obtain ⟨first, isFirst⟩ := Option.isSome_iff_exists.mp (numeral high (by simp))
      obtain ⟨second, isSecond⟩ := Option.isSome_iff_exists.mp (numeral low (by simp))
      exact absurd isSecond (apart first second isFirst)

theorem evened_length (digits : List Char) :
    (evened digits).length = 2 * ((digits.length + 1) / 2) := by
  unfold evened
  split
  · rw [List.length_cons]
    omega
  · omega

theorem evened_parse (digits : List Char) :
    Numeral.parse 16 hexValue 0 (evened digits) = Numeral.parse 16 hexValue 0 digits := by
  unfold evened
  split <;> rfl

theorem evened_numeral (numeral : ∀ character ∈ digits, (hexValue character).isSome = true) :
    ∀ character ∈ evened digits, (hexValue character).isSome = true := by
  unfold evened
  split
  · exact List.forall_mem_cons.mpr ⟨rfl, numeral⟩
  · exact numeral

/-- The digits of a number stand for as many bytes as it needs. -/
theorem unhexlify_hexDigits (num : Nat) :
    ∃ s, unhexlify (evened (hexDigits num)) = .ok s ∧ bigEndian s = num ∧ s ≠ [] ∧
      ∀ count, 0 < count → (s.length ≤ count ↔ num < 256 ^ count) := by
  have plain : Numeral.parse 16 hexValue 0 ((Nat.toDigits 16 num).map id) = some num :=
    Numeral.parse_toDigits (by decide) hexValue_digitChar num
  rw [List.map_id] at plain
  have numeral : ∀ character ∈ hexDigits num, (hexValue character).isSome = true := by
    intro character member
    obtain ⟨value, small, rfl⟩ := hexDigits_small member
    rw [hexValue_digitChar value small]
    rfl
  have positive : 0 < (hexDigits num).length := Nat.length_toDigits_pos
  have even := evened_length (hexDigits num)
  obtain ⟨s, read, length, values⟩ := unhexlify_run (by omega) (evened_numeral numeral)
  refine ⟨s, read, ?_, ?_, fun count some => ?_⟩
  · have value := values 0
    rw [evened_parse, hexDigits, plain, Nat.zero_mul, Nat.zero_add, Option.some.injEq] at value
    exact value.symm
  · rintro rfl
    rw [List.length_nil] at length
    omega
  · have size : (hexDigits num).length ≤ 2 * count ↔ num < 16 ^ (2 * count) :=
      Nat.length_toDigits_le_iff (by decide) (by omega)
    rw [Nat.pow_mul] at size
    rw [← size]
    omega

/-- A positive number is packed into the bytes that it needs, behind fewer zeros than the
padding counts in. -/
theorem longToBytes_positive {num : Nat} (padmultiple : Nat) (positive : 0 < num) :
    ∃ s zeros, longToBytes num padmultiple = .ok (List.replicate zeros 0 ++ s) ∧ bigEndian s = num ∧
      s ≠ [] ∧ (∀ count, 0 < count → (s.length ≤ count ↔ num < 256 ^ count)) ∧
      (padmultiple ≠ 0 → zeros < padmultiple ∧ padmultiple ∣ zeros + s.length) := by
  obtain ⟨s, read, value, filled, size⟩ := unhexlify_hexDigits num
  have written : longToBytes num padmultiple = .ok
      (if padmultiple ≠ 1 ∧ padmultiple ≠ 0 ∧ s.length % padmultiple ≠ 0 then
        List.replicate (padmultiple - s.length % padmultiple) 0 ++ s else s) := by
    rw [longToBytes, if_neg (by omega), if_neg (by omega), Int.toNat_natCast, read]
    rfl
  by_cases padded : padmultiple ≠ 1 ∧ padmultiple ≠ 0 ∧ s.length % padmultiple ≠ 0
  · rw [if_pos padded] at written
    refine ⟨s, _, written, value, filled, size, fun some => ?_⟩
    have less := Nat.mod_lt s.length (Nat.pos_of_ne_zero some)
    have whole := Nat.div_add_mod s.length padmultiple
    refine ⟨by omega, s.length / padmultiple + 1, ?_⟩
    rw [Nat.mul_add, Nat.mul_one]
    omega
  · rw [if_neg padded] at written
    refine ⟨s, 0, written, value, filled, size, fun some => ⟨Nat.pos_of_ne_zero some, ?_⟩⟩
    rw [Nat.zero_add]
    by_cases one : padmultiple = 1
    · exact one ▸ Nat.one_dvd _
    · exact Nat.dvd_of_mod_eq_zero (by_contra fun other => padded ⟨one, some, other⟩)

theorem longToBytes_zero (padmultiple : Nat) :
    longToBytes (0 : Nat) padmultiple = .ok (List.replicate padmultiple 0) := if_pos rfl

theorem bytesToLong_lt (read : bytesToLong s = .ok value) : value < 256 ^ s.length ∧ s ≠ [] := by
  have filled : s ≠ [] := by
    rintro rfl
    cases read
  rw [bytesToLong_eq filled, Except.ok.injEq] at read
  exact ⟨read ▸ bigEndian_lt s, filled⟩

/-- A number reads back from the bytes that it is packed into, unless it is zero and packed
into none.  The bytes come in the multiple that is asked for, and are as few as can be. -/
theorem longToBytes_reads (num padmultiple : Nat) :
    ∃ s, longToBytes num padmultiple = .ok s ∧
      (bytesToLong s = .ok num ↔ ¬ (num = 0 ∧ padmultiple = 0)) ∧
      (padmultiple ≠ 0 → padmultiple ∣ s.length ∧ ∀ other, bytesToLong other = .ok num →
        padmultiple ∣ other.length → s.length ≤ other.length) := by
  rcases Nat.eq_zero_or_pos num with rfl | positive
  · refine ⟨_, longToBytes_zero padmultiple, ?_, fun some => ⟨?_, fun other read divides => ?_⟩⟩
    · cases padmultiple with
      | zero => simp [bytesToLong, encodeHex, hexNumeral]
      | succ count =>
          rw [bytesToLong_eq (by simp), ← List.append_nil (List.replicate _ _), bigEndian_zeros]
          simp [bigEndian]
    · rw [List.length_replicate]
    · rw [List.length_replicate]
      exact Nat.le_of_dvd (List.length_pos_iff.mpr (bytesToLong_lt read).2) divides
  · obtain ⟨s, zeros, written, value, filled, size, padding⟩ := longToBytes_positive padmultiple positive
    refine ⟨_, written, ?_, fun some => ?_⟩
    · rw [bytesToLong_eq (by simp [filled]), bigEndian_zeros, value]
      exact iff_of_true rfl (by omega)
    · obtain ⟨less, divides⟩ := padding some
      rw [List.length_append, List.length_replicate]
      refine ⟨divides, fun other read multiple => ?_⟩
      obtain ⟨bound, long⟩ := bytesToLong_lt read
      have least := (size other.length (List.length_pos_iff.mpr long)).mpr bound
      obtain ⟨first, equal⟩ := divides
      obtain ⟨second, same⟩ := multiple
      by_contra shorter
      have fewer : second < first := Nat.lt_of_mul_lt_mul_left (a := padmultiple) (by omega)
      have gap := Nat.mul_le_mul_left padmultiple (Nat.succ_le_of_lt fewer)
      rw [Nat.mul_succ] at gap
      omega

end Numbers

section Keys

variable {mod exponent : List UInt8} {key : Key}

theorem longToBytes_plain (num : Nat) : ∃ s, longToBytes num = .ok s ∧ bigEndian s = num ∧ s ≠ [] ∧
    ∀ count, 0 < count → (s.length ≤ count ↔ num < 256 ^ count) := by
  rcases Nat.eq_zero_or_pos num with rfl | positive
  · refine ⟨[0], longToBytes_zero 1, rfl, List.cons_ne_nil _ _, fun count some => ?_⟩
    exact iff_of_true some (Nat.pow_pos (by decide))
  · obtain ⟨s, zeros, written, value, filled, size, padding⟩ := longToBytes_positive 1 positive
    obtain rfl : zeros = 0 := by
      have less := (padding Nat.one_ne_zero).1
      omega
    exact ⟨s, written, value, filled, size⟩

theorem structOf_modulus (mod exponent : List UInt8) :
    ((structOf mod exponent).take (4 + 128)).drop 4 = (mod ++ ([0, 0, 0, 0x03] ++ exponent)).take 128 := by
  rw [List.drop_take, structOf, List.append_assoc, List.append_assoc]
  rfl

/-- The modulus is read from the bytes behind the first length, as many as it counts or as
there are. -/
theorem keyFromBinary_modulus (filled : mod ≠ [])
    (read : keyFromBinary (structOf mod exponent) = .ok key) :
    key.n = bigEndian ((mod ++ ([0, 0, 0, 0x03] ++ exponent)).take 128) := by
  have header : bytesToLong ((structOf mod exponent).take 4) = .ok 128 := rfl
  simp only [keyFromBinary, bind_eq_ok] at read
  obtain ⟨i, isLength, modulus, isModulus, j, _, power, _, made⟩ := read
  rw [header] at isLength
  cases isLength
  rw [structOf_modulus, bytesToLong_eq (by simp [filled])] at isModulus
  cases isModulus
  cases made
  rfl

theorem keyFromBinary_whole (long : mod.length = 128) (filled : exponent ≠ []) :
    keyFromBinary (structOf mod exponent) =
      .ok { n := bigEndian mod, e := bigEndian (exponent.take 3) } := by
  have header : bytesToLong ((structOf mod exponent).take 4) = .ok 128 := rfl
  have behind : (structOf mod exponent).drop 132 = [0, 0, 0, 0x03] ++ exponent := by
    rw [structOf, List.append_assoc]
    exact List.drop_left' (by rw [List.length_append, long]; rfl)
  have modulus : bytesToLong (((structOf mod exponent).take (4 + 128)).drop 4) = .ok (bigEndian mod) := by
    rw [structOf_modulus, List.take_left' long, bytesToLong_eq]
    rintro rfl
    cases long
  have second : bytesToLong (((structOf mod exponent).take (128 + 4 + 4)).drop (128 + 4)) = .ok 3 := by
    rw [List.drop_take, behind]
    rfl
  have power : bytesToLong (((structOf mod exponent).take (128 + 8 + 3)).drop (128 + 8)) =
      .ok (bigEndian (exponent.take 3)) := by
    rw [List.drop_take, ← List.drop_drop (i := 4) (j := 132), behind, ← bytesToLong_eq (by simp [filled])]
    rfl
  simp only [keyFromBinary, header, modulus, second, power, bind, Except.bind]
  rfl

/-- The key reads back from what is written for it exactly when its modulus has 1024 bits in
128 bytes and its exponent at most three bytes. -/
theorem keyFromBinary_keyToStruct (key : Key) :
    (keyToStruct key >>= keyFromBinary) = .ok key ↔
      256 ^ 127 ≤ key.n ∧ key.n < 256 ^ 128 ∧ key.e < 256 ^ 3 := by
  obtain ⟨mod, modWritten, modValue, modFilled, modSize⟩ := longToBytes_plain key.n
  obtain ⟨exponent, written, value, filled, size⟩ := longToBytes_plain key.e
  have struct : keyToStruct key = .ok (structOf mod exponent) := by
    rw [keyToStruct, modWritten, written]
    rfl
  simp only [struct, bind, Except.bind]
  have whole : mod.length = 128 ↔ 256 ^ 127 ≤ key.n ∧ key.n < 256 ^ 128 := by
    have most := modSize 128 (by decide)
    have least := modSize 127 (by decide)
    constructor
    · intro long
      exact ⟨Nat.le_of_not_lt fun less => by omega, most.mp (by omega)⟩
    · intro bounds
      have short := most.mpr bounds.2
      have long : ¬ mod.length ≤ 127 := fun upTo => Nat.not_lt.mpr bounds.1 (least.mp upTo)
      omega
  rw [← and_assoc, ← whole]
  by_cases long : mod.length = 128
  · rw [keyFromBinary_whole long filled, modValue]
    have small := size 3 (by decide)
    constructor
    · intro read
      have same : bigEndian (exponent.take 3) = key.e := congrArg Key.e (Except.ok.inj read)
      refine ⟨long, Nat.lt_of_not_le fun large => ?_⟩
      have less := bigEndian_take (value.symm ▸ large)
      omega
    · intro both
      rw [List.take_of_length_le (small.mpr both.2), value]
  · refine iff_of_false (fun read => ?_) fun both => long both.1
    have modulus := keyFromBinary_modulus modFilled read
    rw [List.take_append] at modulus
    rcases Nat.lt_or_gt_of_ne long with short | more
    · -- The modulus would take in the bytes of the second length as well.
      have behind : ([0, 0, 0, 0x03] ++ exponent).take (128 - mod.length) ≠ [] := by
        have room : 128 - mod.length ≠ 0 := by omega
        simp [room]
      rw [List.take_of_length_le (Nat.le_of_lt short), ← modValue] at modulus
      obtain ⟨zero, nothing⟩ := bigEndian_append_eq behind modulus.symm
      have byte : mod.length ≤ 1 := (modSize 1 (by decide)).mpr (by rw [← modValue, zero]; decide)
      have room : 128 - mod.length = 4 + (124 - mod.length) := by omega
      rw [room, List.take_append, List.take_of_length_le (Nat.le_add_right 4 _), bigEndian_append] at nothing
      have three : bigEndian [0, 0, 0, 0x03] = 3 := rfl
      have weight := Nat.pow_pos (n := (exponent.take (4 + (124 - mod.length) - 4)).length)
        (show 0 < 256 by decide)
      rw [three] at nothing
      simp only [List.length_cons, List.length_nil, Nat.zero_add, Nat.reduceAdd] at nothing weight
      omega
    · -- The modulus would be cut off.
      have large : 256 ^ 128 ≤ key.n := Nat.le_of_not_lt fun less => by
        have upTo := (modSize 128 (by decide)).mpr less
        omega
      have less := bigEndian_take (modValue.symm ▸ large)
      have none : 128 - mod.length = 0 := by omega
      rw [none, List.take_zero, List.append_nil] at modulus
      omega

end Keys

end GoogleMusic
