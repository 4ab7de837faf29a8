import GoogleMusic.Data
import GoogleMusic.Foundation.Numerals

namespace GoogleMusic

open Foundation

def hexValue (character : Char) : Option Nat :=
  if '0' ≤ character ∧ character ≤ '9' then some (character.toNat - '0'.toNat)
  else if 'a' ≤ character ∧ character ≤ 'f' then some (character.toNat - 'a'.toNat + 10)
  else if 'A' ≤ character ∧ character ≤ 'F' then some (character.toNat - 'A'.toNat + 10)
  else none

def ofHex (numeral : List Char) : Option Nat := Numeral.parse 16 hexValue 0 numeral

/-- `text.strip()`. -/
def strip (text : List Char) : List Char :=
  ((text.dropWhile Char.isWhitespace).reverse.dropWhile Char.isWhitespace).reverse

def unprefixed : List Char → List Char
  | '0' :: 'x' :: numeral => numeral
  | '0' :: 'X' :: numeral => numeral
  | numeral => numeral

def hexNumeral (numeral : List Char) : Except Raised Nat :=
  if numeral = [] then .error .valueError
  else
    match ofHex numeral with
    | some value => .ok value
    | none => .error .valueError

/-- `int(text, 16)` on a string: a sign and the prefix `0x` are optional, and white space
around the numeral is skipped. -/
def intBase16 (text : List Char) : Except Raised Int :=
  match strip text with
  | '-' :: numeral => do
      let value ← hexNumeral (unprefixed numeral)
      pure (-(value : Int))
  | '+' :: numeral => do
      let value ← hexNumeral (unprefixed numeral)
      pure (value : Int)
  | numeral => do
      let value ← hexNumeral (unprefixed numeral)
      pure (value : Int)

/-- `hex(num)[2:]`, of which a trailing `L` is cut off. -/
def hexDigits (num : Nat) : List Char := Nat.toDigits 16 num

def padded (num : Nat) : List Char :=
  List.replicate (12 - (hexDigits num).length) '0' ++ hexDigits num

def pairsOf (mac : List Char) : List (List Char) :=
  [0, 2, 4, 6, 8, 10].map fun start => (mac.drop start).take 2

def createMacString (num : Nat) (splitter : List Char := [':']) : List Char :=
  ((splitter.intercalate (pairsOf (padded num))).map Char.toUpper)

def isPairDigit (character : Char) : Bool :=
  ('0' ≤ character && character ≤ '9') || ('A' ≤ character && character ≤ 'F')

/-- `^({pair}:){n}{pair}$`.  The end of a line also matches in front of a last line
break. -/
def matchesPairs : Nat → List Char → Bool
  | 0, [high, low] => isPairDigit high && isPairDigit low
  | 0, [high, low, last] => isPairDigit high && isPairDigit low && last == '\n'
  | count + 1, high :: low :: ':' :: rest =>
      isPairDigit high && isPairDigit low && matchesPairs count rest
  | _, _ => false

def isValidMac (macString : List Char) : Bool := matchesPairs 5 macString

/-- The test of `login` for a MAC address that was made up, by its multicast bit. -/
def madeUp (mac : Nat) : Bool := (mac >>> 40) % 2 = 1

/-- `utils.create_mac_string(mac_int).replace(':', '')`. -/
def androidIdOf (mac : Nat) : List Char := (createMacString mac).filter fun character => character != ':'

section Mac

variable {num : Nat}

theorem hexValue_upper : ∀ value < 16, hexValue value.digitChar.toUpper = some value := by
  decide

theorem digitChar_upper : ∀ value < 16, isPairDigit value.digitChar.toUpper = true ∧
    value.digitChar.toUpper ≠ ':' := by
  decide

theorem hexDigits_small {character : Char} (member : character ∈ hexDigits num) :
    ∃ value < 16, character = value.digitChar := by
  rw [hexDigits] at member
  induction num using Nat.base_induction 16 (by decide) with
  | single value small =>
      rw [Nat.toDigits_of_lt_base small] at member
      exact ⟨value, small, List.mem_singleton.mp member⟩
  | digit number value small positive ih =>
      rw [← Nat.toDigits_append_toDigits (by decide) positive small, List.mem_append,
        Nat.toDigits_of_lt_base small] at member
      rcases member with front | last
      · exact ih front
      · exact ⟨value, small, List.mem_singleton.mp last⟩

theorem padded_small {character : Char} (member : character ∈ padded num) :
    ∃ value < 16, character = value.digitChar := by
  rcases List.mem_append.mp member with front | back
  · exact ⟨0, by decide, List.eq_of_mem_replicate front⟩
  · exact hexDigits_small back

theorem upper_pairDigit {character : Char} (member : character ∈ padded num) :
    isPairDigit character.toUpper = true ∧ character.toUpper ≠ ':' := by
  obtain ⟨value, small, rfl⟩ := padded_small member
  exact digitChar_upper value small

theorem padded_length (num : Nat) : 12 ≤ (padded num).length := by
  rw [padded, List.length_append, List.length_replicate]
  omega

theorem padded_length_eq (small : num < 2 ^ 48) : (padded num).length = 12 := by
  have short : (hexDigits num).length ≤ 12 :=
    (Nat.length_toDigits_le_iff (by decide) (by decide)).mpr (by simpa using small)
  rw [padded, List.length_append, List.length_replicate]
  omega

/-- Twelve digits are written out pair by pair; digits beyond them are left out. -/
theorem exists_twelve {mac : List Char} (long : 12 ≤ mac.length) :
    ∃ a b c d e f g h i j k l rest, mac = a :: b :: c :: d :: e :: f :: g :: h :: i :: j :: k :: l :: rest := by
  match mac, long with
  | a :: b :: c :: d :: e :: f :: g :: h :: i :: j :: k :: l :: rest, _ =>
      exact ⟨a, b, c, d, e, f, g, h, i, j, k, l, rest, rfl⟩

/-- The address of any number is a valid one, also of a number beyond the 48 bits. -/
theorem createMacString_valid (num : Nat) : isValidMac (createMacString num) = true := by
  have digits := @upper_pairDigit num
  obtain ⟨a, b, c, d, e, f, g, h, i, j, k, l, rest, split⟩ := exists_twelve (padded_length num)
  rw [createMacString, split]
  rw [split] at digits
  have colon : Char.toUpper ':' = ':' := by decide
  simp only [List.forall_mem_cons, Bool.and_eq_true, pairsOf, List.map_cons, List.map_nil,
    List.drop_succ_cons, List.drop_zero, List.take_succ_cons, List.take_zero, List.intercalate,
    List.intersperse, List.flatten_cons, List.flatten_nil, List.cons_append, List.nil_append,
    List.append_nil, isValidMac, matchesPairs, colon] at digits ⊢
  simp only [digits, and_self]

theorem androidIdOf_eq (mac : Nat) : androidIdOf mac = ((padded mac).take 12).map Char.toUpper := by
  have digits := @upper_pairDigit mac
  obtain ⟨a, b, c, d, e, f, g, h, i, j, k, l, rest, split⟩ := exists_twelve (padded_length mac)
  rw [androidIdOf, createMacString, split]
  rw [split] at digits
  have colon : Char.toUpper ':' = ':' := by decide
  simp only [List.forall_mem_cons, pairsOf, List.map_cons, List.map_nil, List.drop_succ_cons,
    List.drop_zero, List.take_succ_cons, List.take_zero, List.intercalate, List.intersperse,
    List.flatten_cons, List.flatten_nil, List.cons_append, List.nil_append, List.append_nil,
    colon] at digits ⊢
  simp [digits]

theorem androidIdOf_length (mac : Nat) : (androidIdOf mac).length = 12 := by
  rw [androidIdOf_eq, List.length_map, List.length_take]
  exact Nat.min_eq_left (padded_length mac)

/-- The id of a MAC address reads back as the address. -/
theorem ofHex_androidIdOf (small : num < 2 ^ 48) : ofHex (androidIdOf num) = some num := by
  rw [androidIdOf_eq, List.take_of_length_le (padded_length_eq small).le, padded, List.map_append,
    List.map_replicate, ofHex, Numeral.parse_append, Numeral.parse_zeros (by decide), Option.bind_some]
  exact Numeral.parse_toDigits (by decide) hexValue_upper num

end Mac

/-- `[a-z0-9]`. -/
def isIdCharacter (character : Char) : Bool :=
  ('a' ≤ character && character ≤ 'z') || ('0' ≤ character && character ≤ '9')

/-- `^[a-z0-9]*$`, whose end also matches in front of a last line break. -/
def matchesId (deviceId : List Char) : Bool :=
  deviceId.all isIdCharacter ||
    (deviceId.getLast? = some '\n' && deviceId.dropLast.all isIdCharacter)

/-- The device id as `get_stream_url` sends it. -/
def streamDevice (deviceId : List Char) : Except Raised (List Char) :=
  if deviceId.length = 16 && matchesId deviceId then do
    let value ← intBase16 deviceId
    pure (toString value).toList
  else .ok deviceId

def isLowerHex (character : Char) : Bool :=
  ('0' ≤ character && character ≤ '9') || ('a' ≤ character && character ≤ 'f')

section Device

variable {deviceId body other : List Char}

theorem idCharacter_bounds {character : Char} (inside : isIdCharacter character = true) :
    48 ≤ character.toNat ∧ character.toNat ≤ 122 ∧ (character.toNat ≤ 57 ∨ 97 ≤ character.toNat) := by
  simp only [isIdCharacter, Bool.or_eq_true, Bool.and_eq_true, decide_eq_true_eq] at inside
  rcases inside with ⟨least, most⟩ | ⟨least, most⟩
  · have low : 97 ≤ character.toNat := least
    have high : character.toNat ≤ 122 := most
    omega
  · have low : 48 ≤ character.toNat := least
    have high : character.toNat ≤ 57 := most
    omega

theorem idCharacter_not_whitespace {character : Char} (inside : isIdCharacter character = true) :
    character.isWhitespace = false := by
  obtain ⟨least, _, _⟩ := idCharacter_bounds inside
  have differs : ∀ space : Char, space.toNat < 48 → character ≠ space := by
    rintro space small rfl
    omega
  simp [Char.isWhitespace, differs]

theorem dropWhile_of_none {test : Char → Bool} {text : List Char}
    (none : ∀ character ∈ text, test character = false) : text.dropWhile test = text := by
  cases text with
  | nil => rfl
  | cons character text => rw [List.dropWhile_cons_of_neg (by simp [none character List.mem_cons_self])]

/-- An id of sixteen characters is trimmed to what stands in front of its line break. -/
theorem strip_id {last : List Char} (inside : ∀ character ∈ body, isIdCharacter character = true)
    (ends : last = [] ∨ last = ['\n']) : strip (body ++ last) = body := by
  rw [strip]
  have solid : ∀ character ∈ body, character.isWhitespace = false :=
    fun character member => idCharacter_not_whitespace (inside character member)
  have backward : body.reverse.dropWhile Char.isWhitespace = body.reverse :=
    dropWhile_of_none fun character member => solid character (List.mem_reverse.mp member)
  cases body with
  | nil => rcases ends with rfl | rfl <;> decide
  | cons first rest =>
      have forward : ((first :: rest) ++ last).dropWhile Char.isWhitespace = (first :: rest) ++ last := by
        rw [List.cons_append, List.dropWhile_cons_of_neg (by simp [solid first List.mem_cons_self])]
      rw [forward, List.reverse_append]
      rcases ends with rfl | rfl
      · rw [List.reverse_nil, List.nil_append, backward, List.reverse_reverse]
      · have space : Char.isWhitespace '\n' = true := by decide
        rw [List.reverse_singleton, List.singleton_append, List.dropWhile_cons_of_pos space, backward,
          List.reverse_reverse]

theorem intBase16_id {last : List Char} (inside : ∀ character ∈ body, isIdCharacter character = true)
    (ends : last = [] ∨ last = ['\n']) :
    intBase16 (body ++ last) = hexNumeral (unprefixed body) >>= fun value => pure (value : Int) := by
  rw [intBase16, strip_id inside ends]
  split
  · exact absurd (inside '-' List.mem_cons_self) (by decide)
  · exact absurd (inside '+' List.mem_cons_self) (by decide)
  · rfl

/-- An id of another length, or with another character in it, goes out as it is. -/
theorem streamDevice_other (other : ¬ (deviceId.length = 16 ∧ matchesId deviceId = true)) :
    streamDevice deviceId = .ok deviceId := by
  rw [streamDevice, if_neg (by simpa using other)]

theorem matchesId_iff : matchesId deviceId = true ↔ ∃ body last, deviceId = body ++ last ∧
    (∀ character ∈ body, isIdCharacter character = true) ∧ (last = [] ∨ last = ['\n']) := by
  simp only [matchesId, Bool.or_eq_true, Bool.and_eq_true, List.all_eq_true, decide_eq_true_eq]
  constructor
  · rintro (inside | ⟨ends, inside⟩)
    · exact ⟨deviceId, [], (List.append_nil _).symm, inside, Or.inl rfl⟩
    · refine ⟨deviceId.dropLast, ['\n'], ?_, inside, Or.inr rfl⟩
      exact (List.dropLast_append_getLast? _ ends).symm
  · rintro ⟨body, last, rfl, inside, rfl | rfl⟩
    · rw [List.append_nil]
      exact Or.inl inside
    · refine Or.inr ⟨by simp, ?_⟩
      rw [List.dropLast_concat]
      exact inside

/-- An id of sixteen characters is sent as the decimal numeral of its value, and refused
when it is no numeral of base sixteen. -/
theorem streamDevice_id {last : List Char} (inside : ∀ character ∈ body, isIdCharacter character = true)
    (ends : last = [] ∨ last = ['\n']) (length : (body ++ last).length = 16) :
    streamDevice (body ++ last) =
      match ofHex (unprefixed body) with
      | some value => .ok (Nat.toDigits 10 value)
      | none => .error .valueError := by
  have matched : matchesId (body ++ last) = true := matchesId_iff.mpr ⟨body, last, rfl, inside, ends⟩
  have long : unprefixed body ≠ [] := by
    have size : 15 ≤ body.length := by
      rcases ends with rfl | rfl <;> simp at length <;> omega
    unfold unprefixed
    split <;> rintro rfl <;> simp at size
  have numeral : hexNumeral (unprefixed body) = match ofHex (unprefixed body) with
      | some value => .ok value
      | none => .error .valueError := if_neg long
  rw [streamDevice, if_pos (by simp [matched, length]), intBase16_id inside ends, numeral]
  cases ofHex (unprefixed body) with
  | none => rfl
  | some value => exact congrArg Except.ok Nat.toList_repr

theorem lowerHex_idCharacter {character : Char} (digit : isLowerHex character = true) :
    isIdCharacter character = true := by
  simp only [isLowerHex, isIdCharacter, Bool.or_eq_true, Bool.and_eq_true, decide_eq_true_eq] at digit ⊢
  rcases digit with number | ⟨least, most⟩
  · exact Or.inr number
  · exact Or.inl ⟨least, le_trans most (by decide)⟩

theorem hexValue_lowerHex {character : Char} (digit : isLowerHex character = true) :
    hexValue character = some (if character.toNat ≤ 57 then character.toNat - 48
      else character.toNat - 87) := by
  simp only [isLowerHex, Bool.or_eq_true, Bool.and_eq_true, decide_eq_true_eq] at digit
  rcases digit with number | letter
  · have most : character.toNat ≤ 57 := number.2
    rw [hexValue, if_pos number, if_pos most]
    rfl
  · have least : 97 ≤ character.toNat := letter.1
    have other : ¬ ('0' ≤ character ∧ character ≤ '9') := by
      rintro ⟨_, most⟩
      have small : character.toNat ≤ 57 := most
      omega
    have big : ¬ character.toNat ≤ 57 := by omega
    have value : character.toNat - 'a'.toNat + 10 = character.toNat - 87 := by
      change character.toNat - 97 + 10 = _
      omega
    rw [hexValue, if_neg other, if_pos letter, if_neg big, value]

theorem hexValue_lt {character : Char} {value : Nat} (read : hexValue character = some value) :
    value < 16 := by
  unfold hexValue at read
  split at read
  · rename_i range
    have most : character.toNat ≤ 57 := range.2
    cases read
    change character.toNat - 48 < 16
    omega
  · split at read
    · rename_i range
      have most : character.toNat ≤ 102 := range.2
      cases read
      change character.toNat - 97 + 10 < 16
      omega
    · split at read
      · rename_i range
        have most : character.toNat ≤ 70 := range.2
        cases read
        change character.toNat - 65 + 10 < 16
        omega
      · cases read

theorem hexValue_lower_injective {left right : Char} (first : isLowerHex left = true)
    (second : isLowerHex right = true) (same : hexValue left = hexValue right) : left = right := by
  rw [hexValue_lowerHex first, hexValue_lowerHex second, Option.some.injEq] at same
  have low := idCharacter_bounds (lowerHex_idCharacter first)
  have high := idCharacter_bounds (lowerHex_idCharacter second)
  apply Char.toNat_inj.mp
  split at same <;> split at same <;> omega

theorem ofHex_lower (digits : ∀ character ∈ body, isLowerHex character = true) :
    ∃ value, ofHex body = some value :=
  Option.isSome_iff_exists.mp (Numeral.parse_isSome_iff.mpr fun character member => by
    rw [hexValue_lowerHex (digits character member)]
    rfl)

theorem unprefixed_lower (digits : ∀ character ∈ body, isLowerHex character = true) :
    unprefixed body = body := by
  unfold unprefixed
  split
  · exact absurd (digits 'x' (by simp)) (by decide)
  · exact absurd (digits 'X' (by simp)) (by decide)
  · rfl

theorem streamDevice_lower (length : deviceId.length = 16)
    (digits : ∀ character ∈ deviceId, isLowerHex character = true) :
    ∃ value, ofHex deviceId = some value ∧ streamDevice deviceId = .ok (Nat.toDigits 10 value) := by
  obtain ⟨value, read⟩ := ofHex_lower digits
  have sent := streamDevice_id (fun character member => lowerHex_idCharacter (digits character member))
    (Or.inl rfl) (by rwa [List.append_nil] : (deviceId ++ []).length = 16)
  rw [List.append_nil, unprefixed_lower digits, read] at sent
  exact ⟨value, read, sent⟩

/-- Sixteen hexadecimal digits go out as a decimal numeral below `2 ^ 64`, and no two ids as
the same one. -/
theorem streamDevice_injective (length : deviceId.length = 16) (same : other.length = 16)
    (digits : ∀ character ∈ deviceId, isLowerHex character = true)
    (letters : ∀ character ∈ other, isLowerHex character = true) :
    (∃ value < 2 ^ 64, ofHex deviceId = some value ∧
      streamDevice deviceId = .ok (Nat.toDigits 10 value)) ∧
    (streamDevice deviceId = streamDevice other → deviceId = other) := by
  obtain ⟨value, read, sent⟩ := streamDevice_lower length digits
  obtain ⟨second, found, posted⟩ := streamDevice_lower same letters
  have small := Numeral.parse_lt (fun _ _ => hexValue_lt) read
  rw [length] at small
  refine ⟨⟨value, by simpa using small, read, sent⟩, fun alike => ?_⟩
  rw [sent, posted, Except.ok.injEq] at alike
  have equal := congrArg (Nat.ofDigitChars 10 · 0) alike
  simp only [Nat.ofDigitChars_ten_toDigits] at equal
  subst equal
  have injective := Numeral.parse_injective (fun _ _ => hexValue_lt)
    (fun left inside right member => hexValue_lower_injective (digits left inside) (letters right member))
    (length.trans same.symm) read found
  exact injective.2

theorem streamDevice_of_ids :
    (∃ value < 2 ^ 64, ofHex (List.replicate 16 'a') = some value ∧
      streamDevice (List.replicate 16 'a') = .ok (Nat.toDigits 10 value)) ∧
    (streamDevice (List.replicate 16 'a') = streamDevice (List.replicate 16 '7') →
      List.replicate 16 'a' = List.replicate 16 '7') :=
  streamDevice_injective rfl rfl
    (fun _ member => by rw [List.eq_of_mem_replicate member]; decide)
    (fun _ member => by rw [List.eq_of_mem_replicate member]; decide)

/-- The id of a machine has twelve digits, so that it is sent as it is. -/
theorem streamDevice_androidIdOf (mac : Nat) : streamDevice (androidIdOf mac) = .ok (androidIdOf mac) :=
  streamDevice_other fun sixteen => absurd sixteen.1 (by rw [androidIdOf_length]; decide)

/-- A MAC address is written as a valid one, and the id made from it names the machine to
every request: it reads back as the address and goes out as it is. -/
theorem androidIdOf_identifies {mac : Nat} (small : mac < 2 ^ 48) :
    isValidMac (createMacString mac) = true ∧ (androidIdOf mac).length = 12 ∧
      ofHex (androidIdOf mac) = some mac ∧ streamDevice (androidIdOf mac) = .ok (androidIdOf mac) :=
  ⟨createMacString_valid mac, androidIdOf_length mac, ofHex_androidIdOf small, streamDevice_androidIdOf mac⟩

theorem androidIdOf_small :
    isValidMac (createMacString 0xa1f2e3d4c) = true ∧ (androidIdOf 0xa1f2e3d4c).length = 12 ∧
      ofHex (androidIdOf 0xa1f2e3d4c) = some 0xa1f2e3d4c ∧
      streamDevice (androidIdOf 0xa1f2e3d4c) = .ok (androidIdOf 0xa1f2e3d4c) :=
  androidIdOf_identifies (by decide)

end Device

end GoogleMusic
