import Mathlib.Data.List.Basic

/-! Decoding of bytes as UTF-8, strictly or with replacement characters, as the inverse of encoding. -/

namespace StockMarket.Utf8

/-- A character under way: the bytes that it needs, the range of the next one, and its bits. -/
structure Pending where
  needed : Nat
  lowest : Nat
  highest : Nat
  bits : Nat

/-- The first byte of a character, which may be the whole of it, or be none at all. -/
def begin (byte : Nat) : List (Option Char) × Option Pending :=
  if byte < 0x80 then ([some (Char.ofNat byte)], none)
  else if 0xC2 ≤ byte ∧ byte ≤ 0xDF then ([], some ⟨1, 0x80, 0xBF, byte - 0xC0⟩)
  else if byte = 0xE0 then ([], some ⟨2, 0xA0, 0xBF, 0⟩)
  else if byte = 0xED then ([], some ⟨2, 0x80, 0x9F, 0xD⟩)
  else if 0xE1 ≤ byte ∧ byte ≤ 0xEF then ([], some ⟨2, 0x80, 0xBF, byte - 0xE0⟩)
  else if byte = 0xF0 then ([], some ⟨3, 0x90, 0xBF, 0⟩)
  else if 0xF1 ≤ byte ∧ byte ≤ 0xF3 then ([], some ⟨3, 0x80, 0xBF, byte - 0xF0⟩)
  else if byte = 0xF4 then ([], some ⟨3, 0x80, 0x8F, 4⟩)
  else ([none], none)

/-- A byte that does not fit ends the character under way, and begins another one. -/
def step : Option Pending → Nat → List (Option Char) × Option Pending
  | none, byte => begin byte
  | some pending, byte =>
    if pending.lowest ≤ byte ∧ byte ≤ pending.highest then
      let bits := pending.bits * 64 + (byte - 0x80)
      if pending.needed = 1 then ([some (Char.ofNat bits)], none)
      else ([], some ⟨pending.needed - 1, 0x80, 0xBF, bits⟩)
    else (none :: (begin byte).1, (begin byte).2)

/-- The characters of the bytes, with nothing for each part that cannot be decoded. -/
def decodeFrom : Option Pending → List UInt8 → List (Option Char)
  | none, [] => []
  | some _, [] => [none]
  | state, byte :: rest =>
    (step state byte.toNat).1 ++ decodeFrom (step state byte.toNat).2 rest

/-- The characters that bytes stand for; nothing stands for bytes that are none. -/
def decode (bytes : List UInt8) : List (Option Char) := decodeFrom none bytes

/-- The text of the bytes, if all of them can be decoded. -/
def strict? (bytes : List UInt8) : Option (List Char) := (decode bytes).mapM id

/-- The text of the bytes, with a replacement character for what cannot be decoded. -/
def replacing (bytes : List UInt8) : List Char :=
  (decode bytes).map fun character => character.getD '\uFFFD'

/-- A byte within its range ends a character that needs no further one. -/
theorem decodeFrom_last {lowest highest bits byte : Nat} (rest : List UInt8) (small : byte < 256)
    (range : lowest ≤ byte ∧ byte ≤ highest) :
    decodeFrom (some ⟨1, lowest, highest, bits⟩) (UInt8.ofNat byte :: rest) =
      some (Char.ofNat (bits * 64 + (byte - 0x80))) :: decodeFrom none rest := by
  have same : (UInt8.ofNat byte).toNat = byte := Nat.mod_eq_of_lt small
  rw [decodeFrom, step, same, if_pos range]
  rfl

/-- A byte within its range leaves a character that needs more with one byte less to come. -/
theorem decodeFrom_more {needed lowest highest bits byte : Nat} (rest : List UInt8)
    (small : byte < 256) (range : lowest ≤ byte ∧ byte ≤ highest) :
    decodeFrom (some ⟨needed + 2, lowest, highest, bits⟩) (UInt8.ofNat byte :: rest) =
      decodeFrom (some ⟨needed + 1, 0x80, 0xBF, bits * 64 + (byte - 0x80)⟩) rest := by
  have same : (UInt8.ofNat byte).toNat = byte := Nat.mod_eq_of_lt small
  rw [decodeFrom, step, same, if_pos range]
  simp

/-- The first byte of a character is handled without one under way. -/
theorem decodeFrom_begin {byte : Nat} (rest : List UInt8) (small : byte < 256) :
    decodeFrom none (UInt8.ofNat byte :: rest) =
      (begin byte).1 ++ decodeFrom (begin byte).2 rest := by
  have same : (UInt8.ofNat byte).toNat = byte := Nat.mod_eq_of_lt small
  rw [decodeFrom, step, same]

/-- What follows the first byte of a character of three bytes. -/
theorem begin_three {value : Nat} (least : 0x800 ≤ value) (most : value ≤ 0xFFFF)
    (scalar : value < 0xD800 ∨ 0xDFFF < value) : ∃ lowest highest,
      begin (value / 4096 % 16 + 0xE0) = ([], some ⟨2, lowest, highest, value / 4096⟩) ∧
      lowest ≤ value / 64 % 64 + 0x80 ∧ value / 64 % 64 + 0x80 ≤ highest := by
  have high : value / 4096 % 16 = value / 4096 := Nat.mod_eq_of_lt (by omega)
  rw [high]
  -- The shortest form is required, and the halves of surrogate pairs are no characters.
  by_cases first : value / 4096 = 0
  · refine ⟨0xA0, 0xBF, by rw [first]; rfl, by omega, by omega⟩
  · by_cases surrogate : value / 4096 = 0xD
    · refine ⟨0x80, 0x9F, by rw [surrogate]; rfl, by omega, by omega⟩
    · refine ⟨0x80, 0xBF, ?_, by omega, by omega⟩
      unfold begin
      rw [if_neg (by omega), if_neg (by omega), if_neg (by omega), if_neg (by omega),
        if_pos (by omega), Nat.add_sub_cancel]

/-- What follows the first byte of a character of four bytes. -/
theorem begin_four {value : Nat} (least : 0x10000 ≤ value) (most : value < 0x110000) :
    ∃ lowest highest,
      begin (value / 262144 % 8 + 0xF0) = ([], some ⟨3, lowest, highest, value / 262144⟩) ∧
      lowest ≤ value / 4096 % 64 + 0x80 ∧ value / 4096 % 64 + 0x80 ≤ highest := by
  have high : value / 262144 % 8 = value / 262144 := Nat.mod_eq_of_lt (by omega)
  rw [high]
  -- The shortest form is required, and nothing lies above the last character.
  by_cases first : value / 262144 = 0
  · refine ⟨0x90, 0xBF, by rw [first]; rfl, by omega, by omega⟩
  · by_cases last : value / 262144 = 4
    · refine ⟨0x80, 0x8F, by rw [last]; rfl, by omega, by omega⟩
    · refine ⟨0x80, 0xBF, ?_, by omega, by omega⟩
      unfold begin
      rw [if_neg (by omega), if_neg (by omega), if_neg (by omega), if_neg (by omega),
        if_neg (by omega), if_neg (by omega), if_pos (by omega), Nat.add_sub_cancel]

/-- The bytes of a character are decoded to it. -/
theorem decodeFrom_encodeChar (c : Char) (rest : List UInt8) :
    decodeFrom none (String.utf8EncodeChar c ++ rest) = some c :: decodeFrom none rest := by
  have own : Char.ofNat c.toNat = c := Char.ofNat_toNat c
  have valid : c.toNat < 0xD800 ∨ 0xDFFF < c.toNat ∧ c.toNat < 0x110000 := c.valid
  simp only [String.utf8EncodeChar, Char.toNat_val]
  -- A character has one to four bytes, by its number.
  split_ifs with one two three
  · rw [List.singleton_append, decodeFrom_begin rest (by omega), begin, if_pos (by omega)]
    rw [own]
    rfl
  · have high : c.toNat / 64 % 32 = c.toNat / 64 := Nat.mod_eq_of_lt (by omega)
    have start : begin (c.toNat / 64 % 32 + 192) = ([], some ⟨1, 0x80, 0xBF, c.toNat / 64⟩) := by
      unfold begin
      rw [high, if_neg (by omega), if_pos (by omega), Nat.add_sub_cancel]
    rw [List.cons_append, decodeFrom_begin _ (by omega), start, List.nil_append,
      List.singleton_append, decodeFrom_last rest (by omega) (by omega), Nat.add_sub_cancel,
      Nat.div_add_mod', own]
  · -- The second byte of three has its own range, which excludes surrogates.
    obtain ⟨lowest, highest, start, range⟩ := begin_three (by omega) three (by omega)
    rw [List.cons_append, decodeFrom_begin _ (by omega), start, List.nil_append, List.cons_append,
      decodeFrom_more _ (by omega) range, List.singleton_append,
      decodeFrom_last rest (by omega) (by omega), Nat.add_sub_cancel, Nat.add_sub_cancel]
    have whole : (c.toNat / 4096 * 64 + c.toNat / 64 % 64) * 64 + c.toNat % 64 = c.toNat := by omega
    rw [whole, own]
  · obtain ⟨lowest, highest, start, range⟩ :=
      begin_four (show 0x10000 ≤ c.toNat by omega) (by omega)
    rw [List.cons_append, decodeFrom_begin _ (by omega), start, List.nil_append, List.cons_append,
      decodeFrom_more _ (by omega) range, List.cons_append,
      decodeFrom_more _ (by omega) (by omega), List.singleton_append,
      decodeFrom_last rest (by omega) (by omega), Nat.add_sub_cancel, Nat.add_sub_cancel,
      Nat.add_sub_cancel]
    have whole : ((c.toNat / 262144 * 64 + c.toNat / 4096 % 64) * 64 + c.toNat / 64 % 64) * 64 +
        c.toNat % 64 = c.toNat := by omega
    rw [whole, own]

/-- The bytes of a text are decoded to it. -/
theorem strict?_encode (text : List Char) :
    strict? (text.flatMap String.utf8EncodeChar) = some text := by
  -- Each character is decoded from its own bytes, and none is missing.
  have decoded : decode (text.flatMap String.utf8EncodeChar) = text.map some := by
    unfold decode
    induction text with
    | nil => rfl
    | cons c later ih => rw [List.flatMap_cons, decodeFrom_encodeChar, ih, List.map_cons]
  rw [strict?, decoded, List.mapM_map]
  exact List.mapM_pure.trans (congrArg some (List.map_id text))

/-- What decodes without a failure is decoded character by character. -/
theorem decode_of_strict? {bytes : List UInt8} {text : List Char}
    (decoded : strict? bytes = some text) : decode bytes = text.map some := by
  -- Decoding is strict where no replacement was needed.
  have each : ∀ (found : List (Option Char)) (text : List Char), found.mapM id = some text →
      found = text.map some := by
    intro found
    induction found with
    | nil =>
      rintro text ⟨⟩
      rfl
    | cons first later ih =>
      intro text all
      rw [List.mapM_cons] at all
      cases first with
      | none => cases all
      | some c =>
        -- A replacement anywhere makes the strict reading fail.
        cases read : later.mapM id with
        | none =>
          rw [read] at all
          cases all
        | some rest =>
          rw [read] at all
          cases all
          rw [ih rest read, List.map_cons]
  exact each (decode bytes) text decoded

/-- The bytes of a text are decoded to it, without a replacement. -/
theorem replacing_encode (text : List Char) :
    replacing (text.flatMap String.utf8EncodeChar) = text := by
  rw [replacing, decode_of_strict? (strict?_encode text), List.map_map]
  exact List.map_id text

end StockMarket.Utf8
