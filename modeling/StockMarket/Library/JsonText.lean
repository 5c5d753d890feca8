import StockMarket.Library.Decimal
import StockMarket.Library.Json

/-! Values of JSON written as text, and read back from it. -/

namespace StockMarket.Json

/--
A manner of writing: whether blanks follow separators, which characters are written by their
numbers beyond those that have to be, and how numbers with a fraction are written.
-/
structure Style where
  spaced : Bool
  escapes : Nat → Bool
  writeFloat : Floating → List Char

/-- A character by its number, in four hexadecimal digits. -/
def writeUnit (unit : Nat) : List Char := '\\' :: 'u' :: hexDigits unit 4

/-- The units that stand for a character: itself, or the two halves of a surrogate pair. -/
def unitsOf (point : Nat) : List Nat :=
  if point < 0x10000 then [point]
  else [0xD800 + (point - 0x10000) / 0x400, 0xDC00 + (point - 0x10000) % 0x400]

/-- A character within a text; quotes, backslashes, and control characters are escaped. -/
def writePoint (style : Style) (point : Nat) : List Char :=
  if point = 0x22 then ['\\', '"']
  else if point = 0x5C then ['\\', '\\']
  else if point = 0xA then ['\\', 'n']
  else if point = 0xD then ['\\', 'r']
  else if point = 9 then ['\\', 't']
  else if point = 0xC then ['\\', 'f']
  else if point = 8 then ['\\', 'b']
  else if point < 0x20 ∨ style.escapes point then (unitsOf point).flatMap writeUnit
  else [Char.ofNat point]

/-- A text between quotes. -/
def writeText (style : Style) (text : CodePoints) : List Char :=
  '"' :: text.flatMap (writePoint style) ++ ['"']

/-- What stands between items. -/
def itemSeparator (style : Style) : List Char := if style.spaced then [',', ' '] else [',']

/-- What stands between a key and its value. -/
def keySeparator (style : Style) : List Char := if style.spaced then [':', ' '] else [':']

mutual

/-- A value as text. -/
def write (style : Style) : Json → List Char
  | .null => ['n', 'u', 'l', 'l']
  | .bool true => ['t', 'r', 'u', 'e']
  | .bool false => ['f', 'a', 'l', 's', 'e']
  | .integer value => integerDigits value
  | .float value => style.writeFloat value
  | .text value => writeText style value
  | .array [] => ['[', ']']
  | .array (item :: items) => '[' :: write style item ++ writeItems style items
  | .object [] => ['\x7b', '\x7d']
  | .object ((key, value) :: fields) =>
    '\x7b' :: writeText style key ++ keySeparator style ++ write style value ++
      writeFields style fields

/-- The items behind the first one, and the end of the array. -/
def writeItems (style : Style) : List Json → List Char
  | [] => [']']
  | item :: items => itemSeparator style ++ write style item ++ writeItems style items

/-- The fields behind the first one, and the end of the object. -/
def writeFields (style : Style) : List (CodePoints × Json) → List Char
  | [] => ['\x7d']
  | (key, value) :: fields =>
    itemSeparator style ++ writeText style key ++ keySeparator style ++ write style value ++
      writeFields style fields

end

section Tokens

variable {style : Style} {token : JsonToken}

/-- Characters that have been taken are dropped. -/
theorem tokensFrom_eq_drop (text : List Char) : ∀ taken, tokensFrom taken text =
    tokens (text.drop taken) := by
  -- Each character that is taken is skipped.
  induction text with
  | nil =>
    intro taken
    cases taken <;> rfl
  | cons c text ih =>
    intro taken
    cases taken with
    | zero => rfl
    | succ taken => exact ih taken

/-- A token that is scanned at the beginning comes before those of the rest. -/
theorem tokens_append (written : List Char) {rest : List Char}
    (scanned : scanToken (written ++ rest) = (token, written.length))
    (solid : ∃ c later, written = c :: later ∧ isBlankCharacter c = false) :
    tokens (written ++ rest) = token :: tokens rest := by
  obtain ⟨c, later, rfl, solid⟩ := solid
  rw [List.cons_append] at scanned ⊢
  -- The beginning is scanned at once, and what it takes is skipped.
  have scan : tokens (c :: (later ++ rest)) = (scanToken (c :: (later ++ rest))).1 ::
      tokensFrom ((scanToken (c :: (later ++ rest))).2 - 1) (later ++ rest) := by
    rw [tokens, tokensFrom, if_neg (by rw [solid]; exact Bool.false_ne_true)]
  rw [scan, scanned, tokensFrom_eq_drop, List.length_cons, Nat.add_sub_cancel, List.drop_left]

/-- Blanks between tokens are skipped. -/
theorem tokens_blank (rest : List Char) : tokens (' ' :: rest) = tokens rest := rfl

/-- A bracket opens an array. -/
theorem tokens_openArray (rest : List Char) : tokens ('[' :: rest) = .openArray :: tokens rest :=
  tokens_append ['['] rfl ⟨_, _, rfl, rfl⟩

/-- A bracket closes an array. -/
theorem tokens_closeArray (rest : List Char) : tokens (']' :: rest) = .closeArray :: tokens rest :=
  tokens_append [']'] rfl ⟨_, _, rfl, rfl⟩

/-- A brace opens an object. -/
theorem tokens_openObject (rest : List Char) :
    tokens ('\x7b' :: rest) = .openObject :: tokens rest :=
  tokens_append ['\x7b'] rfl ⟨_, _, rfl, rfl⟩

/-- The text of nothing is a token. -/
theorem tokens_null (rest : List Char) :
    tokens (['n', 'u', 'l', 'l'] ++ rest) = .null :: tokens rest :=
  tokens_append ['n', 'u', 'l', 'l'] rfl ⟨_, _, rfl, rfl⟩

/-- The text of a truth value is a token. -/
theorem tokens_bool (style : Style) (value : Bool) (rest : List Char) :
    tokens (write style (.bool value) ++ rest) = .bool value :: tokens rest := by
  cases value with
  | true => exact tokens_append ['t', 'r', 'u', 'e'] rfl ⟨_, _, rfl, rfl⟩
  | false => exact tokens_append ['f', 'a', 'l', 's', 'e'] rfl ⟨_, _, rfl, rfl⟩

/-- What stands between items is a comma. -/
theorem tokens_itemSeparator (style : Style) (rest : List Char) :
    tokens (itemSeparator style ++ rest) = .comma :: tokens rest := by
  -- A blank may follow the comma, which is no token.
  unfold itemSeparator
  split
  · exact (tokens_append [','] rfl ⟨_, _, rfl, rfl⟩).trans
      (congrArg _ (tokens_blank rest))
  · exact tokens_append [','] rfl ⟨_, _, rfl, rfl⟩

end Tokens

/-- Four digits stand for the unit that they were written for. -/
theorem hexUnit_hexDigits {unit : Nat} (small : unit < 0x10000) :
    hexUnit (hexDigits unit 4) = some unit := by
  -- Each digit is read back, and four of them are enough.
  have each : ∀ digit < 16, isHexDigit ("0123456789abcdef".toList.getD digit '0') = true ∧
      hexValue ("0123456789abcdef".toList.getD digit '0') = digit := by decide
  have bound (number : Nat) : number % 16 < 16 := Nat.mod_lt _ (by decide)
  simp only [hexDigits, List.nil_append, List.cons_append, hexUnit, List.all_cons, List.all_nil,
    List.foldl_cons, List.foldl_nil, each _ (bound _)]
  simp only [Bool.and_self, if_true, Option.some.injEq]
  omega

section Texts

variable {style : Style} {text : CodePoints} {point : Nat}

/-- The number of a character, which no half of a surrogate pair is. -/
def IsScalar (point : Nat) : Prop := point < 0xD800 ∨ 0xDFFF < point ∧ point < 0x110000

/-- The units that are read for a character that was written. -/
def unitsRead (style : Style) (point : Nat) : List Nat :=
  if style.escapes point then unitsOf point else [point]

/-- The characters of a string are none of them halves of surrogate pairs. -/
theorem isScalar_of_mem_codePoints {string : String} (member : point ∈ codePoints string) :
    IsScalar point := by
  obtain ⟨c, _, rfl⟩ := List.mem_map.mp member
  exact c.valid

/-- A scalar value has its own number. -/
theorem toNat_ofNat (scalar : IsScalar point) : (Char.ofNat point).toNat = point := by
  have valid : point.isValidChar := scalar
  rw [Char.ofNat, dif_pos valid]
  rfl

/-- A unit that was written by its number is scanned. -/
theorem scanText_writeUnit {unit : Nat} (small : unit < 0x10000) (rest : List Char) :
    scanText (writeUnit unit ++ rest) =
      (scanText rest).map fun (units, length) => (unit :: units, length + 6) := by
  have digits := hexUnit_hexDigits small
  simp only [hexDigits, List.nil_append, List.cons_append] at digits
  simp only [writeUnit, hexDigits, List.nil_append, List.cons_append, scanText, digits]
  cases scanText rest <;> rfl

/-- A character that is written as it is, is scanned. -/
theorem scanText_plain (scalar : IsScalar point) (large : 0x20 ≤ point) (quote : point ≠ 0x22)
    (backslash : point ≠ 0x5C) (rest : List Char) : scanText (Char.ofNat point :: rest) =
      (scanText rest).map fun (units, length) => (point :: units, length + 1) := by
  -- A character that needs no escape is taken as it is.
  have same : (Char.ofNat point).toNat = point := toNat_ofNat scalar
  have quote' : Char.ofNat point ≠ '"' := fun equal => quote (same ▸ congrArg Char.toNat equal)
  have backslash' : Char.ofNat point ≠ '\\' :=
    fun equal => backslash (same ▸ congrArg Char.toNat equal)
  have high : ¬(Char.ofNat point).toNat < 0x20 := by omega
  rw [scanText]
  · rw [if_neg high, same]
    cases scanText rest <;> rfl
  · exact quote'
  · intro _ _ _ _ _ equal
    exact absurd equal backslash'
  · intro _ _ equal
    exact absurd equal backslash'

/-- What is scanned before the rest of a text. -/
def scannedBefore (units : List Nat) (length : Nat) :
    Option (List Nat × Nat) → Option (List Nat × Nat) :=
  Option.map fun scanned => (units ++ scanned.1, scanned.2 + length)

/-- A character that was written is scanned as the units that stand for it. -/
theorem scanText_writePoint (scalar : IsScalar point) (rest : List Char) :
    scanText (writePoint style point ++ rest) =
      scannedBefore (unitsRead style point) (writePoint style point).length (scanText rest) := by
  -- A character below the surrogates is its only unit.
  have single (small : point < 0x10000) : unitsRead style point = [point] := by
    unfold unitsRead unitsOf
    split_ifs <;> rfl
  -- An escape of two characters stands for one character.
  have escaped {letter : Char} (small : point < 0x10000) (other : letter ≠ 'u')
      (found : escapes.lookup letter = some point) :
      scanText ('\\' :: letter :: rest) =
        scannedBefore (unitsRead style point) 2 (scanText rest) := by
    rw [single small, scanText]
    · rw [found]
      cases scanText rest <;> rfl
    · intro _ _ _ _ _ equal
      exact absurd equal other
  unfold writePoint
  split_ifs with quote backslash newline back tab feed erase control
  · exact escaped (by omega) (by decide) (by rw [quote]; rfl)
  · exact escaped (by omega) (by decide) (by rw [backslash]; rfl)
  · exact escaped (by omega) (by decide) (by rw [newline]; rfl)
  · exact escaped (by omega) (by decide) (by rw [back]; rfl)
  · exact escaped (by omega) (by decide) (by rw [tab]; rfl)
  · exact escaped (by omega) (by decide) (by rw [feed]; rfl)
  · exact escaped (by omega) (by decide) (by rw [erase]; rfl)
  · -- A character by its number is one unit, or the two halves of a surrogate pair.
    by_cases small : point < 0x10000
    · rw [single small, unitsOf, if_pos small, List.flatMap_cons, List.flatMap_nil,
        List.append_nil, scanText_writeUnit small]
      cases scanText rest <;> rfl
    · have bound : point < 0x110000 := by
        rcases scalar with low | ⟨_, high⟩ <;> omega
      have far : style.escapes point = true := by
        rcases control with low | far
        · omega
        · exact far
      rw [unitsRead, if_pos far, unitsOf, if_neg small]
      simp only [List.flatMap_cons, List.flatMap_nil, List.append_nil, List.append_assoc]
      rw [scanText_writeUnit (by omega), scanText_writeUnit (by omega)]
      cases scanText rest <;> rfl
  · -- Any other character stands for itself.
    have own : unitsRead style point = [point] := by
      rw [unitsRead, if_neg fun far => control (.inr far)]
    rw [own, List.singleton_append, scanText_plain scalar (by omega) quote backslash]
    cases scanText rest <;> rfl

/-- The units of a text, up to its closing quote. -/
theorem scanText_write (scalars : ∀ point ∈ text, IsScalar point) (rest : List Char) :
    scanText (text.flatMap (writePoint style) ++ '"' :: rest) =
      some (text.flatMap (unitsRead style), (text.flatMap (writePoint style)).length + 1) := by
  -- What each point is written as is scanned before the rest.
  induction text with
  | nil => rfl
  | cons point text ih =>
    have later := ih fun other member => scalars other (List.mem_cons_of_mem _ member)
    simp only [List.flatMap_cons, List.append_assoc]
    rw [scanText_writePoint (scalars point List.mem_cons_self), later]
    simp only [scannedBefore, Option.map_some, List.length_append, Option.some.injEq,
      Prod.mk.injEq, true_and]
    omega

/-- A character that begins no surrogate pair stands for itself. -/
theorem joinSurrogates_cons (scalar : IsScalar point) (units : List Nat) :
    joinSurrogates (point :: units) = point :: joinSurrogates units := by
  -- A character is no half of a pair.
  have alone : ¬(0xD800 ≤ point ∧ point ≤ 0xDBFF) := by
    rcases scalar with low | ⟨high, _⟩ <;> omega
  cases units with
  | nil => rfl
  | cons next units =>
    rw [joinSurrogates, if_neg fun both => alone both.1]

/-- The units of a text are joined to its characters. -/
theorem joinSurrogates_unitsRead (scalars : ∀ point ∈ text, IsScalar point) :
    joinSurrogates (text.flatMap (unitsRead style)) = text := by
  induction text with
  | nil => rfl
  | cons point text ih =>
    have scalar := scalars point List.mem_cons_self
    have later := ih fun other member => scalars other (List.mem_cons_of_mem _ member)
    rw [List.flatMap_cons]
    by_cases pair : style.escapes point = true ∧ ¬point < 0x10000
    · -- The two halves lie in their ranges, and are joined to the character again.
      obtain ⟨far, large⟩ := pair
      have bound : point < 0x110000 := by
        rcases scalar with low | ⟨_, high⟩ <;> omega
      have halves : (0xD800 ≤ 0xD800 + (point - 0x10000) / 0x400 ∧
          0xD800 + (point - 0x10000) / 0x400 ≤ 0xDBFF) ∧
          0xDC00 ≤ 0xDC00 + (point - 0x10000) % 0x400 ∧
          0xDC00 + (point - 0x10000) % 0x400 ≤ 0xDFFF := by omega
      rw [unitsRead, if_pos far, unitsOf, if_neg large, List.cons_append, List.singleton_append,
        joinSurrogates, if_pos halves, later, List.cons.injEq, and_iff_left rfl]
      omega
    · -- A character that is no pair is one unit, whether it is escaped or not.
      have own : unitsRead style point = [point] := by
        unfold unitsRead unitsOf
        split_ifs with far small
        · rfl
        · exact absurd ⟨far, small⟩ pair
        · rfl
      rw [own, List.singleton_append, joinSurrogates_cons scalar, later]

/-- A text is scanned as one token. -/
theorem tokens_writeText (scalars : ∀ point ∈ text, IsScalar point) (rest : List Char) :
    tokens (writeText style text ++ rest) = .text text :: tokens rest := by
  -- The closing quote ends the text, as no quote in it is left bare.
  refine tokens_append _ ?_ ⟨'"', _, rfl, rfl⟩
  have scanned : scanText (text.flatMap (writePoint style) ++ '"' :: rest) =
      some (text.flatMap (unitsRead style), (text.flatMap (writePoint style)).length + 1) :=
    scanText_write scalars rest
  simp only [writeText, List.cons_append, List.append_assoc, List.nil_append, scanToken, scanned,
    joinSurrogates_unitsRead scalars, List.length_cons, List.length_append, List.length_nil]

end Texts

section Numbers

variable {rest : List Char}

/-- What may stand behind a number without being read as a part of it. -/
def Follows (rest : List Char) : Prop :=
  ∀ c ∈ rest.head?, c.isDigit = false ∧ c ≠ '.' ∧ c ≠ 'e' ∧ c ≠ 'E'

/-- The digits of a number end before what follows it. -/
theorem takeWhile_digits {digits : List Char} (ordinary : ∀ c ∈ digits, c.isDigit = true)
    (follows : Follows rest) : (digits ++ rest).takeWhile Char.isDigit = digits := by
  -- What follows the number does not begin with a digit.
  have nothing : rest.takeWhile Char.isDigit = [] := by
    cases rest with
    | nil => rfl
    | cons c rest => rw [List.takeWhile_cons, (follows c rfl).1, if_neg Bool.false_ne_true]
  rw [List.takeWhile_append_of_pos ordinary, nothing, List.append_nil]

/-- No fraction and no exponent stand behind a number that something else follows. -/
theorem scan_follows (follows : Follows rest) :
    scanFraction rest = [] ∧ scanExponent rest = none := by
  -- Neither a point nor an exponent goes on from here.
  cases rest with
  | nil => exact ⟨rfl, rfl⟩
  | cons c rest =>
    obtain ⟨_, point, mark, mark'⟩ := follows c rfl
    constructor
    · unfold scanFraction
      split
      · rename_i same
        exact absurd (List.cons.inj same).1 point
      · rfl
    · rw [scanExponent, if_neg (by simp [mark, mark'])]

/-- The whole part of a number that was written is all of its digits. -/
theorem whole_decimalDigits (number : Nat) (follows : Follows rest) :
    (match decimalDigits number ++ rest with
      | '0' :: _ => ['0']
      | _ => (decimalDigits number ++ rest).takeWhile Char.isDigit) = decimalDigits number := by
  -- A leading zero stands alone, and other numbers do not begin with one.
  rcases Nat.eq_zero_or_pos number with rfl | positive
  · rfl
  · have head := head_decimalDigits_ne_zero positive
    have ordinary : ∀ c ∈ decimalDigits number, c.isDigit = true :=
      fun c => isDigit_of_mem_decimalDigits
    split
    · rename_i same
      obtain ⟨digit, digits, first⟩ := List.exists_cons_of_ne_nil
        (decimalDigits_ne_nil number)
      rw [first, List.cons_append] at same
      rw [first, (List.cons.inj same).1] at head
      exact absurd rfl head
    · exact takeWhile_digits ordinary follows

/-- A number without a sign begins with a digit. -/
theorem decimalDigits_unsigned (number : Nat) (later : List Char) :
    decimalDigits number ++ rest ≠ '-' :: later := by
  -- The first character is a digit, which a sign is not.
  intro same
  obtain ⟨digit, digits, first⟩ := List.exists_cons_of_ne_nil
    (decimalDigits_ne_nil number)
  rw [first, List.cons_append] at same
  have ordinary : digit.isDigit = true :=
    isDigit_of_mem_decimalDigits (first ▸ List.mem_cons_self)
  rw [(List.cons.inj same).1] at ordinary
  exact absurd ordinary (by decide)

/-- A whole number is scanned up to what follows it. -/
theorem scanNumber_integerDigits (value : Int) (follows : Follows rest) :
    scanNumber (integerDigits value ++ rest) =
      some (.integer (decide (value < 0)) (decimalDigits value.natAbs),
        (integerDigits value).length) := by
  have present : decimalDigits value.natAbs ≠ [] := decimalDigits_ne_nil _
  obtain ⟨fraction, exponent⟩ := scan_follows follows
  unfold scanNumber
  split
  rename_i negative unsigned signed
  -- The sign is taken off in front of the digits, when there is one.
  have parts : negative = decide (value < 0) ∧ unsigned = decimalDigits value.natAbs ++ rest := by
    unfold integerDigits at signed
    split_ifs at signed with below
    · cases signed
      exact ⟨(decide_eq_true below).symm, rfl⟩
    · split at signed
      · rename_i same
        exact absurd same (decimalDigits_unsigned _ _)
      · cases signed
        exact ⟨(decide_eq_false below).symm, rfl⟩
  obtain ⟨rfl, rfl⟩ := parts
  extract_lets whole later tail tailLength length mantissa
  have digits : whole = decimalDigits value.natAbs := whole_decimalDigits value.natAbs follows
  have behind : later = rest := by simp only [later, digits, List.drop_left]
  -- Nothing of a fraction or an exponent follows the digits.
  have short : tailLength = 0 := by simp only [tailLength, tail, behind, fraction, if_pos]
  have taken : length = (integerDigits value).length := by
    simp only [length, digits, short, integerDigits]
    split_ifs
    · simp
      omega
    · simp
  simp only [digits, if_neg present, behind, short, List.drop_zero, exponent, taken, tail, fraction,
    if_pos]

/-- No token that is always written the same way begins with a digit, or with a sign and one. -/
theorem find?_fixedTokens {digit : Char} (ordinary : digit.isDigit = true) (later : List Char) :
    (fixedTokens.find? fun entry => entry.1.toList.isPrefixOf (digit :: later)) = none ∧
      (fixedTokens.find? fun entry => entry.1.toList.isPrefixOf ('-' :: digit :: later)) = none := by
  -- No fixed token begins with a digit, or with a sign and a digit.
  have apart : ∀ c : Char, c.isDigit = false → (c == digit) = false := by
    intro c other
    refine beq_eq_false_iff_ne.mpr fun same => ?_
    rw [same, ordinary] at other
    cases other
  constructor
  · simp [fixedTokens, List.isPrefixOf, apart]
  · simp [fixedTokens, List.isPrefixOf, apart]

/-- A whole number is one token. -/
theorem tokens_integerDigits (value : Int) (follows : Follows rest) :
    tokens (integerDigits value ++ rest) =
      .integer (decide (value < 0)) (decimalDigits value.natAbs) :: tokens rest := by
  have scanned := scanNumber_integerDigits value follows
  obtain ⟨digit, digits, first⟩ := List.exists_cons_of_ne_nil
    (decimalDigits_ne_nil value.natAbs)
  have ordinary : digit.isDigit = true :=
    isDigit_of_mem_decimalDigits (first ▸ List.mem_cons_self)
  have bounds := bounds_of_isDigit ordinary
  have plain : digit ≠ '"' ∧ isBlankCharacter digit = false := by
    constructor
    · rintro rfl
      exact absurd ordinary (by decide)
    · refine decide_eq_false ?_
      rintro (rfl | rfl | rfl | rfl) <;> exact absurd ordinary (by decide)
  obtain ⟨unsigned, signed⟩ := find?_fixedTokens ordinary (digits ++ rest)
  -- The number is not taken for a text or for a fixed token, whether or not it has a sign.
  have token : scanToken (integerDigits value ++ rest) =
      (scanNumber (integerDigits value ++ rest)).getD (.invalid, 1) := by
    unfold integerDigits
    rw [first]
    split_ifs
    · rw [List.cons_append, List.cons_append, scanToken, signed]
      exact fun _ same => absurd (List.cons.inj same).1 (by decide)
    · rw [List.cons_append, scanToken, unsigned]
      exact fun _ same => plain.1 (List.cons.inj same).1
  refine tokens_append _ (token.trans (by rw [scanned]; rfl)) ?_
  unfold integerDigits
  rw [first]
  split_ifs
  · exact ⟨_, _, rfl, rfl⟩
  · exact ⟨_, _, rfl, plain.2⟩

end Numbers

/-- A number with a fraction is read back as it is, whatever may follow it. -/
def Style.ReadsBack (style : Style) (number : Floating) : Prop :=
  ∀ rest, Follows rest → tokens (style.writeFloat number ++ rest) = .float number :: tokens rest

/--
Values that are read back when they are written.

Numbers are not too long, texts are strings, the keys of an object are distinct, and arrays and
objects nest at most so deep.
-/
inductive Legible (style : Style) : Nat → Json → Prop where
  | null {depth : Nat} : Legible style depth .null
  | bool {depth : Nat} (value : Bool) : Legible style depth (.bool value)
  | integer {depth : Nat} {value : Int} (short : value.natAbs < 10 ^ maxIntegerDigits) :
    Legible style depth (.integer value)
  | float {depth : Nat} {value : Floating} (back : style.ReadsBack value) :
    Legible style depth (.float value)
  | text {depth : Nat} {value : CodePoints} (scalars : ∀ point ∈ value, IsScalar point) :
    Legible style depth (.text value)
  | array {depth : Nat} {items : List Json} (each : ∀ item ∈ items, Legible style depth item) :
    Legible style (depth + 1) (.array items)
  | object {depth : Nat} {fields : List (CodePoints × Json)}
    (keys : ∀ field ∈ fields, ∀ point ∈ field.1, IsScalar point)
    (distinct : (fields.map Prod.fst).Nodup)
    (each : ∀ field ∈ fields, Legible style depth field.2) :
    Legible style (depth + 1) (.object fields)

/-- A value may also be read where more nesting is allowed. -/
theorem Legible.deeper {style : Style} {depth deep : Nat} {value : Json}
    (legible : Legible style depth value) (more : depth ≤ deep) : Legible style deep value := by
  -- More depth is left at every level.
  induction legible generalizing deep with
  | null => exact .null
  | bool value => exact .bool value
  | integer short => exact .integer short
  | float back => exact .float back
  | text scalars => exact .text scalars
  | array each ih =>
    obtain ⟨deep, rfl⟩ := Nat.exists_eq_add_of_lt more
    exact .array fun item member => ih item member (by omega)
  | object keys distinct each ih =>
    obtain ⟨deep, rfl⟩ := Nat.exists_eq_add_of_lt more
    exact .object keys distinct fun field member => ih field member (by omega)

section Reading

variable {style : Style} {strict : Bool} {nesting depth : Nat} {value : Json} {rest : List Char}

/-- Another character ends a number. -/
theorem follows_cons {c : Char} (other : c.isDigit = false ∧ c ≠ '.' ∧ c ≠ 'e' ∧ c ≠ 'E')
    (rest : List Char) : Follows (c :: rest) := by
  rintro _ ⟨⟩
  exact other

/-- The end of an array ends a number. -/
theorem follows_writeItems (style : Style) (items : List Json) (rest : List Char) :
    Follows (writeItems style items ++ rest) := by
  -- Either the array is closed, or another item is separated from the number.
  cases items with
  | nil => exact follows_cons (by decide) _
  | cons item items =>
    unfold writeItems itemSeparator
    split <;> exact follows_cons (by decide) _

/-- The end of an object ends a number. -/
theorem follows_writeFields (style : Style) (fields : List (CodePoints × Json))
    (rest : List Char) : Follows (writeFields style fields ++ rest) := by
  -- Either the object is closed, or another field is separated from the number.
  cases fields with
  | nil => exact follows_cons (by decide) _
  | cons field fields =>
    unfold writeFields itemSeparator
    split <;> exact follows_cons (by decide) _

/-- What stands behind a key is a colon. -/
theorem tokens_keySeparator (style : Style) (rest : List Char) :
    tokens (keySeparator style ++ rest) = .colon :: tokens rest := by
  -- A blank may follow the colon, which is no token.
  unfold keySeparator
  split
  · exact (tokens_append [':'] rfl ⟨_, _, rfl, rfl⟩).trans
      (congrArg _ (tokens_blank rest))
  · exact tokens_append [':'] rfl ⟨_, _, rfl, rfl⟩

/-- What the reader makes of tokens. -/
def readAll (strict : Bool) (nesting : Nat) (reader : Reader) (tokens : List JsonToken) :
    Except JsonFailure Reader := tokens.foldlM (read strict nesting) reader

/-- Tokens are read one after the other. -/
theorem readAll_cons {reader next : Reader} {token : JsonToken} {later : List JsonToken}
    (step : read strict nesting reader token = .ok next) :
    readAll strict nesting reader (token :: later) = readAll strict nesting next later := by
  rw [readAll, List.foldlM_cons, step]
  rfl

/-- A value that was written begins with a token, which does not close an array. -/
theorem exists_first_token (legible : Legible style depth value) (follows : Follows rest) :
    ∃ token later, tokens (write style value ++ rest) = token :: later ∧ token ≠ .closeArray := by
  -- Each kind of value begins with a token of its own.
  cases legible with
  | null => exact ⟨_, _, tokens_null rest, nofun⟩
  | bool value =>
    exact ⟨_, _, tokens_bool style value rest, nofun⟩
  | integer short => exact ⟨_, _, tokens_integerDigits _ follows, nofun⟩
  | float back => exact ⟨_, _, back rest follows, nofun⟩
  | text scalars => exact ⟨_, _, tokens_writeText scalars rest, nofun⟩
  | @array _ items each =>
    cases items <;> exact ⟨_, _, tokens_openArray _, nofun⟩
  | @object _ fields keys distinct each =>
    cases fields <;> exact ⟨_, _, tokens_openObject _, nofun⟩

/-- The first item of an array is read like any other value. -/
theorem readAll_firstItem (legible : Legible style depth value) (follows : Follows rest)
    (frames : List Frame) :
    readAll strict nesting (.firstItem frames) (tokens (write style value ++ rest)) =
      readAll strict nesting (.value (.array [] :: frames)) (tokens (write style value ++ rest)) := by
  -- Behind the opening bracket, anything but a closing one is the first item.
  obtain ⟨token, later, scanned, other⟩ := exists_first_token legible follows
  have same : read strict nesting (.firstItem frames) token =
      read strict nesting (.value (.array [] :: frames)) token := by
    cases token with
    | closeArray => exact absurd rfl other
    | _ => rfl
  rw [scanned, readAll, readAll, List.foldlM_cons, List.foldlM_cons, same]

/-- Reading a value that was written completes it. -/
def Completes (style : Style) (strict : Bool) (nesting depth : Nat) (value : Json) : Prop :=
  ∀ (frames : List Frame) (rest : List Char), frames.length + depth ≤ nesting → Follows rest →
    readAll strict nesting (.value frames) (tokens (write style value ++ rest)) =
      readAll strict nesting (complete value frames) (tokens rest)

/-- The items behind others are read, up to the end of the array. -/
theorem readAll_writeItems {items : List Json} {frames : List Frame}
    (each : ∀ item ∈ items, Completes style strict nesting depth item)
    (room : frames.length + 1 + depth ≤ nesting) (rest : List Char) : ∀ before,
    readAll strict nesting (.afterItem before frames) (tokens (writeItems style items ++ rest)) =
      readAll strict nesting (complete (.array (before.reverse ++ items)) frames) (tokens rest) := by
  -- Each item is read behind its separator, and put behind those before it.
  induction items with
  | nil =>
    intro before
    rw [List.append_nil]
    exact (congrArg _ (tokens_closeArray rest)).trans (readAll_cons rfl)
  | cons item items ih =>
    intro before
    have later := ih (fun other member => each other (List.mem_cons_of_mem _ member)) (item :: before)
    have first := each item List.mem_cons_self (.array before :: frames)
      (writeItems style items ++ rest) room (follows_writeItems style items rest)
    rw [writeItems, List.append_assoc, List.append_assoc, tokens_itemSeparator, readAll_cons rfl,
      first]
    rw [List.reverse_cons, List.append_assoc] at later
    exact later

/-- A field with a new key comes behind the others. -/
theorem setField_new {fields : List (CodePoints × Json)} {key : CodePoints}
    (new : key ∉ fields.map Prod.fst) (value : Json) :
    setField fields key value = fields ++ [(key, value)] := by
  -- A field with the key would have it among the keys.
  have absent : (fields.any fun field => field.1 = key) = false := by
    refine List.any_eq_false.mpr fun field member same => new ?_
    rw [← of_decide_eq_true same]
    exact List.mem_map_of_mem member
  rw [setField, absent, if_neg Bool.false_ne_true]

/-- The fields behind others are read, up to the end of the object. -/
theorem readAll_writeFields {fields : List (CodePoints × Json)} {frames : List Frame}
    (keys : ∀ field ∈ fields, ∀ point ∈ field.1, IsScalar point)
    (each : ∀ field ∈ fields, Completes style strict nesting depth field.2)
    (room : frames.length + 1 + depth ≤ nesting) (rest : List Char) : ∀ before,
    ((before ++ fields).map Prod.fst).Nodup →
    readAll strict nesting (.afterField before frames) (tokens (writeFields style fields ++ rest)) =
      readAll strict nesting (complete (.object (before ++ fields)) frames) (tokens rest) := by
  -- Each field is read behind its separator, under a key that is new.
  induction fields with
  | nil =>
    intro before _
    rw [List.append_nil]
    exact (congrArg _ (tokens_append ['\x7d'] rfl ⟨_, _, rfl, rfl⟩)).trans
      (readAll_cons rfl)
  | cons field fields ih =>
    intro before distinct
    obtain ⟨key, value⟩ := field
    -- The keys of the fields differ from each other.
    have new : key ∉ before.map Prod.fst := by
      rw [List.map_append, List.map_cons, List.nodup_append] at distinct
      exact fun member => distinct.2.2 key member key List.mem_cons_self rfl
    have split : before ++ (key, value) :: fields = (before ++ [(key, value)]) ++ fields := by simp
    rw [split] at distinct
    have later := ih (fun other member => keys other (List.mem_cons_of_mem _ member))
      (fun other member => each other (List.mem_cons_of_mem _ member)) (before ++ [(key, value)])
      distinct
    have first := each (key, value) List.mem_cons_self (.object before key :: frames)
      (writeFields style fields ++ rest) room (follows_writeFields style fields rest)
    simp only [writeFields, List.append_assoc]
    rw [tokens_itemSeparator, readAll_cons rfl,
      tokens_writeText (keys (key, value) List.mem_cons_self), readAll_cons rfl,
      tokens_keySeparator, readAll_cons rfl, first, complete, setField_new new, later, ← split]

/-- A legible value is completed by reading what was written. -/
theorem Legible.completes (legible : Legible style depth value) :
    Completes style strict nesting depth value := by
  induction legible with
  | null =>
    intro frames rest _ _
    exact (congrArg _ (tokens_null rest)).trans (readAll_cons rfl)
  | bool value =>
    intro frames rest _ _
    exact (congrArg _ (tokens_bool style value rest)).trans (readAll_cons rfl)
  | @integer _ value short =>
    intro frames rest _ follows
    -- The digits are few enough to be read, and the sign is read with them.
    have fits : ¬maxIntegerDigits < (decimalDigits value.natAbs).length :=
      Nat.not_lt.mpr ((length_decimalDigits_le_iff (by decide)).mpr short)
    have number : (if decide (value < 0) = true then -(value.natAbs : Int) else value.natAbs) =
        value := by
      by_cases negative : value < 0
      · rw [if_pos (decide_eq_true negative)]
        omega
      · rw [if_neg (by simpa using negative)]
        omega
    rw [write, tokens_integerDigits _ follows]
    refine readAll_cons ?_
    rw [read, readValue, if_neg fits, decimalNumber_decimalDigits]
    simp only [number]
  -- A printed float is one of those that are read back.
  | float back =>
    intro frames rest _ follows
    exact (congrArg _ (back rest follows)).trans (readAll_cons rfl)
  | text scalars =>
    intro frames rest _ _
    exact (congrArg _ (tokens_writeText scalars rest)).trans (readAll_cons rfl)
  | @array depth items each ih =>
    intro frames rest room _
    have opened : read strict nesting (.value frames) .openArray = .ok (.firstItem frames) := by
      rw [read, readValue, if_pos (by omega)]
    cases items with
    | nil =>
      rw [write, List.cons_append, tokens_openArray, readAll_cons opened]
      exact (congrArg _ (tokens_closeArray rest)).trans (readAll_cons rfl)
    | cons item items =>
      -- The first item is read behind the bracket, and the others behind separators.
      have first := ih item List.mem_cons_self (.array [] :: frames)
        (writeItems style items ++ rest) (by rw [List.length_cons]; omega)
        (follows_writeItems style items rest)
      have later := readAll_writeItems
        (fun other member => ih other (List.mem_cons_of_mem _ member))
        (show frames.length + 1 + depth ≤ nesting by omega) rest [item]
      rw [write, List.cons_append, List.cons_append, List.append_assoc, tokens_openArray,
        readAll_cons opened, readAll_firstItem (each item List.mem_cons_self)
        (follows_writeItems style items rest), first]
      exact later
  -- An object is an array of pairs, whose keys are texts.
  | @object depth fields keys distinct each ih =>
    intro frames rest room _
    have opened : read strict nesting (.value frames) .openObject = .ok (.firstKey frames) := by
      rw [read, readValue, if_pos (by omega)]
    cases fields with
    | nil =>
      rw [write, List.cons_append, tokens_openObject, readAll_cons opened]
      exact (congrArg _ (tokens_append ['\x7d'] rfl ⟨_, _, rfl, rfl⟩)).trans
        (readAll_cons rfl)
    | cons field fields =>
      obtain ⟨key, value⟩ := field
      have first := ih (key, value) List.mem_cons_self (.object [] key :: frames)
        (writeFields style fields ++ rest) (by rw [List.length_cons]; omega)
        (follows_writeFields style fields rest)
      have later := readAll_writeFields
        (fun other member => keys other (List.mem_cons_of_mem _ member))
        (fun other member => ih other (List.mem_cons_of_mem _ member))
        (show frames.length + 1 + depth ≤ nesting by omega) rest [(key, value)] distinct
      simp only [write, List.cons_append, List.append_assoc]
      rw [tokens_openObject, readAll_cons opened,
        tokens_writeText (keys (key, value) List.mem_cons_self), readAll_cons rfl,
        tokens_keySeparator, readAll_cons rfl, first]
      exact later

/-- A legible value that was written is loaded again, be the reader strict or not. -/
theorem loadsWith_write (strict : Bool) (legible : Legible style nesting value) :
    loadsWith strict nesting (write style value) = .ok value := by
  -- The text is read as a single value, behind which nothing is left.
  have room : ([] : List Frame).length + nesting ≤ nesting := by simp
  have read : readAll strict nesting (.value []) _ = _ := legible.completes [] [] room nofun
  rw [List.append_nil] at read
  rw [loadsWith]
  unfold readAll at read
  rw [read]
  rfl

/-- A legible value that was written is loaded again. -/
theorem loads_write (legible : Legible style nesting value) :
    loads nesting (write style value) = .ok value := loadsWith_write false legible

end Reading

end StockMarket.Json
