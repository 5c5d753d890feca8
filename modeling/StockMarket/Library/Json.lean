import StockMarket.Library.Floating

/-! Values of JSON, and how they are read from text: first into tokens, then by a machine. -/

namespace StockMarket

/-- A text by the numbers of its characters, which may be halves of surrogate pairs. -/
abbrev CodePoints := List Nat

/-- The text that a string has. -/
def codePoints (text : String) : CodePoints := text.toList.map Char.toNat

/-- The characters of a text; halves of surrogate pairs are none of any class. -/
def CodePoints.characters (text : CodePoints) : List Char := text.map Char.ofNat

/-- A text that can be encoded has no half of a surrogate pair. -/
def CodePoints.isEncodable (text : CodePoints) : Bool :=
  text.all fun point => (Char.ofNat point).toNat = point

/-- A text as a string, which cannot have halves of surrogate pairs. -/
def CodePoints.toString? (text : CodePoints) : Option String :=
  if text.isEncodable then some (String.ofList text.characters) else none

/-- A text of white space only, or of nothing. -/
def CodePoints.isBlank (text : CodePoints) : Bool :=
  text.all fun point => isSpace (Char.ofNat point)

/-- A value. -/
inductive Json where
  | null
  | bool (value : Bool)
  | integer (value : Int)
  | float (value : Floating)
  | text (value : CodePoints)
  | array (items : List Json)
  | object (fields : List (CodePoints × Json))

/-- Why a text is not read: it is no JSON, or it is too much of it. -/
inductive JsonFailure where
  | malformed
  | integerTooLong
  | nestedTooDeep
  deriving DecidableEq

/-- What a text is made of. -/
inductive JsonToken where
  | openObject
  | closeObject
  | openArray
  | closeArray
  | comma
  | colon
  | null
  | bool (value : Bool)
  | text (value : CodePoints)
  | integer (negative : Bool) (digits : List Char)
  | float (value : Floating)
  | constant (value : Floating)
  | invalid

namespace Json

/-- White space between tokens. -/
def isBlankCharacter (c : Char) : Bool := c = ' ' ∨ c = '\t' ∨ c = '\n' ∨ c = '\r'

/-- The value of a hexadecimal digit. -/
def hexValue (c : Char) : Nat :=
  if c.isDigit then c.toNat - '0'.toNat
  else if c.isUpper then c.toNat - 'A'.toNat + 10
  else c.toNat - 'a'.toNat + 10

/-- The number that four hexadecimal digits stand for. -/
def hexUnit (digits : List Char) : Option Nat :=
  if digits.all isHexDigit then
    some (digits.foldl (fun number digit => 16 * number + hexValue digit) 0)
  else none

/-- The characters that are escaped by one other character. -/
def escapes : List (Char × Nat) :=
  [('"', 0x22), ('\\', 0x5C), ('/', 0x2F), ('b', 8), ('f', 0xC), ('n', 0xA), ('r', 0xD), ('t', 9)]

/-- The units of a text up to its closing quote, and how many characters that takes. -/
def scanText : List Char → Option (List Nat × Nat)
  | [] => none
  | '"' :: _ => some ([], 1)
  | '\\' :: 'u' :: first :: second :: third :: fourth :: rest => do
    let unit ← hexUnit [first, second, third, fourth]
    let (units, length) ← scanText rest
    return (unit :: units, length + 6)
  | '\\' :: escaped :: rest => do
    let point ← escapes.lookup escaped
    let (units, length) ← scanText rest
    return (point :: units, length + 2)
  | c :: rest =>
    -- Control characters have to be escaped.
    if c.toNat < 0x20 then none
    else do
      let (units, length) ← scanText rest
      return (c.toNat :: units, length + 1)

/-- Two halves of a surrogate pair that stand side by side are one character. -/
def joinSurrogates : List Nat → CodePoints
  | high :: low :: rest =>
    if (0xD800 ≤ high ∧ high ≤ 0xDBFF) ∧ 0xDC00 ≤ low ∧ low ≤ 0xDFFF then
      (0x10000 + (high - 0xD800) * 0x400 + (low - 0xDC00)) :: joinSurrogates rest
    else high :: joinSurrogates (low :: rest)
  | short => short

/-- The digits of a fraction behind a point, if there are any. -/
def scanFraction : List Char → List Char
  | '.' :: rest => rest.takeWhile Char.isDigit
  | _ => []

/-- The exponent of a number, and how many characters it takes. -/
def scanExponent : List Char → Option (Int × Nat)
  | mark :: rest =>
    if mark = 'e' ∨ mark = 'E' then
      let (negative, unsigned) := Floating.signThen rest
      let digits := unsigned.takeWhile Char.isDigit
      let number : Int := decimalNumber digits
      if digits = [] then none
      else
        let length := 1 + (rest.length - unsigned.length) + digits.length
        some (if negative then -number else number, length)
    else none
  | [] => none

/-- A number, and how many characters it takes. -/
def scanNumber (text : List Char) : Option (JsonToken × Nat) :=
  let (negative, unsigned) := match text with
    | '-' :: rest => (true, rest)
    | _ => (false, text)
  let whole := match unsigned with
    | '0' :: _ => ['0']
    | _ => unsigned.takeWhile Char.isDigit
  if whole = [] then none
  else
    let rest := unsigned.drop whole.length
    let fraction := scanFraction rest
    let fractionLength := if fraction = [] then 0 else fraction.length + 1
    let length := (text.length - unsigned.length) + whole.length + fractionLength
    let mantissa := decimalNumber (whole ++ fraction)
    match scanExponent (rest.drop fractionLength) with
    | some (exponent, exponentLength) =>
      some (.float (.ofDecimal negative mantissa (exponent - fraction.length)),
        length + exponentLength)
    | none =>
      if fraction = [] then some (.integer negative whole, length)
      else some (.float (.ofDecimal negative mantissa (-fraction.length)), length)

/-- The tokens that are always written the same way. -/
def fixedTokens : List (String × JsonToken) :=
  [("\x7b", .openObject), ("\x7d", .closeObject), ("[", .openArray), ("]", .closeArray), (",", .comma),
   (":", .colon), ("null", .null), ("true", .bool true), ("false", .bool false),
   ("NaN", .constant .nan), ("Infinity", .constant (.infinite false)),
   ("-Infinity", .constant (.infinite true))]

/-- The token at the beginning of a text, and how many characters it takes. -/
def scanToken (text : List Char) : JsonToken × Nat :=
  match text with
  | '"' :: rest =>
    match scanText rest with
    | some (units, length) => (.text (joinSurrogates units), length + 1)
    | none => (.invalid, 1)
  | _ =>
    match fixedTokens.find? fun entry => entry.1.toList.isPrefixOf text with
    | some (written, token) => (token, written.toList.length)
    | none => (scanNumber text).getD (.invalid, 1)

/-- The tokens of a text, without the characters that the token before has taken. -/
def tokensFrom : Nat → List Char → List JsonToken
  | _, [] => []
  | taken + 1, _ :: rest => tokensFrom taken rest
  | 0, c :: rest =>
    if isBlankCharacter c then tokensFrom 0 rest
    else (scanToken (c :: rest)).1 :: tokensFrom ((scanToken (c :: rest)).2 - 1) rest

/-- The tokens of a text. -/
def tokens (text : List Char) : List JsonToken := tokensFrom 0 text

/-- The fields of an object with one more, which takes the place of one with the same key. -/
def setField (fields : List (CodePoints × Json)) (key : CodePoints) (value : Json) :
    List (CodePoints × Json) :=
  if fields.any fun field => field.1 = key then
    fields.map fun field => if field.1 = key then (key, value) else field
  else fields ++ [(key, value)]

/-- An array or an object that is still open; the items of an array are in reverse order. -/
inductive Frame where
  | array (items : List Json)
  | object (fields : List (CodePoints × Json)) (key : CodePoints)

/-- What the reader expects next, within the arrays and objects that are open. -/
inductive Reader where
  | value (frames : List Frame)
  | firstItem (frames : List Frame)
  | firstKey (frames : List Frame)
  | nextKey (fields : List (CodePoints × Json)) (frames : List Frame)
  | colon (fields : List (CodePoints × Json)) (key : CodePoints) (frames : List Frame)
  | afterItem (items : List Json) (frames : List Frame)
  | afterField (fields : List (CodePoints × Json)) (frames : List Frame)
  | done (value : Json)

/-- A value is complete. -/
def complete (value : Json) : List Frame → Reader
  | [] => .done value
  | .array items :: frames => .afterItem (value :: items) frames
  | .object fields key :: frames => .afterField (setField fields key value) frames

/-- Read a value, as far as its first token goes; a strict reader takes no constants for numbers. -/
def readValue (strict : Bool) (nesting : Nat) (frames : List Frame) :
    JsonToken → Except JsonFailure Reader
  | .openArray => if frames.length < nesting then .ok (.firstItem frames) else .error .nestedTooDeep
  | .openObject => if frames.length < nesting then .ok (.firstKey frames) else .error .nestedTooDeep
  | .null => .ok (complete .null frames)
  | .bool value => .ok (complete (.bool value) frames)
  | .text value => .ok (complete (.text value) frames)
  | .float value => .ok (complete (.float value) frames)
  | .constant value =>
    if strict then .error .malformed else .ok (complete (.float value) frames)
  | .integer negative digits =>
    if maxIntegerDigits < digits.length then .error .integerTooLong
    else
      let number : Int := decimalNumber digits
      .ok (complete (.integer (if negative then -number else number)) frames)
  | _ => .error .malformed

/-- Read one token. -/
def read (strict : Bool) (nesting : Nat) : Reader → JsonToken → Except JsonFailure Reader
  | .value frames, token => readValue strict nesting frames token
  | .firstItem frames, .closeArray => .ok (complete (.array []) frames)
  | .firstItem frames, token => readValue strict nesting (.array [] :: frames) token
  | .firstKey frames, .closeObject => .ok (complete (.object []) frames)
  | .firstKey frames, .text key => .ok (.colon [] key frames)
  | .nextKey fields frames, .text key => .ok (.colon fields key frames)
  | .colon fields key frames, .colon => .ok (.value (.object fields key :: frames))
  | .afterItem items frames, .comma => .ok (.value (.array items :: frames))
  | .afterItem items frames, .closeArray => .ok (complete (.array items.reverse) frames)
  | .afterField fields frames, .comma => .ok (.nextKey fields frames)
  | .afterField fields frames, .closeObject => .ok (complete (.object fields) frames)
  | _, _ => .error .malformed

/-- The value that a text stands for, to a reader that is strict or not. -/
def loadsWith (strict : Bool) (nesting : Nat) (text : List Char) : Except JsonFailure Json := do
  match ← (tokens text).foldlM (read strict nesting) (.value []) with
  | .done value => return value
  | _ => throw .malformed

/-- The value that a text stands for, whose arrays and objects nest at most so deep. -/
def loads (nesting : Nat) (text : List Char) : Except JsonFailure Json :=
  loadsWith false nesting text

/-- A text is read as JSON or found to be none, without anything too large in it. -/
def Loadable (nesting : Nat) (text : List Char) : Prop :=
  loads nesting text ≠ .error .integerTooLong ∧ loads nesting text ≠ .error .nestedTooDeep

/-- A field of an object. -/
def field? (fields : List (CodePoints × Json)) (name : String) : Option Json :=
  (fields.find? fun field => field.1 = codePoints name).map Prod.snd

/-- Whether a value counts as true. -/
def truthy : Json → Bool
  | .null => false
  | .bool value => value
  | .integer value => value ≠ 0
  | .float value => value.truthy
  | .text value => value ≠ []
  | .array items => !items.isEmpty
  | .object fields => !fields.isEmpty

/-- The text of a value; that of numbers with a fraction, arrays, and objects is given. -/
def printed (prints : Json → CodePoints) : Json → CodePoints
  | .null => codePoints "None"
  | .bool value => codePoints (if value then "True" else "False")
  | .integer value => codePoints (toString value)
  | .text value => value
  | other => prints other

end Json

/-- The characters of a string are no halves of surrogate pairs. -/
theorem CodePoints.isEncodable_codePoints (text : String) :
    (codePoints text).isEncodable = true := by
  refine List.all_eq_true.mpr fun point member => ?_
  obtain ⟨c, _, rfl⟩ := List.mem_map.mp member
  exact decide_eq_true (by rw [Char.ofNat_toNat])

/-- A string is read back from its characters. -/
theorem CodePoints.toString?_codePoints (text : String) :
    CodePoints.toString? (codePoints text) = some text := by
  have back : (codePoints text).map Char.ofNat = text.toList := by
    rw [codePoints, List.map_map]
    exact (List.map_congr_left fun c _ => Char.ofNat_toNat c).trans (List.map_id _)
  rw [toString?, if_pos (isEncodable_codePoints text), characters, back, String.ofList_toList]

/-- The texts that can be encoded are the ones that are strings. -/
theorem CodePoints.toString?_isSome (text : CodePoints) :
    text.toString?.isSome = text.isEncodable := by
  -- The string is made exactly if every code point is a character.
  rw [toString?]
  split_ifs with whole
  · rw [whole, Option.isSome_some]
  · rw [Bool.not_eq_true] at whole
    rw [whole, Option.isSome_none]

end StockMarket
