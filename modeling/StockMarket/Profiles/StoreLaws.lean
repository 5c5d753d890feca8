import Mathlib.Data.List.DropRight
import StockMarket.Library.Contract
import StockMarket.Profiles.Store

/-! What stays true of the stored profiles over all interleavings of requests and seed commands. -/

namespace StockMarket

/-- Stripping a second time removes nothing. -/
theorem strip_strip (text : String) : strip (strip text) = strip text := by
  have solid : ∀ front : List Char, front.dropWhile isSpace = front →
      ((front.reverse.dropWhile isSpace).reverse).dropWhile isSpace =
        (front.reverse.dropWhile isSpace).reverse := by
    intro front same
    -- What is left of a text without leading blanks starts with its first character, if any.
    have begins : (front.reverse.dropWhile isSpace).reverse <+: front := by
      have ends := List.dropWhile_suffix (l := front.reverse) isSpace
      simpa using List.reverse_prefix.mpr ends
    cases left : (front.reverse.dropWhile isSpace).reverse with
    | nil => rfl
    | cons first rest =>
      rw [left] at begins
      obtain ⟨tail, rfl⟩ := begins
      rw [List.cons_append, List.dropWhile_cons] at same
      rw [List.dropWhile_cons]
      split at same
      · have shorter := (List.dropWhile_suffix (l := rest ++ tail) isSpace).length_le
        rw [same, List.length_cons] at shorter
        omega
      · rename_i kept
        rw [if_neg kept]
  -- Dropping the blanks in front twice is dropping them once.
  have twice : ∀ letters : List Char,
      (letters.dropWhile isSpace).dropWhile isSpace = letters.dropWhile isSpace :=
    List.dropWhile_idempotent isSpace
  have front := solid (text.toList.dropWhile isSpace) (twice text.toList)
  simp only [strip, String.toList_ofList]
  rw [front, List.reverse_reverse, twice]

namespace TraderProfile

/-- The numbers of a profile, each taken by itself, are ones that a trader can have. -/
structure Bounded (profile : TraderProfile) : Prop where
  fits : profile.fits = true
  referencePrice_pos : 1 ≤ profile.referencePrice
  priceStep_pos : 1 ≤ profile.priceStep
  quantityMin_pos : 1 ≤ profile.quantityMin
  quantityMax_pos : 1 ≤ profile.quantityMax
  orderTtlSeconds_pos : 1 ≤ profile.orderTtlSeconds
  intervalSeconds_pos : 1 ≤ profile.intervalSeconds

/-- Every field of a profile, taken by itself, is one that a trader can have. -/
structure Sound (profile : TraderProfile) : Prop extends profile.Bounded where
  userId_present : isBlank profile.userId = false
  symbol_code : isShortCode profile.symbol = true

/-- The range of the quantities is not empty. -/
def HasRange (profile : TraderProfile) : Prop := profile.quantityMin ≤ profile.quantityMax

/-- A profile fits when each field is in its range. -/
theorem fits_iff {profile : TraderProfile} : profile.fits = true ↔
    profile.name.length ≤ 100 ∧ profile.userId.length ≤ 128 ∧ profile.symbol.length ≤ 6 ∧
      (0 ≤ profile.referencePrice ∧ profile.referencePrice ≤ maxBigInteger) ∧
      (0 ≤ profile.priceStep ∧ profile.priceStep ≤ maxBigInteger) ∧
      (0 ≤ profile.maxOffsetSteps ∧ profile.maxOffsetSteps ≤ maxInteger) ∧
      (0 ≤ profile.quantityMin ∧ profile.quantityMin ≤ maxInteger) ∧
      (0 ≤ profile.quantityMax ∧ profile.quantityMax ≤ maxInteger) ∧
      (0 ≤ profile.orderTtlSeconds ∧ profile.orderTtlSeconds ≤ maxInteger) ∧
      (0 ≤ profile.intervalSeconds ∧ profile.intervalSeconds ≤ maxInteger) ∧
      -maxInteger - 1 ≤ profile.seed ∧ profile.seed ≤ maxInteger := by
  simp only [fits, decide_eq_true_eq, List.forall_mem_cons, List.not_mem_nil, false_implies,
    implies_true, and_true, and_assoc]

end TraderProfile

section Fields

variable {α β : Type}

/-- An accepted integer is in its range. -/
theorem integerField_range {minValue maxValue value : Int} {field : Field Int}
    (accepted : integerField minValue (some maxValue) field = .ok value) :
    minValue ≤ value ∧ value ≤ maxValue := by
  cases field with
  | missing => cases accepted
  | null => cases accepted
  | invalid printed => cases accepted
  | given given =>
    unfold integerField at accepted
    simp only at accepted
    -- Both bounds have been checked.
    split_ifs at accepted with low high
    cases accepted
    exact ⟨Int.not_lt.mp low, Int.not_lt.mp high⟩

/-- An accepted text is not too long. -/
theorem charField_length {maxLength : Nat} {value : String} {field : Field String}
    (accepted : charField maxLength field = .ok value) : value.length ≤ maxLength := by
  cases field with
  | missing => cases accepted
  | null => cases accepted
  | invalid printed => cases accepted
  | given given =>
    unfold charField at accepted
    simp only at accepted
    by_cases long : maxLength < (strip given).length
    · -- A text that is too long has a message about that.
      simp only [if_pos long, List.cons_append, List.cons_ne_nil, if_false] at accepted
      split at accepted <;> cases accepted
    · -- Only a text of allowed length is returned.
      split_ifs at accepted
      all_goals
        cases accepted
        exact Nat.not_lt.mp long

/-- What an accepted field gives has passed the check of the field. -/
theorem optionalField_given {check : Field α → Except (List String) β} {field : Field α} {value : β}
    (accepted : optionalField check field = .ok (some value)) : check field = .ok value := by
  -- A field that is there goes through the check itself.
  cases field with
  | missing => cases accepted
  | null =>
    obtain ⟨_, checked, same⟩ := Outcome.map_eq_ok accepted
    cases same
    exact checked
  | invalid printed =>
    obtain ⟨_, checked, same⟩ := Outcome.map_eq_ok accepted
    cases same
    exact checked
  | given given =>
    obtain ⟨_, checked, same⟩ := Outcome.map_eq_ok accepted
    cases same
    exact checked

/-- A field that gives nothing is missing. -/
theorem optionalField_absent {check : Field α → Except (List String) β} {field : Field α}
    (accepted : optionalField check field = .ok none) : field = .missing := by
  -- A field that is there is refused, or gives a value.
  cases field with
  | missing => rfl
  | null =>
    obtain ⟨_, _, same⟩ := Outcome.map_eq_ok accepted
    cases same
  | invalid printed =>
    obtain ⟨_, _, same⟩ := Outcome.map_eq_ok accepted
    cases same
  | given given =>
    obtain ⟨_, _, same⟩ := Outcome.map_eq_ok accepted
    cases same

end Fields

namespace ProfileAttrs

/-- The fields that are given have passed their own checks. -/
structure Checked (attrs : ProfileAttrs) : Prop where
  name : ∀ value ∈ attrs.name, value.length ≤ 100
  userId : ∀ value ∈ attrs.userId, value.length ≤ 128 ∧ isBlank value = false
  symbol : ∀ value ∈ attrs.symbol, value.length ≤ 6
  referencePrice : ∀ value ∈ attrs.referencePrice, 1 ≤ value ∧ value ≤ maxBigInteger
  priceStep : ∀ value ∈ attrs.priceStep, 1 ≤ value ∧ value ≤ maxBigInteger
  maxOffsetSteps : ∀ value ∈ attrs.maxOffsetSteps, 0 ≤ value ∧ value ≤ maxInteger
  quantityMin : ∀ value ∈ attrs.quantityMin, 1 ≤ value ∧ value ≤ maxInteger
  quantityMax : ∀ value ∈ attrs.quantityMax, 1 ≤ value ∧ value ≤ maxInteger
  orderTtlSeconds : ∀ value ∈ attrs.orderTtlSeconds, 1 ≤ value ∧ value ≤ maxInteger
  intervalSeconds : ∀ value ∈ attrs.intervalSeconds, 1 ≤ value ∧ value ≤ maxInteger
  seed : ∀ value ∈ attrs.seed, -maxInteger - 1 ≤ value ∧ value ≤ maxInteger

/-- A field is as it is given, or as it was before. -/
theorem getD_of {α : Type} {holds : α → Prop} {given : Option α} {before : α}
    (new : ∀ value ∈ given, holds value) (old : holds before) : holds (given.getD before) := by
  cases given with
  | none => exact old
  | some value => exact new value rfl

/-- A number that is given as a positive one is in its column's range. -/
theorem positive_of {given : Option Int} {before maxValue : Int}
    (new : ∀ value ∈ given, 1 ≤ value ∧ value ≤ maxValue) (old : 0 ≤ before ∧ before ≤ maxValue) :
    0 ≤ given.getD before ∧ given.getD before ≤ maxValue := by
  -- Without a new number the column keeps the old one.
  cases given with
  | none => exact old
  | some value =>
    have range := new value rfl
    exact ⟨show 0 ≤ value by omega, range.2⟩

/-- Numbers that are given keep a profile in its bounds. -/
theorem Checked.applyTo {attrs : ProfileAttrs} (checked : attrs.Checked) {profile : TraderProfile}
    (bounded : profile.Bounded) : (attrs.applyTo profile).Bounded := by
  obtain ⟨name, userId, symbol, referencePrice, priceStep, maxOffsetSteps, quantityMin, quantityMax,
    orderTtlSeconds, intervalSeconds, seed⟩ := TraderProfile.fits_iff.mp bounded.fits
  -- Each field is given within its range, or is within it already.
  constructor
  · refine TraderProfile.fits_iff.mpr ⟨?_, ?_, ?_, ?_, ?_, ?_, ?_, ?_, ?_, ?_, ?_⟩
    · exact getD_of checked.name name
    · exact getD_of (fun value given => (checked.userId value given).1) userId
    · exact getD_of checked.symbol symbol
    · exact positive_of checked.referencePrice referencePrice
    · exact positive_of checked.priceStep priceStep
    · exact getD_of checked.maxOffsetSteps maxOffsetSteps
    · exact positive_of checked.quantityMin quantityMin
    · exact positive_of checked.quantityMax quantityMax
    · exact positive_of checked.orderTtlSeconds orderTtlSeconds
    · exact positive_of checked.intervalSeconds intervalSeconds
    · exact getD_of checked.seed seed
  · -- The numbers that must be positive are so in the settings and in the row.
    exact getD_of (fun value given => (checked.referencePrice value given).1)
      bounded.referencePrice_pos
  · exact getD_of (fun value given => (checked.priceStep value given).1) bounded.priceStep_pos
  · exact getD_of (fun value given => (checked.quantityMin value given).1) bounded.quantityMin_pos
  · exact getD_of (fun value given => (checked.quantityMax value given).1) bounded.quantityMax_pos
  · exact getD_of (fun value given => (checked.orderTtlSeconds value given).1)
      bounded.orderTtlSeconds_pos
  · exact getD_of (fun value given => (checked.intervalSeconds value given).1)
      bounded.intervalSeconds_pos

/-- What the checks across the fields establish. -/
theorem validate_ok {attrs : ProfileAttrs} {stored : Option TraderProfile}
    {isSimulatedSymbol : String → Bool}
    (valid : attrs.validate stored isSimulatedSymbol = .ok ()) :
    (∀ largest ∈ attrs.quantityMax.or (stored.map TraderProfile.quantityMax),
        ∀ least ∈ attrs.quantityMin.or (stored.map TraderProfile.quantityMin), least ≤ largest) ∧
      isSimulatedSymbol (attrs.symbol.getD (stored.elim fallbackSymbol TraderProfile.symbol)) =
        true := by
  unfold validate at valid
  simp only at valid
  split_ifs at valid with below listed
  refine ⟨fun largest most least few => ?_, by simpa using listed⟩
  -- Both quantities are known, and the check has compared them.
  rw [most, few] at below
  simpa using below

end ProfileAttrs

section Requests

variable {good : ProfileOp → Prop} {told : (op : ProfileOp) → op.Reply → Prop}

/-- What an accepted field gives has a property that its check establishes. -/
theorem optionalField_each {α β : Type} {check : Field α → Except (List String) β}
    {field : Field α} {given : Option β} {holds : β → Prop}
    (accepted : optionalField check field = .ok given)
    (each : ∀ value, check field = .ok value → holds value) : ∀ value ∈ given, holds value := by
  intro value member
  cases member
  exact each value (optionalField_given accepted)

/-- An accepted text is not too long and not blank, and a new row has one. -/
structure TextChecked (maxLength : Nat) (stored : Bool)
    (result : Except (List String) (Option String)) : Prop where
  given : ∀ value, result = .ok (some value) → value.length ≤ maxLength ∧ isBlank value = false
  present : stored = false → result ≠ .ok none

/-- Nothing is accepted of a text that is refused. -/
theorem textChecked_error (maxLength : Nat) (stored : Bool) (messages : List String) :
    TextChecked maxLength stored (.error messages) := by
  constructor
  · intro value accepted
    cases accepted
  · intro _ accepted
    cases accepted

/-- A text is accepted when there is no message about it. -/
theorem textChecked_messages {maxLength : Nat} {stored : Bool} {value : String}
    {messages : List String}
    (clear : messages = [] → value.length ≤ maxLength ∧ isBlank value = false) :
    TextChecked maxLength stored
      (if messages = [] then .ok (some value) else .error messages) := by
  -- The first messages are returned before the stored text is looked at.
  by_cases none : messages = []
  · rw [if_pos none]
    constructor
    · intro accepted same
      cases same
      exact clear none
    · intro _ accepted
      cases accepted
  · rw [if_neg none]
    exact textChecked_error maxLength stored messages

variable (good told)

/-- A unique text is only looked up, and then it is checked. -/
theorem uniqueTextField_honors (label : String) (maxLength : Nat) (stored : Bool)
    (taken : String → ProfileProgram Bool)
    (looks : ∀ text, (taken text).Honors good told fun _ => True) (field : Field String) :
    (uniqueTextField label maxLength stored taken field).Honors good told
      (TextChecked maxLength stored) := by
  cases field with
  | missing =>
    cases stored with
    | true =>
      show TextChecked maxLength true (.ok none)
      constructor
      · intro value accepted
        cases accepted
      · intro new
        cases new
    | false => exact textChecked_error maxLength false _
  | null => exact textChecked_error maxLength stored _
  | invalid printed => exact textChecked_error maxLength stored _
  | given given =>
    unfold uniqueTextField
    simp only
    -- A blank text is refused before anything is looked up.
    by_cases blank : strip given = ""
    · rw [if_pos blank]
      exact textChecked_error maxLength stored _
    · rw [if_neg blank]
      apply (looks (strip given)).bind
      intro isTaken _
      have present : isBlank (strip given) = false := by
        rw [isBlank, strip_strip]
        exact decide_eq_false blank
      apply textChecked_messages
      intro clear
      -- A text that is too long has a message about that.
      refine ⟨Nat.not_lt.mp fun long => ?_, present⟩
      simp [textMessages, long] at clear

/-- Fields ask for a quantity above the largest one only if they give the largest one as well. -/
def ProfileFields.BoundsQuantity (fields : ProfileFields) : Prop :=
  fields.quantityMax = .missing → ∀ least, fields.quantityMin = .given least → least ≤ 10

/-- What the checks of a request establish of the fields that it gives. -/
structure Serialized (fields : ProfileFields) (stored : Option TraderProfile)
    (isSimulatedSymbol : String → Bool) (attrs : ProfileAttrs) : Prop where
  checked : attrs.Checked
  valid : attrs.validate stored isSimulatedSymbol = .ok ()
  named : stored = none → attrs.userId.isSome = true
  quantityMin : optionalField (integerField 1 (some maxInteger)) fields.quantityMin =
    .ok attrs.quantityMin
  quantityMax : optionalField (integerField 1 (some maxInteger)) fields.quantityMax =
    .ok attrs.quantityMax

/-- The checks of a request only look texts up. -/
theorem serialize_honors (fields : ProfileFields) (stored : Option TraderProfile)
    (isSimulatedSymbol : String → Bool) (looksName : ∀ text own, good (.nameTaken text own))
    (looksUser : ∀ text own, good (.userIdTaken text own)) :
    (fields.serialize stored isSimulatedSymbol).Honors good told fun result =>
      ∀ attrs, result = .ok attrs → Serialized fields stored isSimulatedSymbol attrs := by
  unfold ProfileFields.serialize
  -- Two fields ask the table whether their text is taken.
  have names := uniqueTextField_honors good told "name" 100 stored.isSome
    (ProfileProgram.nameTaken (stored.map TraderProfile.id))
    (fun text => ⟨looksName _ _, fun _ _ => trivial⟩) fields.name
  have users := uniqueTextField_honors good told "user id" 128 stored.isSome
    (ProfileProgram.userIdTaken (stored.map TraderProfile.id))
    (fun text => ⟨looksUser _ _, fun _ _ => trivial⟩) fields.userId
  refine names.bind fun name named => users.bind fun userId used => ?_
  split
  · -- All fields are accepted, and the checks across them decide.
    rename_i name userId strategy enabled symbol referencePrice priceStep maxOffsetSteps quantityMin
      quantityMax orderTtlSeconds intervalSeconds seed strategy_ok enabled_ok symbol_ok price_ok
      step_ok offset_ok min_ok max_ok ttl_ok interval_ok seed_ok
    intro attrs accepted
    obtain ⟨_, valid, rfl⟩ := Outcome.map_eq_ok accepted
    refine ⟨⟨?_, ?_, ?_, ?_, ?_, ?_, ?_, ?_, ?_, ?_, ?_⟩, valid, fun new => ?_, min_ok, max_ok⟩
    · exact fun value given => (named.given value (congrArg Except.ok given)).1
    · exact fun value given => used.given value (congrArg Except.ok given)
    · exact optionalField_each symbol_ok fun value => charField_length
    · exact optionalField_each price_ok fun value => integerField_range
    · exact optionalField_each step_ok fun value => integerField_range
    · exact optionalField_each offset_ok fun value => integerField_range
    · exact optionalField_each min_ok fun value => integerField_range
    · exact optionalField_each max_ok fun value => integerField_range
    · exact optionalField_each ttl_ok fun value => integerField_range
    · exact optionalField_each interval_ok fun value => integerField_range
    · exact optionalField_each seed_ok fun value => integerField_range
    · -- A new profile was given a user, since the field is required.
      cases userId with
      | none =>
        rw [new] at used
        exact absurd rfl (used.present rfl)
      | some value => rfl
  · intro attrs refused
    cases refused

end Requests

/-- A text with a character that is not white space is not blank. -/
theorem isBlank_of_solid {text : String} {c : Char} (member : c ∈ text.toList)
    (solid : isSpace c = false) : isBlank text = false := by
  refine decide_eq_false fun blank => ?_
  -- Nothing is left of the text only if everything is white space.
  have empty := congrArg String.toList blank
  rw [strip, String.toList_ofList, String.toList_empty, List.reverse_eq_nil_iff,
    List.dropWhile_eq_nil_iff] at empty
  have spaces : ∀ other ∈ text.toList.dropWhile isSpace, isSpace other = true :=
    fun other inside => empty other (List.mem_reverse.mpr inside)
  -- A text that is left would begin with something solid.
  have all : text.toList.dropWhile isSpace = [] := by
    cases left : text.toList.dropWhile isSpace with
    | nil => rfl
    | cons first rest =>
      have kept := List.head_dropWhile_not isSpace (l := text.toList) (by rw [left]; simp)
      simp only [left, List.head_cons] at kept
      rw [spaces first (left ▸ List.mem_cons_self)] at kept
      cases kept
  have space := List.dropWhile_eq_nil_iff.mp all c member
  rw [solid] at space
  cases space

namespace ProfileTable

variable {table : ProfileTable} {profile : TraderProfile}

/-- The rows are what is stored under the identifiers. -/
theorem mem_rows_iff : profile ∈ table.rows ↔ ∃ id, table.get? id = some profile := by
  simp only [rows, List.mem_map, Prod.exists, exists_eq_right, Dict.get?_eq_some_iff]

/-- The row that an operation writes, if it writes one. -/
def Writes : ProfileOp → TraderProfile → Prop
  | .insert profile, written => written = profile
  | .update profile, written => written = profile
  | .updateOrCreate profile, written => ∃ id, written = { profile with id }
  | _, _ => False

/-- What an operation does to the table: nothing, or a row is deleted, or one is written. -/
inductive Stepped (table : ProfileTable) (op : ProfileOp) : ProfileTable → Prop where
  | same : Stepped table op table
  | deleted (id : UUID) (asked : op = .delete id) : Stepped table op (table.erase id)
  | written (profile : TraderProfile) (asked : Writes op profile)
      (accepted : table.accepts profile = true) : Stepped table op (table.set profile.id profile)

/-- An insertion writes its row, or nothing. -/
theorem insert_stepped (table : ProfileTable) (op : ProfileOp) (asked : Writes op profile) :
    Stepped table op (table.insert profile).1 := by
  -- A row under the same identifier, or one that is not accepted, stops the insertion.
  unfold insert
  cases found : table.get? profile.id with
  | some row => exact .same
  | none =>
    simp only
    split_ifs with accepted
    · exact .written profile asked accepted
    · exact .same

/-- An update writes its row, or nothing. -/
theorem update_stepped (table : ProfileTable) {op : ProfileOp} (asked : Writes op profile) :
    Stepped table op (table.update profile).1 := by
  -- A row that is missing, or one that is not accepted, stops the update.
  unfold update
  cases found : table.get? profile.id with
  | none => exact .same
  | some row =>
    simp only
    split_ifs with accepted
    · exact .written profile asked accepted
    · exact .same

/-- Every operation is one of the three. -/
theorem exec_stepped (table : ProfileTable) (collates : String → String → Bool) (op : ProfileOp) :
    Stepped table op (table.exec collates op).1 := by
  -- Reading leaves the table, and the other operations write one row at most.
  cases op with
  | nameTaken name own => exact .same
  | userIdTaken userId own => exact .same
  | get id => exact .same
  | all => exact .same
  | insert profile => exact insert_stepped table _ rfl
  | update profile => exact update_stepped table rfl
  | delete id => exact .deleted id rfl
  -- The seed updates the row of its user, or brings in a new one.
  | updateOrCreate profile =>
    simp only [exec, updateOrCreate]
    cases found : table.rows.find? fun row => row.userId = profile.userId with
    | some row => exact update_stepped table ⟨row.id, rfl⟩
    | none =>
      have stepped := insert_stepped table (.updateOrCreate profile) ⟨profile.id, rfl⟩
      simp only
      generalize table.insert profile = inserted at stepped ⊢
      obtain ⟨after, made⟩ := inserted
      cases made <;> exact stepped

/-- A row that can be stored fits, and shares neither its name nor its user with another row. -/
theorem accepts_iff : table.accepts profile = true ↔ profile.fits = true ∧
    ∀ other ∈ table.rows, other.id = profile.id ∨
      (other.name ≠ profile.name ∧ other.userId ≠ profile.userId) := by
  simp only [accepts, Bool.and_eq_true, List.all_eq_true, decide_eq_true_eq]

/-- Rows are stored under their identifiers, no two share a name or a user, and each is as asked. -/
structure Kept (holds : TraderProfile → Prop) (table : ProfileTable) : Prop where
  keyed : ∀ id profile, table.get? id = some profile → profile.id = id
  distinct : ∀ profile ∈ table.rows, ∀ other ∈ table.rows,
    profile.name = other.name ∨ profile.userId = other.userId → profile = other
  each : ∀ profile ∈ table.rows, holds profile

variable {holds : TraderProfile → Prop}

/-- The table without rows keeps everything. -/
theorem kept_empty : Kept holds .empty := by
  have none : ∀ profile, profile ∉ rows .empty := fun profile => List.not_mem_nil
  exact ⟨fun id profile found => by simp at found, fun profile member => absurd member (none profile),
    fun profile member => absurd member (none profile)⟩

/-- An operation keeps the rows as asked when it only writes rows that are. -/
theorem Kept.step (kept : table.Kept holds) {op : ProfileOp} {after : ProfileTable}
    (stepped : Stepped table op after)
    (good : ∀ written, Writes op written → written.fits = true → holds written) :
    after.Kept holds := by
  cases stepped with
  | same => exact kept
  | deleted id asked =>
    -- The rows afterwards are rows from before.
    have fewer : ∀ profile, profile ∈ rows (table.erase id) → profile ∈ table.rows := by
      intro profile member
      obtain ⟨other, found⟩ := mem_rows_iff.mp member
      rw [Dict.get?_erase] at found
      split at found
      · cases found
      · exact mem_rows_iff.mpr ⟨other, found⟩
    constructor
    · intro other profile found
      rw [Dict.get?_erase] at found
      split at found
      · cases found
      · exact kept.keyed other profile found
    · exact fun profile member other also =>
        kept.distinct profile (fewer profile member) other (fewer other also)
    · exact fun profile member => kept.each profile (fewer profile member)
  | written profile asked accepted =>
    obtain ⟨fits, apart⟩ := accepts_iff.mp accepted
    -- A row afterwards is the one that is written, or one from before with another identifier.
    have either : ∀ other, other ∈ rows (table.set profile.id profile) →
        other = profile ∨ other ∈ table.rows ∧ other.id ≠ profile.id := by
      intro other member
      obtain ⟨id, found⟩ := mem_rows_iff.mp member
      rw [Dict.get?_set] at found
      split at found
      · exact .inl (Option.some.inj found).symm
      · rename_i differs
        refine .inr ⟨mem_rows_iff.mpr ⟨id, found⟩, ?_⟩
        rw [kept.keyed id other found]
        exact differs
    constructor
    · intro id other found
      rw [Dict.get?_set] at found
      split at found
      · rename_i same
        cases found
        exact same.symm
      · exact kept.keyed id other found
    · intro first member second also shared
      -- Two rows that share a name or a user are one row, even if one of them has been written.
      rcases either first member with rfl | ⟨before, differs⟩
      · rcases either second also with rfl | ⟨before, differs⟩
        · rfl
        · obtain ⟨name, userId⟩ := (apart second before).resolve_left differs
          exact absurd shared (not_or.mpr ⟨name.symm, userId.symm⟩)
      · rcases either second also with rfl | ⟨before', _⟩
        · obtain ⟨name, userId⟩ := (apart first before).resolve_left differs
          exact absurd shared (not_or.mpr ⟨name, userId⟩)
        · exact kept.distinct first before second before' shared
    · intro other member
      rcases either other member with rfl | ⟨before, _⟩
      · exact good other asked fits
      · exact kept.each other before

end ProfileTable

/-- A request is served by a process whose universe lists short codes. -/
def ProfileCall.ReadsCodes (call : ProfileCall) : Prop :=
  ∀ ticker ∈ call.settings.tickers, isShortCode ticker = true

/-- A new profile with a least quantity above ten also gets a largest one. -/
def ProfileCall.BoundsQuantity (call : ProfileCall) : Prop :=
  match call.request with
  | .create _ fields => fields.BoundsQuantity
  | _ => True

/-- What is asked of the rows: every field is sound, and perhaps the quantities are a range. -/
def TraderProfile.Meets (ranged : Prop) (profile : TraderProfile) : Prop :=
  profile.Sound ∧ (ranged → profile.HasRange)

/-- An answer only shows rows as they are asked for. -/
def ProfileAnswer.Shows (holds : TraderProfile → Prop) : ProfileAnswer → Prop
  | .response _ (.profile profile) => holds profile
  | .response _ (.profiles profiles) => profiles.Forall holds
  | _ => True

namespace ProfileProgram

/-- A request may write rows as they are asked for, if they fit. -/
def MayWrite (holds : TraderProfile → Prop) (op : ProfileOp) : Prop :=
  ∀ written, ProfileTable.Writes op written → written.fits = true → holds written

/-- A reply shows rows as they are asked for. -/
def Told (holds : TraderProfile → Prop) : (op : ProfileOp) → op.Reply → Prop
  | .get id, some profile => profile.id = id ∧ holds profile
  | .all, profiles => List.Forall holds profiles
  | _, _ => True

variable {ranged : Prop}

/-- The fields of a new profile before any of them is given. -/
theorem default_bounded (id : UUID) : (TraderProfile.default id).Bounded := by
  have short : fallbackSymbol.length ≤ 6 := by decide
  constructor <;> simp [TraderProfile.default, TraderProfile.fits, maxBigInteger, maxInteger, short]

/-- The profile of a request that passes its checks has sound fields. -/
theorem sound_of_serialized (id : UUID) {fields : ProfileFields} {stored : Option TraderProfile}
    {settings : ProfileSettings} {attrs : ProfileAttrs}
    (codes : ∀ ticker ∈ settings.tickers, isShortCode ticker = true)
    (serialized : Serialized fields stored settings.isSimulatedSymbol attrs)
    (before : ∀ profile ∈ stored, profile.Sound) :
    (attrs.applyTo (stored.getD (.default id))).Sound := by
  have bounded : (stored.getD (.default id)).Bounded := by
    cases stored with
    | none => exact default_bounded id
    | some profile => exact (before profile rfl).toBounded
  obtain ⟨_, listed⟩ := ProfileAttrs.validate_ok serialized.valid
  refine ⟨serialized.checked.applyTo bounded, ?_, ?_⟩
  · cases stored with
    | none =>
      -- A new profile has the user that is given.
      obtain ⟨userId, given⟩ := Option.isSome_iff_exists.mp (serialized.named rfl)
      simp only [ProfileAttrs.applyTo, given, Option.getD_some]
      exact (serialized.checked.userId userId given).2
    | some profile =>
      exact ProfileAttrs.getD_of (fun userId given => (serialized.checked.userId userId given).2)
        (before profile rfl).userId_present
  · have code := codes _ (of_decide_eq_true listed)
    cases stored with
    | none => exact code
    | some profile => exact code

/-- A stored profile has a range of quantities after it is changed. -/
theorem hasRange_of_patched {fields : ProfileFields} {profile : TraderProfile}
    {isSimulatedSymbol : String → Bool} {attrs : ProfileAttrs}
    (serialized : Serialized fields (some profile) isSimulatedSymbol attrs) :
    (attrs.applyTo profile).HasRange := by
  obtain ⟨ordered, _⟩ := ProfileAttrs.validate_ok serialized.valid
  refine ordered _ ?_ _ ?_
  · cases given : attrs.quantityMax <;> simp [ProfileAttrs.applyTo, given]
  · cases given : attrs.quantityMin <;> simp [ProfileAttrs.applyTo, given]

/-- A new profile has a range of quantities when its fields ask for one. -/
theorem hasRange_of_created {fields : ProfileFields} {id : UUID}
    {isSimulatedSymbol : String → Bool} {attrs : ProfileAttrs}
    (serialized : Serialized fields none isSimulatedSymbol attrs) (bounds : fields.BoundsQuantity) :
    (attrs.applyTo (.default id)).HasRange := by
  obtain ⟨ordered, _⟩ := ProfileAttrs.validate_ok serialized.valid
  show attrs.quantityMin.getD 1 ≤ attrs.quantityMax.getD 10
  cases most : attrs.quantityMax with
  | none =>
    -- Without a largest quantity, the least one is at most ten.
    have missing := optionalField_absent (most ▸ serialized.quantityMax)
    cases least : attrs.quantityMin with
    | none => decide
    | some few =>
      have accepted := optionalField_given (least ▸ serialized.quantityMin)
      cases given : fields.quantityMin with
      | given value =>
        have small := bounds missing value given
        rw [given] at accepted
        unfold integerField at accepted
        simp only at accepted
        split_ifs at accepted
        cases accepted
        exact small
      | missing => rw [given] at accepted; cases accepted
      | null => rw [given] at accepted; cases accepted
      | invalid printed => rw [given] at accepted; cases accepted
  -- A largest quantity was compared with the least one by the serializer.
  | some largest =>
    cases least : attrs.quantityMin with
    | none => exact (serialized.checked.quantityMax largest most).1
    | some few => exact ordered largest (by rw [most]; rfl) few (by rw [least]; rfl)

/-- The operations that only read or delete may always be performed. -/
theorem mayWrite_of_none {holds : TraderProfile → Prop} {op : ProfileOp}
    (none : ∀ written, ¬ ProfileTable.Writes op written) : MayWrite holds op :=
  fun written asked => absurd asked (none written)

/-- A save writes the profile, over a row or as a new one. -/
theorem save_honors {holds : TraderProfile → Prop} {told : (op : ProfileOp) → op.Reply → Prop}
    {profile : TraderProfile} (kept : profile.fits = true → holds profile) :
    profile.save.Honors (MayWrite holds) told fun _ => True := by
  have update : MayWrite holds (.update profile) := by
    intro written asked fits
    cases asked
    exact kept fits
  have insert : MayWrite holds (.insert profile) := by
    intro written asked fits
    cases asked
    exact kept fits
  refine ⟨update, fun reply _ => ?_⟩
  -- Only a row that is gone is written as a new one.
  cases reply with
  | none => exact trivial
  | some updated =>
    cases updated with
    | true => exact trivial
    | false => exact ⟨insert, fun _ _ => trivial⟩

variable {settings : ProfileSettings}

/-- A request for a new profile writes one as it is asked for. -/
theorem createProfile_honors (codes : ∀ ticker ∈ settings.tickers, isShortCode ticker = true)
    (id : UUID) (fields : ProfileFields) (bounds : ranged → fields.BoundsQuantity) :
    (createProfile settings id fields).Honors (MayWrite (TraderProfile.Meets ranged))
      (Told (TraderProfile.Meets ranged)) (ProfileAnswer.Shows (TraderProfile.Meets ranged)) := by
  unfold createProfile
  split
  · exact trivial
  · refine (serialize_honors _ _ fields none settings.isSimulatedSymbol
      (fun _ _ => mayWrite_of_none fun _ asked => asked)
      (fun _ _ => mayWrite_of_none fun _ asked => asked)).bind fun result accepted => ?_
    cases result with
    | error errors => exact trivial
    | ok attrs =>
      have serialized := accepted attrs rfl
      -- What passed all checks meets the conditions on a stored row.
      have meets : (attrs.applyTo (.default id)).Meets ranged := by
        refine ⟨sound_of_serialized id codes serialized fun profile member => ?_, fun asked => ?_⟩
        · cases member
        · exact hasRange_of_created serialized (bounds asked)
      refine ⟨fun written asked _ => ?_, fun made _ => ?_⟩
      · cases asked
        exact meets
      · cases made with
        | true => exact meets
        | false => exact trivial

/-- A request about a stored profile goes on with one that is as it was asked for. -/
theorem withProfile_honors {holds : TraderProfile → Prop} (id : UUID)
    {view : TraderProfile → ProfileProgram ProfileAnswer}
    (kept : ∀ profile, profile.id = id → holds profile →
      (view profile).Honors (MayWrite holds) (Told holds) (ProfileAnswer.Shows holds)) :
    (withProfile id view).Honors (MayWrite holds) (Told holds) (ProfileAnswer.Shows holds) := by
  refine ⟨mayWrite_of_none fun _ asked => asked, fun reply known => ?_⟩
  cases reply with
  | none => exact trivial
  | some profile => exact kept profile known.1 known.2

/-- A change writes the profile that was read, with sound fields and a range of quantities. -/
theorem patchProfile_honors (codes : ∀ ticker ∈ settings.tickers, isShortCode ticker = true)
    (id : UUID) (fields : ProfileFields) :
    (patchProfile settings id fields).Honors (MayWrite (TraderProfile.Meets ranged))
      (Told (TraderProfile.Meets ranged)) (ProfileAnswer.Shows (TraderProfile.Meets ranged)) := by
  refine withProfile_honors id fun profile _ held => ?_
  split
  · exact trivial
  · refine (serialize_honors _ _ fields (some profile) settings.isSimulatedSymbol
      (fun _ _ => mayWrite_of_none fun _ asked => asked)
      (fun _ _ => mayWrite_of_none fun _ asked => asked)).bind fun result accepted => ?_
    cases result with
    | error errors => exact trivial
    | ok attrs =>
      have serialized := accepted attrs rfl
      -- The fields that are not given keep the values of the stored row.
      have meets : (attrs.applyTo profile).Meets ranged := by
        refine ⟨sound_of_serialized profile.id codes serialized fun stored member => ?_, ?_⟩
        · cases member
          exact held.1
        · exact fun _ => hasRange_of_patched serialized
      refine (save_honors fun _ => meets).bind fun saved _ => ?_
      cases saved with
      | true => exact meets
      | false => exact trivial

/-- What is drawn for a demo trader makes a profile with sound fields and a range of quantities. -/
theorem seed_meets {center : Int} (draw : SeedDraw center) (strategy : Strategy) {symbol : String}
    (code : isShortCode symbol = true) (index : Nat)
    (fits : (draw.profile strategy symbol index).fits = true) :
    (draw.profile strategy symbol index).Meets ranged := by
  have price : 1 ≤ draw.referencePrice := by
    have range := draw.referencePrice_range.1
    unfold referencePriceRange at range
    split at range <;> simp only at range <;> omega
  have step : 1 ≤ draw.priceStep := by
    have choice := draw.priceStep_choice
    simp only [List.mem_cons, List.not_mem_nil, or_false] at choice
    omega
  have least := draw.quantityMin_range.1
  have most := draw.quantityMax_range.1
  -- The user begins with a letter, and so it is not blank.
  have present : isBlank (seedKey strategy symbol "-user" index) = false := by
    refine isBlank_of_solid (c := 'r') ?_ (by decide)
    simp [seedKey, String.toList_append]
  refine ⟨⟨⟨fits, price, step, least, ?_, ?_, ?_⟩, present, code⟩, fun _ => most⟩
  · show 1 ≤ draw.quantityMax
    omega
  · show (1 : Int) ≤ 16
    decide
  · exact draw.intervalSeconds_range.1

/-- Writing demo traders writes profiles with sound fields and ranges of quantities. -/
theorem seedRows_honors {center : Int} (strategy : Strategy) {symbol : String}
    (code : isShortCode symbol = true) (draws : List (SeedDraw center)) :
    ∀ index created updated, (seedRows strategy symbol draws index created updated).Honors
      (MayWrite (TraderProfile.Meets ranged)) (Told (TraderProfile.Meets ranged))
      (ProfileAnswer.Shows (TraderProfile.Meets ranged)) := by
  induction draws with
  | nil => exact fun _ _ _ => trivial
  | cons draw draws ih =>
    intro index created updated
    refine ⟨fun written asked fits => ?_, fun reply _ => ?_⟩
    · -- The row that is written has the fields that are drawn, under some identifier.
      obtain ⟨id, rfl⟩ := asked
      exact seed_meets { draw with id } strategy code index fits
    · cases reply with
      | none => exact trivial
      | some made =>
        -- Whether the row was created or updated, the next one follows.
        cases made with
        | true => exact ih _ _ _
        | false => exact ih _ _ _

/-- Every request writes profiles as they are asked for, and shows none but those. -/
theorem program_honors {call : ProfileCall} (codes : call.ReadsCodes)
    (bounds : ranged → call.BoundsQuantity) :
    call.program.Honors (MayWrite (TraderProfile.Meets ranged))
      (Told (TraderProfile.Meets ranged)) (ProfileAnswer.Shows (TraderProfile.Meets ranged)) := by
  obtain ⟨settings, request⟩ := call
  cases request with
  | list =>
    refine ⟨mayWrite_of_none fun _ asked => asked, fun profiles known => ?_⟩
    exact known
  | create id fields => exact createProfile_honors codes id fields bounds
  | detail id => exact withProfile_honors id fun _ _ held => held
  | patch id fields => exact patchProfile_honors codes id fields
  -- A row is deleted, and none is written.
  | remove id =>
    refine withProfile_honors id fun profile _ _ => ?_
    split
    · exact trivial
    · exact ⟨mayWrite_of_none fun _ asked => asked, fun _ _ => trivial⟩
  | seed strategy symbol closePrice draws =>
    show (seedTraders settings strategy symbol closePrice draws).Honors _ _ _
    unfold seedTraders
    simp only
    split
    · exact trivial
    · split
      · exact trivial
      · -- Only a listed symbol is seeded.
        rename_i listed
        have member := of_decide_eq_true (not_not.mp listed)
        exact seedRows_honors strategy (codes _ member) draws 1 0 0

end ProfileProgram

section Runs

variable (collates : String → String → Bool)

/-- The replies to operations show what is stored. -/
theorem exec_told {holds : TraderProfile → Prop} {table : ProfileTable} (kept : table.Kept holds)
    (op : ProfileOp) : ProfileProgram.Told holds op (table.exec collates op).2 := by
  cases op with
  | get id =>
    simp only [ProfileTable.exec]
    cases found : table.get? id with
    | none => exact trivial
    | some profile =>
      exact ⟨kept.keyed id profile found, kept.each profile (ProfileTable.mem_rows_iff.mpr ⟨id, found⟩)⟩
  | all =>
    -- Sorting by names neither adds rows nor drops any.
    refine List.forall_iff_forall_mem.mpr fun profile member => ?_
    exact kept.each profile (List.mem_mergeSort.mp member)
  | nameTaken name own => exact trivial
  | userIdTaken userId own => exact trivial
  | insert profile => exact trivial
  | update profile => exact trivial
  | delete id => exact trivial
  | updateOrCreate profile => exact trivial

/-- Requests keep the stored profiles as they are asked for. -/
def profileContract (ranged : Prop) : Contract (profileService collates) where
  holds := ProfileTable.Kept (TraderProfile.Meets ranged)
  good := fun _ => ProfileProgram.MayWrite (TraderProfile.Meets ranged)
  told := ProfileProgram.Told (TraderProfile.Meets ranged)
  admits := fun call => call.ReadsCodes ∧ (ranged → call.BoundsQuantity)
  answers := fun _ answer => answer.Shows (TraderProfile.Meets ranged)
  performs := by
    intro table _ _ op after reply kept good executed
    have same : table.exec collates op = (after, reply) := Option.some.inj executed
    have stepped := ProfileTable.exec_stepped table collates op
    have known := exec_told collates kept op
    rw [same] at stepped known
    exact ⟨kept.step stepped good, known⟩
  serves := by
    intro table _ call after program kept admitted served
    cases served
    exact ⟨kept, ProfileProgram.program_honors admitted.1 admitted.2⟩

/-- No profile, and no request on the way. -/
def ProfileSystem.new : ProfileSystem := ⟨.empty, .empty⟩

/-- The requests that arrive in a turn have a property. -/
def ProfileTurn.Asks (holds : ProfileCall → Prop) : ProfileTurn → Prop
  | .begin _ call => holds call
  | .resume _ _ => True

/-- Requests and seed commands uphold what is asked of the profiles, and answer by it. -/
theorem profiles_upheld (turns : List ProfileTurn)
    (codes : ∀ turn ∈ turns, ProfileTurn.Asks ProfileCall.ReadsCodes turn) (ranged : Prop)
    (bounds : ranged → ∀ turn ∈ turns, ProfileTurn.Asks ProfileCall.BoundsQuantity turn) :
    let reached := Machine.runTotal (Shared.step (profileService collates)) ProfileSystem.new turns
    (profileContract collates ranged).Upheld reached.1 ∧
      ∀ output ∈ reached.2, ∀ given ∈ output, given.2.Shows (TraderProfile.Meets ranged) := by
  -- An empty table keeps everything that is asked.
  have upheld : (profileContract collates ranged).Upheld ProfileSystem.new :=
    Contract.upheld_of_idle ProfileTable.kept_empty
  refine upheld.run turns fun turn member => ?_
  cases turn with
  | resume thread nature => exact trivial
  | begin thread call => exact ⟨codes _ member, fun asked => bounds asked _ member⟩

/--
Requests and seed commands on any threads, one database operation at a time, keep the profiles.

Each row has sound fields under its own identifier, and its name and its user are its own. The
quantities are ranges as well when every new profile with a least quantity above ten also gets a
largest one. No answer shows a row that is otherwise.
-/
theorem profiles_kept (turns : List ProfileTurn)
    (codes : ∀ turn ∈ turns, ProfileTurn.Asks ProfileCall.ReadsCodes turn) :
    let reached := Machine.runTotal (Shared.step (profileService collates)) ProfileSystem.new turns
    let ranged := ∀ turn ∈ turns, ProfileTurn.Asks ProfileCall.BoundsQuantity turn
    reached.1.store.Kept (TraderProfile.Meets ranged) ∧
      ∀ output ∈ reached.2, ∀ given ∈ output, given.2.Shows (TraderProfile.Meets ranged) := by
  intro reached ranged
  -- What the contract is about is chosen as what the requests ask for.
  obtain ⟨upheld, answers⟩ := profiles_upheld collates turns codes ranged id
  exact ⟨upheld.store, answers⟩

end Runs

/-- Fields of a request that only names a trader. -/
def namingFields (name : String) : ProfileFields where
  name := .given name
  userId := .given name
  strategy := .missing
  enabled := .missing
  symbol := .missing
  referencePrice := .missing
  priceStep := .missing
  maxOffsetSteps := .missing
  quantityMin := .missing
  quantityMax := .missing
  orderTtlSeconds := .missing
  intervalSeconds := .missing
  seed := .missing

/-- A request to a process in development, and the operations that follow it on its thread. -/
def servedAlone (thread : Nat) (request : ProfileRequest) (operations : Nat) : List ProfileTurn :=
  .begin thread ⟨⟨true, [fallbackSymbol]⟩, request⟩ ::
    List.replicate operations (.resume thread ())

/-- The turns of one request ask for what the request does. -/
theorem asks_servedAlone {holds : ProfileCall → Prop} {thread operations : Nat}
    {request : ProfileRequest} (asked : holds ⟨⟨true, [fallbackSymbol]⟩, request⟩) :
    ∀ turn ∈ servedAlone thread request operations, ProfileTurn.Asks holds turn := by
  -- The request asks at its beginning, and resuming it asks for nothing.
  intro turn member
  rcases List.mem_cons.mp member with rfl | later
  · exact asked
  · rw [(List.mem_replicate.mp later).2]
    exact trivial

/-- The universe without data has one ticker, which is a short code. -/
theorem fallback_readsCodes (request : ProfileRequest) :
    ProfileCall.ReadsCodes ⟨⟨true, [fallbackSymbol]⟩, request⟩ := by
  intro ticker member
  rw [List.mem_singleton.mp member]
  decide

/-- Threads that go on in turn. -/
def takingTurns (threads : List Nat) : List ProfileTurn := threads.map fun thread => .resume thread ()

/-- Threads that go on ask for nothing new. -/
theorem asks_takingTurns {holds : ProfileCall → Prop} (threads : List Nat) :
    ∀ turn ∈ takingTurns threads, ProfileTurn.Asks holds turn := by
  intro turn member
  obtain ⟨thread, _, rfl⟩ := List.mem_map.mp member
  exact trivial

/-- Fields of a request that gives none. -/
def noFields : ProfileFields := { namingFields "" with name := .missing, userId := .missing }

/-- A request for a change arrives. -/
def patching (thread : Nat) (fields : ProfileFields) : ProfileTurn :=
  .begin thread ⟨⟨true, [fallbackSymbol]⟩, .patch 7 fields⟩

/-- A patch that waits its turn asks as its client does. -/
theorem patching_asks (thread : Nat) (fields : ProfileFields) :
    ProfileTurn.Asks ProfileCall.ReadsCodes (patching thread fields) :=
  fallback_readsCodes (.patch 7 fields)

/-- Two changes of one trader, who has quantities from one to ten, that both read it before either is
stored: one gives a least quantity of eight, the other a largest one of four. -/
def racingPatches : List ProfileTurn :=
  servedAlone 0 (.create 7 (namingFields "ann")) 4 ++
    ([patching 1 { noFields with quantityMin := .given 8 },
      patching 2 { noFields with quantityMax := .given 4 }] ++
      takingTurns [1, 2, 1, 2, 1, 2, 1, 2])

/-- The racing patches ask for profiles by their codes. -/
theorem racingPatches_asks :
    ∀ turn ∈ racingPatches, ProfileTurn.Asks ProfileCall.ReadsCodes turn := by
  have created : ∀ turn ∈ servedAlone 0 (.create 7 (namingFields "ann")) 4,
      ProfileTurn.Asks ProfileCall.ReadsCodes turn := asks_servedAlone (fallback_readsCodes _)
  rw [racingPatches, List.forall_mem_append, List.forall_mem_append]
  -- Both patches give a quantity, and neither gives a symbol.
  refine ⟨created, ?_, asks_takingTurns _⟩
  simp only [List.forall_mem_cons]
  exact ⟨patching_asks _ _, patching_asks _ _, fun _ member => absurd member List.not_mem_nil⟩

/-- Two patches race for one name. -/
theorem profiles_kept_named :
    let reached := Machine.runTotal (Shared.step (profileService fun _ _ => true)) ProfileSystem.new
      racingPatches
    let ranged := ∀ turn ∈ racingPatches, ProfileTurn.Asks ProfileCall.BoundsQuantity turn
    reached.1.store.Kept (TraderProfile.Meets ranged) ∧
      ∀ output ∈ reached.2, ∀ given ∈ output, given.2.Shows (TraderProfile.Meets ranged) :=
  profiles_kept (fun _ _ => true) racingPatches racingPatches_asks

/-- The change that is stored last wins as a whole, so that the quantities are still a range. -/
example : ((Machine.runTotal (Shared.step (profileService fun _ _ => true)) ProfileSystem.new
    racingPatches).1.store.get? 7).map (fun profile => (profile.quantityMin, profile.quantityMax)) =
    some (1, 4) := by
  decide

/-- A new profile without a largest quantity gets the usual one, whatever the least one is. -/
example : ((Machine.runTotal (Shared.step (profileService fun _ _ => true)) ProfileSystem.new
    (servedAlone 0 (.create 7 { namingFields "ann" with quantityMin := .given 50 })
      4)).1.store.get? 7).map (fun profile => (profile.quantityMin, profile.quantityMax)) =
    some (50, 10) := by
  decide

end StockMarket
