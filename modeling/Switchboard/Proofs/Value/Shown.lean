/-
**Values read back from the texts that show them.**

A value is read from a text without the blanks at its ends, and a date only if its year has four digits. So a
value that is no double is read back from its own text unless blanks end the text, or the year is shown behind
a sign.

* `Value.IsTrimmed`, `Value.HasPlainYear` — what the two rules ask of a value.
* `Value.readLike_shown` — **what any value that was read once is read as from its own text.**
* `Property.withValueRead_shown` — **which of its fixed values a property takes by their texts.**
-/

import Switchboard.Proofs.Store.Representation
import Switchboard.Proofs.Time.Rfc3339

namespace Switchboard

namespace Value

/-- No blank starts or ends the text of a value. Only values of the type of texts can have one there. -/
def IsTrimmed : Value → Prop
  | text content => Text.trim content = content
  | bool _ | int _ | double _ | date _ => True

/-- The year of a date has four digits and no sign. -/
def HasPlainYear : Value → Prop
  | date instant => 0 ≤ instant.date.year ∧ instant.date.year ≤ 9999
  | text _ | bool _ | int _ | double _ => True

instance : DecidablePred IsTrimmed
  | text content => inferInstanceAs (Decidable (Text.trim content = content))
  | bool _ | int _ | double _ | date _ => isTrue trivial

instance : DecidablePred HasPlainYear
  | date instant => inferInstanceAs (Decidable (0 ≤ instant.date.year ∧ instant.date.year ≤ 9999))
  | text _ | bool _ | int _ | double _ => isTrue trivial

variable {like value : Value}

/-! ### The texts that show values -/

/-- The text of an integer is a sign and digits. -/
theorem solid_writeInt (number : Int) : ∀ c ∈ (Number.writeInt number).toList, Text.isBlank c = false := by
  have digits (number : Nat) : ∀ c ∈ (Number.writeNat number).toList, Text.isBlank c = false := by
    intro c listed
    rw [Number.toList_writeNat] at listed
    exact Text.isBlank_of_isDigit (Number.isDigit_of_toDigits listed)
  unfold Number.writeInt
  split
  · rw [String.toList_append, List.forall_mem_append]
    exact ⟨Text.solid_singleton (show Text.isBlank '-' = false from rfl), digits _⟩
  · exact digits _

/-- Trimming leaves the text of a value as it is, if no blanks end it. -/
theorem trim_shown (single : value.type ≠ .double) (trimmed : value.IsTrimmed) :
    Text.trim value.shown = value.shown := by
  cases value with
  | text content => exact trimmed
  | bool truth => cases truth <;> decide
  | int number => exact Text.trim_of_solid (solid_writeInt _)
  | double number => exact absurd rfl single
  | date instant => exact Text.trim_of_solid (Time.solid_text instant)

/-- The word for a truth value spells it. -/
theorem truthOfWord?_truthWord (truth : Bool) : truthOfWord? (Text.lower (truthWord truth)) = some truth := by
  cases truth <;> decide +kernel

/-- A value without blanks at its ends is read back from its text, but for the years behind a sign. -/
theorem readTrimmed_shown (single : value.type ≠ .double) :
    readTrimmed value.type value.shown =
      if value.HasPlainYear then .ok value else .error (.notDate value.shown .invalidCharacters) := by
  unfold readTrimmed
  cases value with
  | text content => rfl
  | bool truth =>
    dsimp only [type, shown]
    rw [truthOfWord?_truthWord]
    rfl
  | int number =>
    dsimp only [type, shown]
    rw [Number.readSigned_writeInt]
    rfl
  | double number => exact absurd rfl single
  | date instant =>
    dsimp only [type, shown]
    split
    next plain =>
      rw [Time.readInstant_text plain.1 plain.2]
      rfl
    next far =>
      rw [Time.readInstant_text_of_far far]
      rfl

/-- What a text without blanks at its ends is read as has none either, and has the type that was asked for. -/
theorem of_readTrimmed {type : ValueType} {content : String} (trimmed : Text.trim content = content)
    (read : readTrimmed type content = .ok value) : value.type = type ∧ value.IsTrimmed := by
  unfold readTrimmed at read
  cases type <;> dsimp only at read
  case text =>
    cases read
    exact ⟨rfl, trimmed⟩
  case bool =>
    split at read <;> cases read
    exact ⟨rfl, trivial⟩
  case int =>
    cases number : Number.readSigned content.toList <;> rw [number] at read <;> cases read
    exact ⟨rfl, trivial⟩
  case double =>
    cases number : Number.readDouble content.toList <;> rw [number] at read <;> cases read
    exact ⟨rfl, trivial⟩
  case date =>
    cases instant : Time.readInstant content <;> rw [instant] at read <;> cases read
    exact ⟨rfl, trivial⟩

/-- What is read has the type of the value that it is read like. -/
theorem of_readLike {raw : String} (read : like.readLike raw = .ok value) :
    value.type = like.type ∧ value.IsTrimmed :=
  of_readTrimmed (Text.trim_trim raw) read

/-- **What any value that was read once is read as from its own text**: itself, but for dates of years before 0
and after 9999, whose texts are those of no date. -/
theorem readLike_shown {raw : String} (single : like.type ≠ .double) (read : like.readLike raw = .ok value) :
    like.readLike value.shown =
      if value.HasPlainYear then .ok value else .error (.notDate value.shown .invalidCharacters) := by
  obtain ⟨typed, trimmed⟩ := of_readLike read
  have no_double : value.type ≠ .double := typed ▸ single
  unfold readLike
  rw [trim_shown no_double trimmed, ← typed]
  exact readTrimmed_shown no_double

/-- A date that an offset moves into the year 10000 is accepted, and what is shown for it is not. -/
theorem readLike_shown_past_plainYears :
    ∃ value, (date .epoch).readLike "9999-12-31T23:59:59-01:00" = .ok value ∧
      value.shown = "+10000-01-01T00:59:59+00:00" ∧
      (date .epoch).readLike value.shown =
        .error (.notDate "+10000-01-01T00:59:59+00:00" .invalidCharacters) :=
  ⟨date ⟨253402304399, 0, by decide⟩, by decide +kernel, by decide +kernel, by decide +kernel⟩

theorem readLike_shown_leapSecond :
    ∃ value, (date .epoch).readLike "2016-12-31T23:59:60.5Z" = .ok value ∧
      (date .epoch).readLike value.shown = .ok value := by
  have read : (date .epoch).readLike "2016-12-31T23:59:60.5Z" =
      .ok (date ⟨1483228799, 1500000000, by decide⟩) := by decide +kernel
  refine ⟨_, read, (readLike_shown (by decide) read).trans (if_pos ?_)⟩
  decide +kernel

end Value

/-! ### Fixed values -/

namespace Property

variable {property : Property} {fixed : Value}

/-- A fixed value that is no double is accepted. -/
theorem checkAccepts_of_fixed (listed : fixed ∈ property.fixedValues) (single : fixed.type ≠ .double) :
    property.checkAccepts fixed = .ok () := by
  refine checkAccepts_eq_ok.mpr fun _ => ⟨fixed, listed, ?_⟩
  cases fixed with
  | double number => exact absurd rfl single
  | text _ | bool _ | int _ | date _ => exact decide_eq_true rfl

/-- **Which of its fixed values a property takes by their texts**: of the ones whose years have four digits, all
but the texts that start or end with a blank. -/
theorem withValueRead_shown (checked : property.check = .ok ()) (single : property.value.type ≠ .double)
    (listed : fixed ∈ property.fixedValues) (plain : fixed.HasPlainYear) (now : Time.Instant) :
    property.withValueRead now fixed.shown = .ok (Entity.touched now { property with value := fixed }) ↔
      fixed.IsTrimmed := by
  have typed : fixed.type = property.value.type := (check_eq_ok.mp checked).typed fixed listed
  have no_double : fixed.type ≠ .double := typed ▸ single
  constructor
  · intro taken
    unfold withValueRead at taken
    split at taken
    · cases taken
    next value read =>
      obtain ⟨_, _, same⟩ := Outcome.bind_eq_ok.mp taken
      have values : value = fixed := congrArg Property.value (Except.ok.inj same)
      exact values ▸ (Value.of_readLike read).2
  · intro trimmed
    have read : property.value.readLike fixed.shown = .ok fixed := by
      unfold Value.readLike
      rw [Value.trim_shown no_double trimmed, ← typed, Value.readTrimmed_shown no_double, if_pos plain]
    unfold withValueRead
    rw [read]
    dsimp only
    rw [checkAccepts_of_fixed listed no_double]
    rfl

theorem withValueRead_shown_debug :
    let levels : Property :=
      { new "log_level" (.text "info") .epoch with fixedValues := [.text "debug", .text "info"] }
    levels.check = .ok () ∧
      levels.withValueRead .epoch (Value.text "debug").shown =
        .ok (Entity.touched .epoch { levels with value := .text "debug" }) := by
  intro levels
  have checked : levels.check = .ok () := by decide +kernel
  exact ⟨checked, (withValueRead_shown checked (by decide) (by decide) (by decide) .epoch).mpr (by decide)⟩

/-- A property may be allowed one value only, and not take it by its text. -/
theorem withValueRead_shown_blankEnd :
    let spaced : Property := { new "p" (.text "a ") .epoch with fixedValues := [.text "a "] }
    spaced.check = .ok () ∧ spaced.value.type ≠ .double ∧ Value.text "a " ∈ spaced.fixedValues ∧
      spaced.withValueRead .epoch (Value.text "a ").shown =
        .error (.invalidPropertyValue "p" "'a' is not one of the allowed values") := by
  decide +kernel

end Property

end Switchboard
