/-
**Instants.**

An instant counts seconds from 1970-01-01T00:00:00 in universal time, and nanoseconds within the
second. A leap second is the second second of the last second of a minute: its nanoseconds run from
one billion on.

* `Instant` — an instant between the years −262143 and 262142.
* `Instant.of?` — the instant with given seconds and nanoseconds, if there is one.
* instants are ordered by seconds, then by nanoseconds.
-/

import Switchboard.Time.Calendar

namespace Switchboard.Time

/-- Nanoseconds of a second. -/
def nanosPerSecond : Nat := 1000000000

/-- Seconds of a day. -/
def secondsPerDay : Int := 86400

/-- The first year with instants. -/
def earliestYear : Int := -262143

/-- The last year with instants. -/
def latestYear : Int := 262142

/-- The date lies in the years of instants. -/
def Date.isInRange (date : Date) : Bool := earliestYear ≤ date.year && date.year ≤ latestYear

/-- The first second of the first year. -/
def earliestSecond : Int := -8334601228800

/-- The last second of the last year. -/
def latestSecond : Int := 8210266876799

/-- What seconds and nanoseconds of an instant satisfy: they are in range, and only the last second
of a minute has a leap second. -/
def IsInstant (seconds : Int) (nanos : Nat) : Prop :=
  earliestSecond ≤ seconds ∧ seconds ≤ latestSecond ∧ nanos < 2 * nanosPerSecond ∧
    (nanosPerSecond ≤ nanos → seconds % 60 = 59)

instance (seconds : Int) (nanos : Nat) : Decidable (IsInstant seconds nanos) :=
  inferInstanceAs (Decidable (_ ∧ _ ∧ _ ∧ _))

/-- A point in universal time. -/
structure Instant where
  seconds : Int
  nanos : Nat
  isInstant : IsInstant seconds nanos
  deriving DecidableEq

namespace Instant

/-- The instant with given seconds and nanoseconds, if there is one. -/
def of? (seconds : Int) (nanos : Nat) : Option Instant :=
  if isInstant : IsInstant seconds nanos then some ⟨seconds, nanos, isInstant⟩ else none

/-- 1970-01-01T00:00:00. -/
def epoch : Instant := ⟨0, 0, by decide⟩

instance : Inhabited Instant := ⟨epoch⟩

instance : LE Instant :=
  ⟨fun left right =>
    left.seconds < right.seconds ∨ (left.seconds = right.seconds ∧ left.nanos ≤ right.nanos)⟩

instance (left right : Instant) : Decidable (left ≤ right) :=
  inferInstanceAs (Decidable (_ ∨ _))

instance : Max Instant := ⟨fun left right => if left ≤ right then right else left⟩

theorem le_def {left right : Instant} :
    left ≤ right ↔
      left.seconds < right.seconds ∨ (left.seconds = right.seconds ∧ left.nanos ≤ right.nanos) :=
  Iff.rfl

theorem le_refl (instant : Instant) : instant ≤ instant := Or.inr ⟨rfl, Nat.le_refl _⟩

theorem le_total (left right : Instant) : left ≤ right ∨ right ≤ left := by
  simp only [le_def]
  omega

theorem max_def (left right : Instant) : max left right = if left ≤ right then right else left :=
  rfl

theorem le_max_right (left right : Instant) : right ≤ max left right := by
  rw [max_def]
  split
  · exact le_refl right
  · exact (le_total left right).resolve_left ‹_›

/-- The day of an instant. -/
def date (instant : Instant) : Date := Date.ofDayNumber (instant.seconds / secondsPerDay)

/-- The second of the day, without leap seconds. -/
def secondOfDay (instant : Instant) : Nat := (instant.seconds % secondsPerDay).toNat

end Instant

end Switchboard.Time
