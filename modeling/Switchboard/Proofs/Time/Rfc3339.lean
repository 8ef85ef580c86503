/-
**Instants read back from their texts.**

* `scanDate_written`, `scanTime_written` — the date and the time of a text are scanned as they were written.
* `Instant.ofLocal_timeOfDay` — the date and the time of an instant are those of no other.
* `readInstant_text` — **an instant of the years 0 to 9999 is read back from its text.**
* `readInstant_text_of_far` — an instant of any other year is not: its text starts with a sign.
-/

import Switchboard.Proofs.Number.Digits
import Switchboard.Proofs.Text.Trimmed
import Switchboard.Proofs.Time.Calendar
import Switchboard.Time.Rfc3339

namespace Switchboard.Time

open Switchboard.Number

/-! ### Scans -/

section Scan

variable {α β : Type} {chars rest : List Char}

theorem run_bind_ok {scan : Scan α} {next : α → Scan β} {value : α}
    (scanned : scan.run chars = .ok (value, rest)) :
    (scan >>= next).run chars = (next value).run rest := by
  rw [StateT.run_bind, scanned]
  rfl

theorem run_bind_error {scan : Scan α} {next : α → Scan β} {problem : DateProblem}
    (failed : scan.run chars = .error problem) : (scan >>= next).run chars = .error problem := by
  rw [StateT.run_bind, failed]
  rfl

theorem run_get_bind {next : List Char → Scan β} :
    ((get : Scan (List Char)) >>= next).run chars = (next chars).run chars := rfl

theorem scanMark_run {accepted : Char → Bool} {c : Char} (fits : accepted c = true) :
    (scanMark accepted).run (c :: rest) = .ok ((), rest) := by
  unfold scanMark
  rw [run_get_bind]
  dsimp only
  rw [if_pos fits]
  rfl

/-- Digits are scanned as the number that they write. -/
theorem scanDigitsFrom_run {digits : List Char} (all : ∀ c ∈ digits, c.isDigit = true) (number : Nat) :
    (scanDigitsFrom digits.length number).run (digits ++ rest) =
      .ok (Nat.ofDigitChars 10 digits number, rest) := by
  induction digits generalizing number with
  | nil => rfl
  | cons c others ih =>
    obtain ⟨digit, remaining⟩ := List.forall_mem_cons.mp all
    have longer : Nat.ofDigitChars 10 (c :: others) number =
        Nat.ofDigitChars 10 others (number * 10 + digitValue c) := by
      rw [Nat.ofDigitChars_cons, Nat.mul_comm]
      rfl
    rw [longer, List.length_cons, List.cons_append, scanDigitsFrom, run_get_bind]
    dsimp only
    rw [if_pos digit]
    exact ih remaining _

theorem scanDigits_padded {width number : Nat} (wide : 0 < width) (fits : number < 10 ^ width) :
    (scanDigits width).run (padded width number ++ rest) = .ok (number, rest) := by
  have digits : ∀ c ∈ padded width number, c.isDigit = true := fun _ => isDigit_of_padded
  have scanned : (scanDigitsFrom (padded width number).length 0).run (padded width number ++ rest) = _ :=
    scanDigitsFrom_run digits 0
  rwa [length_padded wide fits, ← digitsValue_eq, digitsValue_padded] at scanned

/-! ### Fractions -/

/-- The digits of a fraction end where something else begins. -/
theorem scanFraction_run {digits : List Char} {c : Char} (some_digits : digits ≠ [])
    (all : ∀ c ∈ digits, c.isDigit = true) (ends : c.isDigit = false) :
    scanFraction.run ('.' :: (digits ++ c :: rest)) = .ok (nanosOfDigits digits, c :: rest) := by
  have taken : (digits ++ c :: rest).takeWhile Char.isDigit = digits := by
    rw [List.takeWhile_append_of_pos all, List.takeWhile_cons_of_neg (by simp [ends]), List.append_nil]
  have dropped : (digits ++ c :: rest).dropWhile Char.isDigit = c :: rest := by
    rw [List.dropWhile_append_of_pos all, List.dropWhile_cons_of_neg (by simp [ends])]
  obtain ⟨first, others, rfl⟩ := List.exists_cons_of_ne_nil some_digits
  have digit : first.isDigit = true := all first List.mem_cons_self
  rw [List.cons_append] at taken dropped ⊢
  unfold scanFraction
  rw [run_get_bind]
  simp only [digit, if_true, taken, dropped]
  rfl

theorem nanosOfDigits_padded {width number : Nat} (wide : 0 < width) (narrow : width ≤ 9)
    (fits : number < 10 ^ width) : nanosOfDigits (padded width number) = number * 10 ^ (9 - width) := by
  have filled : (padded width number ++ List.replicate 9 '0').take 9 =
      padded width number ++ List.replicate (9 - width) '0' := by
    rw [List.take_append, length_padded wide fits, List.take_of_length_le (by rwa [length_padded wide fits]),
      List.take_replicate]
    congr 2
    omega
  unfold nanosOfDigits
  rw [filled, digitsValue_eq, Nat.ofDigitChars_append, ← digitsValue_eq, digitsValue_padded,
    Nat.ofDigitChars_replicate_zero, Nat.mul_comm]

/-- **A fraction is scanned as it was written.** -/
theorem scanFraction_written {nanos : Nat} (fits : nanos < nanosPerSecond) {c : Char} (ends : c.isDigit = false)
    (no_point : c ≠ '.') :
    scanFraction.run ((writeFraction nanos).toList ++ c :: rest) = .ok (nanos, c :: rest) := by
  -- Of the digits only those are left out that are zeros.
  have written : ∀ width number, 0 < width → width ≤ 9 → number < 10 ^ width →
      nanos = number * 10 ^ (9 - width) →
      scanFraction.run (("." ++ writePadded width number).toList ++ c :: rest) = .ok (nanos, c :: rest) := by
    intro width number wide narrow fits same
    have digits : padded width number ≠ [] := by
      intro none
      have length := length_padded wide fits
      rw [none] at length
      exact absurd length (Nat.ne_of_lt wide)
    rw [String.toList_append, same, ← nanosOfDigits_padded wide narrow fits]
    exact scanFraction_run digits (fun _ => isDigit_of_padded) ends
  unfold nanosPerSecond at fits
  unfold writeFraction
  simp only [beq_iff_eq]
  split
  next zero =>
    subst zero
    show scanFraction.run (c :: rest) = _
    unfold scanFraction
    rw [run_get_bind]
    split
    next point => exact absurd (List.cons.inj point).1 no_point
    · rfl
  · split
    · exact written 3 _ (by decide) (by decide) (by omega) (by omega)
    · split
      · exact written 6 _ (by decide) (by decide) (by omega) (by omega)
      · exact written 9 _ (by decide) (by decide) (by omega) (by omega)

end Scan

/-! ### Dates and times -/

variable {rest : List Char}

/-- **A date is scanned as it was written**, its year in four digits. -/
theorem scanDate_written {year month day : Nat} (four : year < 10000)
    (inside : (⟨year, month, day⟩ : Date).exists? = true) :
    scanDate.run (padded 4 year ++ '-' :: (padded 2 month ++ '-' :: (padded 2 day ++ rest))) =
      .ok (⟨year, month, day⟩, rest) := by
  obtain ⟨months, days⟩ := Date.bounds_of_exists inside
  dsimp only at months days
  unfold scanDate
  rw [run_bind_ok (scanDigits_padded (by decide) (by omega)), run_bind_ok (scanMark_run rfl),
    run_bind_ok (scanDigits_padded (by decide) (by omega)), run_bind_ok (scanMark_run rfl),
    run_bind_ok (scanDigits_padded (by decide) (by omega))]
  simp only [inside, if_true]
  rfl

/-- No date starts with a sign. -/
theorem scanDate_run_of_sign {sign : Char} (no_digit : sign.isDigit = false) :
    scanDate.run (sign :: rest) = .error .invalidCharacters := by
  have failed : (scanDigits 4).run (sign :: rest) = .error .invalidCharacters := by
    unfold scanDigits scanDigitsFrom
    rw [run_get_bind]
    simp only [no_digit]
    rfl
  exact run_bind_error failed

/-- **A time is scanned as it was written**, its fraction in the fewest digits. -/
theorem scanTime_written {time : TimeOfDay} (inside : time.exists? = true)
    (fraction : time.nanos < nanosPerSecond) {c : Char} (ends : c.isDigit = false) (no_point : c ≠ '.') :
    scanTime.run (padded 2 time.hour ++ ':' :: (padded 2 time.minute ++ ':' ::
      (padded 2 time.second ++ ((writeFraction time.nanos).toList ++ c :: rest)))) = .ok (time, c :: rest) := by
  have bounds := inside
  simp only [TimeOfDay.exists?, Bool.and_eq_true, decide_eq_true_eq] at bounds
  unfold scanTime
  rw [run_bind_ok (scanDigits_padded (by decide) (by omega)), run_bind_ok (scanMark_run rfl),
    run_bind_ok (scanDigits_padded (by decide) (by omega)), run_bind_ok (scanMark_run rfl),
    run_bind_ok (scanDigits_padded (by decide) (by omega)),
    run_bind_ok (scanFraction_written fraction ends no_point)]
  simp only [inside, if_true]
  rfl

namespace Instant

/-- The time of the day of an instant; a leap second is second 60. -/
def timeOfDay (instant : Instant) : TimeOfDay where
  hour := instant.secondOfDay / 3600
  minute := instant.secondOfDay / 60 % 60
  second := instant.secondOfDay % 60 + instant.nanos / nanosPerSecond
  nanos := instant.nanos % nanosPerSecond

theorem exists_timeOfDay (instant : Instant) : instant.timeOfDay.exists? = true := by
  have leap := instant.isInstant.2.2
  unfold TimeOfDay.exists?
  simp only [Bool.and_eq_true, decide_eq_true_eq]
  unfold timeOfDay secondOfDay secondsPerDay
  dsimp only
  unfold nanosPerSecond at leap ⊢
  omega

/-- **The date and the time of an instant are those of no other.** -/
theorem ofLocal_timeOfDay {instant : Instant} (inRange : instant.date.isInRange = true) :
    instantOfLocal? instant.date instant.timeOfDay 0 = some instant := by
  have leap := instant.isInstant.2.2
  unfold nanosPerSecond at leap
  have seconds : instant.date.dayNumber * secondsPerDay +
      (instant.timeOfDay.hour * 3600 + instant.timeOfDay.minute * 60 + min instant.timeOfDay.second 59 : Int) - 0 =
      instant.seconds := by
    unfold date
    rw [Date.dayNumber_ofDayNumber]
    unfold timeOfDay secondOfDay secondsPerDay nanosPerSecond
    dsimp only
    omega
  have nanos : (if instant.timeOfDay.second == 60 then instant.timeOfDay.nanos + nanosPerSecond
      else instant.timeOfDay.nanos) = instant.nanos := by
    unfold timeOfDay secondOfDay secondsPerDay nanosPerSecond
    simp only [beq_iff_eq]
    split <;> omega
  unfold instantOfLocal?
  dsimp only
  rw [if_pos (by rw [inRange]; rfl), seconds, nanos]
  exact dif_pos instant.isInstant

end Instant

/-! ### Instants -/

theorem toList_text (instant : Instant) :
    instant.text.toList = (writeYear instant.date.year).toList ++ '-' :: (padded 2 instant.date.month ++ '-' ::
      (padded 2 instant.date.day ++ 'T' :: (padded 2 instant.timeOfDay.hour ++ ':' ::
        (padded 2 instant.timeOfDay.minute ++ ':' :: (padded 2 instant.timeOfDay.second ++
          ((writeFraction instant.timeOfDay.nanos).toList ++ ['+', '0', '0', ':', '0', '0'])))))) := by
  unfold Instant.text Instant.write
  simp only [String.toList_append, List.append_assoc]
  rfl

/-- The text of an instant has no blanks: all of it is digits, signs, points, colons and one letter. -/
theorem solid_text (instant : Instant) : ∀ c ∈ instant.text.toList, Text.isBlank c = false := by
  have number (width number : Nat) : ∀ c ∈ padded width number, Text.isBlank c = false :=
    fun _ digit => Text.isBlank_of_isDigit (isDigit_of_padded digit)
  have behind {mark : String} (solid : ∀ c ∈ mark.toList, Text.isBlank c = false) (width value : Nat) :
      ∀ c ∈ (mark ++ writePadded width value).toList, Text.isBlank c = false := by
    rw [String.toList_append, List.forall_mem_append]
    exact ⟨solid, number width value⟩
  have year : ∀ c ∈ (writeYear instant.date.year).toList, Text.isBlank c = false := by
    unfold writeYear
    split
    · exact number _ _
    · refine behind ?_ _ _
      split
      · exact Text.solid_singleton (show Text.isBlank '-' = false from rfl)
      · exact Text.solid_singleton (show Text.isBlank '+' = false from rfl)
  have point : ∀ c ∈ ".".toList, Text.isBlank c = false :=
    Text.solid_singleton (show Text.isBlank '.' = false from rfl)
  have fraction : ∀ c ∈ (writeFraction instant.timeOfDay.nanos).toList, Text.isBlank c = false := by
    unfold writeFraction
    split_ifs
    · nofun
    all_goals exact behind point _ _
  rw [toList_text]
  simp only [List.forall_mem_append, List.forall_mem_cons]
  exact ⟨year, rfl, number _ _, rfl, number _ _, rfl, number _ _, rfl, number _ _, rfl, number _ _, fraction,
    rfl, rfl, rfl, rfl, rfl, rfl, nofun⟩

/-- No character has fewer than one byte. -/
theorem length_le_byteCount (chars : List Char) : chars.length ≤ byteCount chars := by
  have counted : ∀ (chars : List Char) (count : Nat),
      count + chars.length ≤ chars.foldl (fun count char => count + char.utf8Size) count := by
    intro chars
    induction chars with
    | nil => exact fun count => Nat.le_refl count
    | cons c rest ih =>
      intro count
      have bytes := c.utf8Size_pos
      have others := ih (count + c.utf8Size)
      rw [List.length_cons, List.foldl_cons]
      omega
  have counted := counted chars 0
  rwa [Nat.zero_add] at counted

theorem long_text (instant : Instant) : ¬ byteCount instant.text.toList < 19 := by
  have bytes := length_le_byteCount instant.text.toList
  have month := width_le_length_padded 2 instant.date.month
  have day := width_le_length_padded 2 instant.date.day
  have hour := width_le_length_padded 2 instant.timeOfDay.hour
  have minute := width_le_length_padded 2 instant.timeOfDay.minute
  have second := width_le_length_padded 2 instant.timeOfDay.second
  rw [toList_text] at bytes ⊢
  simp only [List.length_append, List.length_cons, List.length_nil] at bytes
  omega

theorem scanOffset_universal :
    (scanOffset (scanMark (· == ':'))).run ['+', '0', '0', ':', '0', '0'] = .ok (0, []) := rfl

/-- **An instant of the years 0 to 9999 is read back from its text.** -/
theorem readInstant_text {instant : Instant} (positive : 0 ≤ instant.date.year)
    (four : instant.date.year ≤ 9999) : readInstant instant.text = .ok instant := by
  have long := long_text instant
  obtain ⟨year, named⟩ := Int.eq_ofNat_of_zero_le positive
  have inside : (⟨(year : Nat), instant.date.month, instant.date.day⟩ : Date).exists? = true := by
    rw [← named]
    exact Date.exists_ofDayNumber _
  have written : (writeYear instant.date.year).toList = padded 4 year := by
    unfold writeYear
    rw [if_pos (by simp [positive, four]), named]
    rfl
  have inRange : instant.date.isInRange = true := by
    unfold Date.isInRange earliestYear latestYear
    rw [Bool.and_eq_true, decide_eq_true_eq, decide_eq_true_eq]
    omega
  unfold readInstant scanInstant
  rw [run_get_bind, if_neg long, toList_text, written,
    run_bind_ok (scanDate_written (by omega) inside), run_bind_ok (scanMark_run rfl),
    run_bind_ok (scanTime_written instant.exists_timeOfDay (Nat.mod_lt _ (by decide)) rfl (by decide)),
    run_bind_ok scanOffset_universal, run_get_bind, ← named]
  rw [Instant.ofLocal_timeOfDay inRange]
  rfl

/-- **An instant of any other year is not**: a sign is no digit. -/
theorem readInstant_text_of_far {instant : Instant}
    (far : ¬ (0 ≤ instant.date.year ∧ instant.date.year ≤ 9999)) :
    readInstant instant.text = .error .invalidCharacters := by
  have long := long_text instant
  obtain ⟨sign, digits, written, no_digit⟩ : ∃ sign digits,
      (writeYear instant.date.year).toList = sign :: digits ∧ sign.isDigit = false := by
    unfold writeYear
    rw [if_neg (by simpa using far)]
    split
    · exact ⟨'-', _, String.toList_append, rfl⟩
    · exact ⟨'+', _, String.toList_append, rfl⟩
  unfold readInstant scanInstant
  rw [run_get_bind, if_neg long, toList_text, written, List.cons_append,
    run_bind_error (scanDate_run_of_sign no_digit)]
  rfl

end Switchboard.Time
