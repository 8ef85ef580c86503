/-
**Numbers written in digits and read back.**

* `digitsValue_padded` — the digits of a number write that number, also behind zeros.
* `readSigned_writeInt` — an integer of 64 bits is read back from its digits and its sign.
* `Writes`, `readUnsigned_eq_ok` — a text that writes a number, and that it is read as this number if it has 64 bits.
-/

import Mathlib.Algebra.Group.Nat.Defs
import Switchboard.Number.DoubleText

namespace Switchboard.Number

/-! ### Digits -/

/-- The number that digits write. -/
theorem digitsValue_eq (digits : List Char) : digitsValue digits = Nat.ofDigitChars 10 digits 0 := by
  rw [Nat.ofDigitChars_eq_foldl]
  unfold digitsValue digitValue
  simp only [Nat.mul_comm]

theorem isDigit_of_toDigits {number : Nat} {c : Char} (listed : c ∈ Nat.toDigits 10 number) :
    c.isDigit = true :=
  Nat.isDigit_of_mem_toDigits (by decide) (by decide) listed

/-- More digits write no smaller number. -/
theorem le_ofDigitChars (digits : List Char) (number : Nat) : number ≤ Nat.ofDigitChars 10 digits number := by
  rw [Nat.ofDigitChars_eq_ofDigitChars_zero]
  have grown : number * 1 ≤ number * 10 ^ digits.length :=
    Nat.mul_le_mul_left _ (Nat.pow_pos (by decide))
  rw [Nat.mul_comm _ number]
  omega

/-! ### Digits behind zeros -/

/-- The digits of a number behind zeros up to a width. -/
def padded (width number : Nat) : List Char := (writePadded width number).toList

theorem padded_eq (width number : Nat) :
    padded width number =
      List.replicate (width - (Nat.toDigits 10 number).length) '0' ++ Nat.toDigits 10 number := by
  unfold padded writePadded
  rw [String.toList_ofList]

/-- A number below a power of ten fits in so many digits. -/
theorem length_padded {width number : Nat} (wide : 0 < width) (fits : number < 10 ^ width) :
    (padded width number).length = width := by
  have digits : (Nat.toDigits 10 number).length ≤ width :=
    (Nat.length_toDigits_le_iff (by decide) wide).mpr fits
  rw [padded_eq, List.length_append, List.length_replicate]
  omega

theorem width_le_length_padded (width number : Nat) : width ≤ (padded width number).length := by
  rw [padded_eq, List.length_append, List.length_replicate]
  omega

theorem isDigit_of_padded {width number : Nat} {c : Char} (listed : c ∈ padded width number) :
    c.isDigit = true := by
  rw [padded_eq, List.mem_append] at listed
  rcases listed with zero | digit
  · rw [List.eq_of_mem_replicate zero]
    rfl
  · exact isDigit_of_toDigits digit

/-- **Zeros in front change nothing.** -/
theorem digitsValue_padded (width number : Nat) : digitsValue (padded width number) = number := by
  rw [digitsValue_eq, padded_eq, Nat.ofDigitChars_append, Nat.ofDigitChars_replicate_zero, Nat.mul_zero,
    Nat.ofDigitChars_ten_toDigits]

/-! ### Integers -/

/-- Digits are read as the number that they write, if it is within the limit. -/
theorem readDigits_eq {limit : Nat} {excess : IntegerProblem} {digits : List Char} {number : Nat}
    (all : ∀ c ∈ digits, c.isDigit = true) (bound : Nat.ofDigitChars 10 digits number ≤ limit) :
    readDigits limit excess number digits = .ok (Nat.ofDigitChars 10 digits number) := by
  induction digits generalizing number with
  | nil => rfl
  | cons c rest ih =>
    obtain ⟨digit, others⟩ := List.forall_mem_cons.mp all
    have longer : Nat.ofDigitChars 10 (c :: rest) number =
        Nat.ofDigitChars 10 rest (number * 10 + digitValue c) := by
      rw [Nat.ofDigitChars_cons, Nat.mul_comm]
      rfl
    rw [longer] at bound ⊢
    have within : number * 10 + digitValue c ≤ limit := Nat.le_trans (le_ofDigitChars rest _) bound
    unfold readDigits
    rw [if_pos digit]
    dsimp only
    rw [if_pos within]
    exact ih others bound

theorem readSomeDigits_toDigits {limit number : Nat} {excess : IntegerProblem} (bound : number ≤ limit) :
    readSomeDigits limit excess (Nat.toDigits 10 number) = .ok number := by
  have value := Nat.ofDigitChars_ten_toDigits (n := number)
  have read : readDigits limit excess 0 (Nat.toDigits 10 number) = .ok number := by
    rw [readDigits_eq (fun _ => isDigit_of_toDigits) (by rwa [value]), value]
  unfold readSomeDigits
  split
  next none => exact absurd none Nat.toDigits_ne_nil
  · exact read

/-- Digits are read without a sign. -/
theorem readSigned_of_digit {c : Char} {rest : List Char} (digit : c.isDigit = true) :
    readSigned (c :: rest) = (readSomeDigits signedMax .tooLarge (c :: rest)).map Int64.ofNat := by
  unfold readSigned
  split
  next none => cases none
  next negative =>
    cases negative
    cases digit
  next positive =>
    cases positive
    cases digit
  · rfl

/-- Digits behind a minus sign are read with the limit of the negative integers. -/
theorem readSigned_minus {digits : List Char} {number : Nat}
    (read : readSomeDigits (signedMax + 1) .tooSmall digits = .ok number) :
    readSigned ('-' :: digits) = .ok (Int64.ofInt (-(number : Int))) := by
  rw [readSigned, read]
  rfl

theorem toList_writeNat (number : Nat) : (writeNat number).toList = Nat.toDigits 10 number :=
  String.toList_ofList

/-- **An integer is read back from the text that writes it.** -/
theorem readSigned_writeInt (number : Int64) : readSigned (writeInt number.toInt).toList = .ok number := by
  have least := Int64.le_toInt number
  have most := Int64.toInt_lt number
  have limit : signedMax = 9223372036854775807 := rfl
  unfold writeInt
  split
  next negative =>
    have bound : number.toInt.natAbs ≤ signedMax + 1 := by omega
    have same : -(number.toInt.natAbs : Int) = number.toInt := by omega
    rw [String.toList_append, toList_writeNat]
    show readSigned ('-' :: Nat.toDigits 10 number.toInt.natAbs) = _
    rw [readSigned_minus (readSomeDigits_toDigits bound), same, Int64.ofInt_toInt]
  next positive =>
    have bound : number.toInt.natAbs ≤ signedMax := by omega
    have same : (number.toInt.natAbs : Int) = number.toInt := by omega
    have read : readSomeDigits signedMax .tooLarge (Nat.toDigits 10 number.toInt.natAbs) = _ :=
      readSomeDigits_toDigits bound
    rw [toList_writeNat]
    cases digits : Nat.toDigits 10 number.toInt.natAbs with
    | nil => exact absurd digits Nat.toDigits_ne_nil
    | cons c rest =>
      have digit : c.isDigit = true := isDigit_of_toDigits (digits ▸ List.mem_cons_self)
      rw [readSigned_of_digit digit, ← digits, read]
      show Except.ok (Int64.ofNat number.toInt.natAbs) = _
      rw [← Int64.ofInt_eq_ofNat, same, Int64.ofInt_toInt]

/-! ### Unsigned integers -/

/-- What is read from digits is the number that they write, and within the limit. -/
theorem readDigits_eq_ok {limit : Nat} {excess : IntegerProblem} {digits : List Char} {number value : Nat}
    (within : number ≤ limit) :
    readDigits limit excess number digits = .ok value ↔
      (∀ c ∈ digits, c.isDigit = true) ∧ Nat.ofDigitChars 10 digits number = value ∧ value ≤ limit := by
  constructor
  · intro read
    induction digits generalizing number with
    | nil =>
      cases read
      exact ⟨nofun, rfl, within⟩
    | cons c rest ih =>
      unfold readDigits at read
      split at read
      next digit =>
        dsimp only at read
        split at read
        next fits =>
          obtain ⟨others, written, bound⟩ := ih fits read
          refine ⟨List.forall_mem_cons.mpr ⟨digit, others⟩, ?_, bound⟩
          rw [Nat.ofDigitChars_cons, Nat.mul_comm]
          exact written
        · cases read
      · cases read
  · rintro ⟨all, rfl, bound⟩
    exact readDigits_eq all bound

/-- A text writes a number: it is digits that write it, behind a plus sign or none. -/
def Writes (text : List Char) (number : Nat) : Prop :=
  ∃ digits : List Char, (text = digits ∨ text = '+' :: digits) ∧ digits ≠ [] ∧
    (∀ c ∈ digits, c.isDigit = true) ∧ Nat.ofDigitChars 10 digits 0 = number

/-- Digits are read as an unsigned integer if they write one of 64 bits. -/
theorem readSomeDigits_eq_ok {digits : List Char} {number : UInt64} :
    (readSomeDigits unsignedMax .tooLarge digits).map UInt64.ofNat = .ok number ↔
      digits ≠ [] ∧ (∀ c ∈ digits, c.isDigit = true) ∧ Nat.ofDigitChars 10 digits 0 = number.toNat := by
  have most := number.toNat_lt
  have limit : unsignedMax = 18446744073709551615 := rfl
  cases digits with
  | nil => exact ⟨nofun, fun written => absurd rfl written.1⟩
  | cons c rest =>
    show (readDigits unsignedMax .tooLarge 0 (c :: rest)).map UInt64.ofNat = .ok number ↔ _
    constructor
    · intro read
      cases digits : readDigits unsignedMax .tooLarge 0 (c :: rest) with
      | error problem =>
        rw [digits] at read
        cases read
      | ok value =>
        rw [digits] at read
        cases read
        obtain ⟨all, written, bound⟩ := (readDigits_eq_ok (Nat.zero_le _)).mp digits
        have fits : value < UInt64.size := Nat.lt_succ_of_le bound
        exact ⟨nofun, all, written.trans (UInt64.toNat_ofNat_of_lt' fits).symm⟩
    · rintro ⟨_, all, written⟩
      rw [(readDigits_eq_ok (Nat.zero_le _)).mpr ⟨all, written, by omega⟩]
      exact congrArg Except.ok UInt64.ofNat_toNat

/-- **A text is read as an unsigned integer exactly if it writes it.** -/
theorem readUnsigned_eq_ok {text : List Char} {number : UInt64} :
    readUnsigned text = .ok number ↔ Writes text number.toNat := by
  unfold readUnsigned Writes
  split
  · refine ⟨nofun, ?_⟩
    rintro ⟨digits, rfl | signed, some_digit, _⟩
    · exact absurd rfl some_digit
    · cases signed
  next digits =>
    rw [readSomeDigits_eq_ok]
    refine ⟨fun written => ⟨digits, .inr rfl, written⟩, ?_⟩
    rintro ⟨others, rfl | signed, some_digit, all, written⟩
    · cases all '+' List.mem_cons_self
    · cases signed
      exact ⟨some_digit, all, written⟩
  next unsigned =>
    rw [readSomeDigits_eq_ok]
    refine ⟨fun written => ⟨text, .inl rfl, written⟩, ?_⟩
    rintro ⟨digits, rfl | signed, written⟩
    · exact written
    · exact absurd signed (unsigned _)

end Switchboard.Number
