/-
**Texts without blanks at their ends.**

* `Text.trim_trim` — a text that was trimmed is left as it is by trimming it again.
* `Text.trim_of_solid` — and so is a text without any blank in it.
* `Text.trimChars_of_framed` — such a text is what is left of it between blanks.
-/

import Mathlib.Data.List.DropRight
import Switchboard.Text.Blank

namespace Switchboard.Text

variable {chars : List Char}

/-- What is left of a text starts, if there is anything left, with a character that is not blank. -/
theorem dropWhile_trimChars (chars : List Char) :
    (trimChars chars).dropWhile isBlank = trimChars chars := by
  rw [List.dropWhile_eq_self_iff]
  intro some_left
  -- Dropping blanks at the end leaves the first character.
  have front : trimChars chars <+: chars.dropWhile isBlank := List.rdropWhile_prefix _ _
  rw [front.getElem some_left]
  exact List.dropWhile_get_zero_not isBlank chars (Nat.lt_of_lt_of_le some_left front.length_le)

theorem trimChars_trimChars (chars : List Char) : trimChars (trimChars chars) = trimChars chars := by
  show ((trimChars chars).dropWhile isBlank).rdropWhile isBlank = trimChars chars
  rw [dropWhile_trimChars]
  exact List.rdropWhile_idempotent _ _

/-- **Trimming a second time changes nothing.** -/
theorem trim_trim (text : String) : trim (trim text) = trim text := by
  unfold trim
  rw [String.toList_ofList, trimChars_trimChars]

theorem trimChars_of_solid (solid : ∀ c ∈ chars, isBlank c = false) : trimChars chars = chars := by
  have nothing : chars.dropWhile isBlank = chars := by
    rw [List.dropWhile_eq_self_iff]
    intro some_left
    rw [solid _ (List.getElem_mem some_left)]
    exact Bool.false_ne_true
  show (chars.dropWhile isBlank).rdropWhile isBlank = chars
  rw [nothing, List.rdropWhile_eq_self_iff]
  intro some_left
  rw [solid _ (List.getLast_mem some_left)]
  exact Bool.false_ne_true

/-- **A text without blanks is left as it is.** -/
theorem trim_of_solid {text : String} (solid : ∀ c ∈ text.toList, isBlank c = false) :
    trim text = text := by
  unfold trim
  rw [trimChars_of_solid solid, String.ofList_toList]

/-- **Blanks around a text without blanks are dropped.** -/
theorem trimChars_of_framed {before after : List Char} (front : ∀ c ∈ before, isBlank c = true)
    (back : ∀ c ∈ after, isBlank c = true) (some_left : chars ≠ []) (solid : ∀ c ∈ chars, isBlank c = false) :
    trimChars (before ++ chars ++ after) = chars := by
  have kept : ∀ {text : List Char} (other : List Char), text ≠ [] → (∀ c ∈ text, isBlank c = false) →
      (text ++ other).dropWhile isBlank = text ++ other := by
    intro text other some_text all
    cases text with
    | nil => exact absurd rfl some_text
    | cons c rest => exact List.dropWhile_cons_of_neg (by rw [all c List.mem_cons_self]; exact Bool.false_ne_true)
  unfold trimChars
  rw [List.append_assoc, List.dropWhile_append_of_pos front, kept after some_left solid, List.reverse_append,
    List.dropWhile_append_of_pos fun c listed => back c (List.mem_reverse.mp listed)]
  have reversed := kept [] (List.reverse_ne_nil_iff.mpr some_left) fun c listed => solid c (List.mem_reverse.mp listed)
  rw [List.append_nil] at reversed
  rw [reversed, List.reverse_reverse]

theorem solid_singleton {mark : Char} (solid : isBlank mark = false) : ∀ c ∈ [mark], isBlank c = false :=
  List.forall_mem_singleton.mpr solid

/-- Digits are not blank. -/
theorem isBlank_of_isDigit {c : Char} (digit : c.isDigit = true) : isBlank c = false := by
  have low : 48 ≤ c.toNat ∧ c.toNat ≤ 57 := by
    simpa [Char.isDigit, UInt32.le_iff_toNat_le] using digit
  unfold isBlank
  simp only [Bool.or_eq_false_iff, Bool.and_eq_false_iff, decide_eq_false_iff_not, beq_eq_false_iff_ne]
  omega

end Switchboard.Text
