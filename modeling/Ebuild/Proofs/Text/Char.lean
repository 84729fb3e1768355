/-!
# Digits and letters by code point

The bounds of the ASCII classes, so that facts about them are facts about numbers, and a run of one
class at the start of a text.
-/

namespace Ebuild.Text

theorem isDigit_iff {c : Char} : c.isDigit = true ↔ 48 ≤ c.toNat ∧ c.toNat ≤ 57 := by
  simp only [Char.isDigit, Bool.and_eq_true, decide_eq_true_eq, ge_iff_le, UInt32.le_iff_toNat_le]
  rfl

theorem isAlpha_iff {c : Char} :
    c.isAlpha = true ↔ (65 ≤ c.toNat ∧ c.toNat ≤ 90) ∨ (97 ≤ c.toNat ∧ c.toNat ≤ 122) := by
  have bounds : c.isAlpha = (decide (c.val ≥ 'A'.val ∧ c.val ≤ 'Z'.val) ||
      (decide (c.val ≥ 'a'.val) && decide (c.val ≤ 'z'.val))) := rfl
  simp only [bounds, Bool.or_eq_true, Bool.and_eq_true, decide_eq_true_eq, ge_iff_le,
    UInt32.le_iff_toNat_le]
  rfl

theorem bounds_of_digits {cs : List Char} (digits : cs.all Char.isDigit = true) :
    ∀ c ∈ cs, 48 ≤ c.toNat ∧ c.toNat ≤ 57 := by
  intro c mem
  exact isDigit_iff.1 (List.all_eq_true.1 digits c mem)

theorem char_lt_iff {c d : Char} : c < d ↔ c.toNat < d.toNat := by
  rw [Char.lt_def, UInt32.lt_iff_toNat_lt]
  rfl

theorem compare_char (c d : Char) : Ord.compare c d = Ord.compare c.toNat d.toNat := by
  show compareOfLessAndEq c d = compareOfLessAndEq c.toNat d.toNat
  simp only [compareOfLessAndEq, char_lt_iff, ← Char.toNat_inj]

theorem not_isDigit_of_isAlpha {c : Char} (alpha : c.isAlpha = true) : c.isDigit = false := by
  rw [isAlpha_iff] at alpha
  rw [Bool.eq_false_iff, ne_eq, isDigit_iff]
  omega

theorem digit_lt_alpha {c d : Char} (digit : c.isDigit = true) (alpha : d.isAlpha = true) :
    c < d := by
  rw [isDigit_iff] at digit
  rw [isAlpha_iff] at alpha
  rw [char_lt_iff]
  omega

theorem star_lt_digit {c : Char} (digit : c.isDigit = true) : '*' < c := by
  rw [isDigit_iff] at digit
  rw [char_lt_iff, show '*'.toNat = 42 from rfl]
  omega

theorem span_append {α : Type} {p : α → Bool} {run rest : List α} (inside : ∀ c ∈ run, p c = true)
    (stop : ∀ c ∈ rest.head?, p c = false) :
    (run ++ rest).takeWhile p = run ∧ (run ++ rest).dropWhile p = rest := by
  rw [List.takeWhile_append_of_pos inside, List.dropWhile_append_of_pos inside]
  cases rest with
  | nil => simp
  | cons c rest => simp [stop c rfl]

end Ebuild.Text
