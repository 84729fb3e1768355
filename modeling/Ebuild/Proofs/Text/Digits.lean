import Mathlib.Algebra.Group.Nat.Defs
import Ebuild.Proofs.Text.Char
import Ebuild.Text.Digits

/-!
# Runs of digits by size

The numbers of two runs of digits, however long, compare as the runs do without the zeros in front:
by length, then by the first character that differs (`compare_readNat`).
-/

namespace Ebuild.Text

/-- A run without the zeros in front. -/
def significant (cs : List Char) : List Char := cs.dropWhile (· == '0')

/-- By length, then from left to right. -/
def compareDigits (a b : List Char) : Ordering :=
  (Ord.compare (significant a).length (significant b).length).then
    (Ord.compare (significant a) (significant b))

theorem readNat_cons (c : Char) (cs : List Char) :
    readNat (c :: cs) = 10 ^ cs.length * (c.toNat - 48) + readNat cs := by
  rw [readNat, Nat.ofDigitChars_cons, Nat.ofDigitChars_eq_ofDigitChars_zero, Nat.mul_zero,
    Nat.zero_add]
  rfl

theorem readNat_lt {cs : List Char} (digits : cs.all Char.isDigit = true) :
    readNat cs < 10 ^ cs.length := by
  induction cs with
  | nil => decide
  | cons c cs ih =>
    rw [List.all_cons, Bool.and_eq_true] at digits
    have rest := ih digits.2
    have bounds := isDigit_iff.1 digits.1
    have digit : 10 ^ cs.length * (c.toNat - 48) ≤ 10 ^ cs.length * 9 :=
      Nat.mul_le_mul_left _ (by omega)
    rw [readNat_cons, List.length_cons, Nat.pow_succ]
    omega

theorem readNat_significant (cs : List Char) : readNat (significant cs) = readNat cs := by
  induction cs with
  | nil => rfl
  | cons c cs ih =>
    rw [significant, List.dropWhile_cons]
    split
    next zero =>
      obtain rfl := beq_iff_eq.1 zero
      rw [← significant, ih, readNat_cons]
      exact (Nat.zero_add _).symm
    next => rfl

theorem pow_le_readNat {c : Char} (cs : List Char) (digit : c.isDigit = true) (nonzero : c ≠ '0') :
    10 ^ cs.length ≤ readNat (c :: cs) := by
  have bounds := isDigit_iff.1 digit
  have above : c.toNat ≠ 48 := fun same => nonzero (Char.toNat_inj.1 same)
  have first : 10 ^ cs.length * 1 ≤ 10 ^ cs.length * (c.toNat - 48) :=
    Nat.mul_le_mul_left _ (by omega)
  rw [readNat_cons]
  omega

/-- A longer run without zeros in front is a larger number. -/
theorem readNat_lt_of_length_lt {a b : List Char} (digitsA : a.all Char.isDigit = true)
    (digitsB : b.all Char.isDigit = true) (first : ∀ c ∈ b.head?, c ≠ '0')
    (shorter : a.length < b.length) : readNat a < readNat b := by
  cases b with
  | nil => cases shorter
  | cons c cs =>
    rw [List.all_cons, Bool.and_eq_true] at digitsB
    calc readNat a
      _ < 10 ^ a.length := readNat_lt digitsA
      _ ≤ 10 ^ cs.length := Nat.pow_le_pow_right (by decide) (Nat.le_of_lt_succ shorter)
      _ ≤ readNat (c :: cs) := pow_le_readNat cs digitsB.1 (first c rfl)

theorem compare_congr_lt {a b c d : Nat} (less : a < b ↔ c < d) (greater : b < a ↔ d < c) :
    Ord.compare a b = Ord.compare c d := by
  rw [Nat.compare_eq_ite_lt, Nat.compare_eq_ite_lt]
  simp only [less, greater]

theorem compare_digit {c d : Char} (digitC : c.isDigit = true) (digitD : d.isDigit = true) :
    Ord.compare c d = Ord.compare (c.toNat - 48) (d.toNat - 48) := by
  have boundsC := isDigit_iff.1 digitC
  have boundsD := isDigit_iff.1 digitD
  rw [compare_char]
  exact compare_congr_lt (by omega) (by omega)

/-- The higher place decides, then the lower ones. -/
theorem compare_place {base d e x y : Nat} (lowX : x < base) (lowY : y < base) :
    Ord.compare (base * d + x) (base * e + y) = (Ord.compare d e).then (Ord.compare x y) := by
  rcases Nat.lt_trichotomy d e with less | rfl | greater
  · have step : base * (d + 1) ≤ base * e := Nat.mul_le_mul_left base less
    rw [Nat.mul_succ] at step
    rw [Nat.compare_eq_lt.2 less, Nat.compare_eq_lt.2 (by omega)]
    rfl
  · rw [Nat.compare_eq_eq.2 rfl, Ordering.eq_then]
    exact compare_congr_lt (by omega) (by omega)
  · have step : base * (e + 1) ≤ base * d := Nat.mul_le_mul_left base greater
    rw [Nat.mul_succ] at step
    rw [Nat.compare_eq_gt.2 greater, Nat.compare_eq_gt.2 (by omega)]
    rfl

theorem compare_readNat_of_length_eq {a b : List Char} (digitsA : a.all Char.isDigit = true)
    (digitsB : b.all Char.isDigit = true) (aligned : a.length = b.length) :
    Ord.compare (readNat a) (readNat b) = Ord.compare a b := by
  induction a generalizing b with
  | nil =>
    obtain rfl := List.length_eq_zero_iff.1 aligned.symm
    rfl
  | cons c cs ih =>
    cases b with
    | nil => cases aligned
    | cons d ds =>
      rw [List.all_cons, Bool.and_eq_true] at digitsA digitsB
      have same : cs.length = ds.length := Nat.succ.inj aligned
      have lowC := readNat_lt digitsA.2
      have lowD := readNat_lt digitsB.2
      rw [← same] at lowD
      rw [readNat_cons, readNat_cons, ← same, compare_place lowC lowD,
        ih digitsA.2 digitsB.2 same, List.compare_cons_cons, compare_digit digitsA.1 digitsB.1]

theorem compare_readNat {a b : List Char} (digitsA : a.all Char.isDigit = true)
    (digitsB : b.all Char.isDigit = true) :
    Ord.compare (readNat a) (readNat b) = compareDigits a b := by
  have digits {cs : List Char} (all : cs.all Char.isDigit = true) :
      (significant cs).all Char.isDigit = true :=
    List.all_eq_true.2 fun c mem =>
      List.all_eq_true.1 all c ((List.dropWhile_suffix _).subset mem)
  have first (cs : List Char) : ∀ c ∈ (significant cs).head?, c ≠ '0' := by
    intro c head
    have := List.head?_dropWhile_not (· == '0') cs
    rw [← significant, Option.mem_def.1 head] at this
    simpa using this
  -- zeros in front count for the length, so they go before it is compared
  rw [← readNat_significant a, ← readNat_significant b, compareDigits]
  rcases Nat.lt_trichotomy (significant a).length (significant b).length with
    shorter | aligned | longer
  · have less := readNat_lt_of_length_lt (digits digitsA) (digits digitsB) (first b) shorter
    rw [Nat.compare_eq_lt.2 less, Nat.compare_eq_lt.2 shorter]
    rfl
  · rw [compare_readNat_of_length_eq (digits digitsA) (digits digitsB) aligned, aligned,
      Nat.compare_eq_eq.2 rfl]
    rfl
  · have greater := readNat_lt_of_length_lt (digits digitsB) (digits digitsA) (first a) longer
    rw [Nat.compare_eq_gt.2 greater, Nat.compare_eq_gt.2 longer]
    rfl

end Ebuild.Text
