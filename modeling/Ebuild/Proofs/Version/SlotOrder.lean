import Ebuild.Proofs.Version.Slot

/-!
# The order of slots

Slots fall into six bands. Two slots of different bands are in the order of their bands, two slots
of one band in the order of a key. The bands are in order too but for three of them, which stand in
a circle: numbers past the 64-bit words are below letters, letters below positive numbers that fit,
and those below the numbers that do not. `Slot.chained` says that nothing else goes wrong.
-/

namespace Ebuild.Version
open Text

/-- How the comparisons of `a` with `b`, `b` with `c` and `a` with `c` come out in a preorder. -/
def Chained (ab bc ac : Ordering) : Prop :=
  ab ≠ .gt → bc ≠ .gt → ac ≠ .gt ∧ (ab = .lt ∨ bc = .lt → ac = .lt)
deriving Decidable

namespace Slot

inductive Band
  | below
  | star
  | zero
  /-- A number past the 64-bit words. -/
  | overlong
  | letters
  /-- A positive number within the 64-bit words. -/
  | fitting
  deriving DecidableEq, Repr

def band : Slot → Band
  | below _ => .below
  | word letters => if letters = ['*'] then .star else .letters
  | number digits =>
    if readNat digits = 0 then .zero
    else if readNat digits < wordBound then .fitting else .overlong

namespace Band

def all : List Band := [below, star, zero, overlong, letters, fitting]

theorem mem_all (k : Band) : k ∈ all := by cases k <;> simp [all]

instance decidableForall {p : Band → Prop} [DecidablePred p] : Decidable (∀ k, p k) :=
  decidable_of_iff (∀ k ∈ all, p k) ⟨fun h k => h k (mem_all k), fun h k _ => h k⟩

/-- The last three bands share a level. -/
def level : Band → Nat
  | below => 0
  | star => 1
  | zero => 2
  | overlong | letters | fitting => 3

/-- The next band in the circle of the last level. -/
def next : Band → Band
  | overlong => letters
  | letters => fitting
  | fitting => overlong
  | band => band

def compare (k l : Band) : Ordering :=
  (Ord.compare k.level l.level).then
    (if k = l then .eq else if k.next = l then .lt else .gt)

theorem compare_swap : ∀ k l : Band, k.compare l = (l.compare k).swap := by decide

theorem compare_eq_eq : ∀ {k l : Band}, k.compare l = .eq ↔ k = l := by decide

/-- Three bands once round the circle. -/
def Circle (k l m : Band) : Prop := k.level = 3 ∧ k.next = l ∧ l.next = m
deriving Decidable

theorem compare_of_circle :
    ∀ {k l m : Band}, Circle k l m →
      k.compare l = .lt ∧ l.compare m = .lt ∧ k.compare m = .gt := by decide

theorem exists_overlong_of_circle :
    ∀ {k l m : Band}, Circle k l m → k = overlong ∨ l = overlong ∨ m = overlong := by decide

theorem chained_of_ne :
    ∀ {k l m : Band}, k ≠ l → l ≠ m → k ≠ m → ¬ Circle k l m →
      Chained (k.compare l) (l.compare m) (k.compare m) := by decide

end Band

/-! ### Different bands -/

theorem compare_swap (a b : Slot) : a.compare b = (b.compare a).swap := by
  have mixed : (Ord.compare a.value b.value).then (Ord.compare a.text b.text) =
      ((Ord.compare b.value a.value).then (Ord.compare b.text a.text)).swap := by
    rw [Ordering.swap_then, ← Std.OrientedOrd.eq_swap, ← Std.OrientedOrd.eq_swap]
  cases a <;> cases b
  case number.number => exact Std.OrientedOrd.eq_swap
  all_goals exact mixed

theorem compare_number (a b : List Char) :
    (number a).compare (number b) = Ord.compare (readNat a) (readNat b) := rfl

theorem compare_number_word (digits cs : List Char) :
    (number digits).compare (word cs) =
      (Ord.compare (read64 digits : Int) 0).then (Ord.compare digits cs) := rfl

theorem compare_number_below {digits : List Char} {distance : Nat} (positive : 0 < distance) :
    (number digits).compare (below distance) = .gt := by
  have : Ord.compare (read64 digits : Int) (-distance) = .gt := Int.compare_eq_gt.2 (by omega)
  rw [show (number digits).compare (below distance) =
    (Ord.compare (read64 digits : Int) (-distance)).then _ from rfl, this]
  rfl

theorem compare_word_below {cs : List Char} {distance : Nat} (positive : 0 < distance) :
    (word cs).compare (below distance) = .gt := by
  have : Ord.compare (0 : Int) (-distance) = .gt := Int.compare_eq_gt.2 (by omega)
  rw [show (word cs).compare (below distance) =
    (Ord.compare (0 : Int) (-distance)).then _ from rfl, this]
  rfl

theorem compare_word (a b : List Char) : (word a).compare (word b) = Ord.compare a b := by
  rw [show (word a).compare (word b) = (Ord.compare (0 : Int) 0).then (Ord.compare a b) from rfl]
  rfl

/-! ### Texts of different kinds -/

theorem compare_cons_of_lt {c d : Char} {cs ds : List Char} (lt : c < d) :
    Ord.compare (c :: cs) (d :: ds) = .lt := by
  rw [List.compare_cons_cons, show Ord.compare c d = .lt from by
    simp [Ord.compare, compareOfLessAndEq, lt]]
  rfl

theorem exists_digit {digits : List Char} (number : isNumber digits = true) :
    ∃ c cs, digits = c :: cs ∧ c.isDigit = true := by
  cases digits with
  | nil => simp [isNumber] at number
  | cons c cs => exact ⟨c, cs, rfl, by simp_all [isNumber]⟩

theorem compare_number_letters {digits cs : List Char} (number : isNumber digits = true)
    (nonempty : cs ≠ []) (letters : ∀ c ∈ cs, c.isAlpha = true) :
    (Slot.number digits).compare (word cs) = (Ord.compare (read64 digits : Int) 0).then .lt := by
  obtain ⟨c, ds, rfl, digit⟩ := exists_digit number
  obtain ⟨d, es, rfl⟩ := List.exists_cons_of_ne_nil nonempty
  rw [compare_number_word, compare_cons_of_lt (digit_lt_alpha digit (letters d (by simp)))]

theorem compare_number_star {digits : List Char} (number : isNumber digits = true) :
    (Slot.number digits).compare (word ['*']) = .gt := by
  obtain ⟨c, ds, rfl, digit⟩ := exists_digit number
  rw [compare_number_word, Std.OrientedOrd.eq_swap (a := c :: ds),
    compare_cons_of_lt (star_lt_digit digit)]
  rcases Nat.eq_zero_or_pos (read64 (c :: ds)) with zero | positive
  · rw [zero]; rfl
  · rw [show Ord.compare (read64 (c :: ds) : Int) 0 = .gt from Int.compare_eq_gt.2 (by omega)]
    rfl

theorem compare_star_letters {cs : List Char} (nonempty : cs ≠ [])
    (letters : ∀ c ∈ cs, c.isAlpha = true) : (word ['*']).compare (word cs) = .lt := by
  obtain ⟨d, es, rfl⟩ := List.exists_cons_of_ne_nil nonempty
  have lt : '*' < '0' := by decide
  have lt := Char.lt_trans lt (digit_lt_alpha rfl (letters d (by simp)))
  rw [compare_word, compare_cons_of_lt lt]

/-! ### Different bands -/

theorem band_number (digits : List Char) :
    (readNat digits = 0 ∧ read64 digits = 0 ∧ (number digits).band = .zero) ∨
      (0 < readNat digits ∧ readNat digits < wordBound ∧ read64 digits = readNat digits ∧
        (number digits).band = .fitting) ∨
      (wordBound ≤ readNat digits ∧ read64 digits = 0 ∧ (number digits).band = .overlong) := by
  have bound : 0 < wordBound := by decide
  unfold read64
  simp only [band]
  rcases Nat.eq_zero_or_pos (readNat digits) with zero | positive
  · exact .inl ⟨zero, by simp [zero], if_pos zero⟩
  rcases Nat.lt_or_ge (readNat digits) wordBound with fits | long
  · exact .inr (.inl ⟨positive, fits, if_pos fits, by rw [if_neg (by omega), if_pos fits]⟩)
  · exact .inr (.inr ⟨long, if_neg (by omega), by rw [if_neg (by omega), if_neg (by omega)]⟩)

theorem band_letters {cs : List Char} (letters : ∀ c ∈ cs, c.isAlpha = true) :
    (word cs).band = .letters := by
  refine if_neg ?_
  rintro rfl
  exact absurd (letters '*' (by simp)) (by decide)

theorem agree_symm {a b : Slot} (agree : a.compare b = a.band.compare b.band) :
    b.compare a = b.band.compare a.band := by
  rw [compare_swap, agree, ← Band.compare_swap]

theorem number_agree {a b : List Char} (different : (number a).band ≠ (number b).band) :
    (number a).compare (number b) = (number a).band.compare (number b).band := by
  rw [compare_number]
  rcases band_number a with ⟨za, -, ba⟩ | ⟨pa, fa, -, ba⟩ | ⟨la, -, ba⟩ <;>
    rcases band_number b with ⟨zb, -, bb⟩ | ⟨pb, fb, -, bb⟩ | ⟨lb, -, bb⟩ <;>
    rw [ba, bb] at different ⊢
  case inl.inr.inl => exact Nat.compare_eq_lt.2 (by omega)
  case inl.inr.inr =>
    rw [za]
    exact Nat.compare_eq_lt.2 (Nat.lt_of_lt_of_le (by decide) lb)
  case inr.inl.inl => exact Nat.compare_eq_gt.2 (by omega)
  case inr.inl.inr.inr => exact Nat.compare_eq_lt.2 (by omega)
  case inr.inr.inl =>
    rw [zb]
    exact Nat.compare_eq_gt.2 (Nat.lt_of_lt_of_le (by decide) la)
  case inr.inr.inr.inl => exact Nat.compare_eq_gt.2 (by omega)
  all_goals contradiction

theorem number_letters_agree {digits cs : List Char} (number : isNumber digits = true)
    (nonempty : cs ≠ []) (letters : ∀ c ∈ cs, c.isAlpha = true) :
    (Slot.number digits).compare (word cs) =
      (Slot.number digits).band.compare (word cs).band := by
  rw [compare_number_letters number nonempty letters, band_letters letters]
  rcases band_number digits with ⟨-, value, band⟩ | ⟨positive, -, value, band⟩ |
    ⟨-, value, band⟩ <;>
    rw [value, band]
  · rfl
  · rw [show Ord.compare (readNat digits : Int) 0 = .gt from Int.compare_eq_gt.2 (by omega)]
    rfl
  · rfl

theorem band_word (cs : List Char) : (word cs).band = .star ∨ (word cs).band = .letters := by
  rcases Decidable.em (cs = ['*']) with star | letters
  · exact .inl (if_pos star)
  · exact .inr (if_neg letters)

/-- Numbers are above stars, and everything is above what is below zero. -/
theorem number_band_star (digits : List Char) : (number digits).band.compare .star = .gt := by
  rcases band_number digits with ⟨-, -, band⟩ | ⟨-, -, -, band⟩ | ⟨-, -, band⟩ <;> rw [band] <;> rfl

theorem number_band_below (digits : List Char) : (number digits).band.compare .below = .gt := by
  rcases band_number digits with ⟨-, -, band⟩ | ⟨-, -, -, band⟩ | ⟨-, -, band⟩ <;> rw [band] <;> rfl

theorem word_band_below (cs : List Char) : (word cs).band.compare .below = .gt := by
  rcases band_word cs with band | band <;> rw [band] <;> rfl

theorem number_band_ne_word (digits cs : List Char) : (number digits).band ≠ (word cs).band := by
  rcases band_number digits with ⟨-, -, band⟩ | ⟨-, -, -, band⟩ | ⟨-, -, band⟩ <;>
    rcases band_word cs with word | word <;> rw [band, word] <;> decide

theorem band_ne_of_gt {k l : Band} (gt : k.compare l = .gt) : k ≠ l := by
  rintro rfl
  rw [Band.compare_eq_eq.2 rfl] at gt
  contradiction

/-- Slots of different bands are in the order of the bands. -/
theorem compare_of_band_ne {a b : Slot} (ha : a.WellFormed) (hb : b.WellFormed)
    (different : a.band ≠ b.band) : a.compare b = a.band.compare b.band := by
  have star : (word ['*']).band = .star := rfl
  cases ha with
  | number na =>
    cases hb with
    | number nb => exact number_agree different
    | star => rw [compare_number_star na, star, number_band_star]
    | letters nonempty letters => exact number_letters_agree na nonempty letters
    | below positive => rw [compare_number_below positive]; exact (number_band_below _).symm
  | star =>
    cases hb with
    | number nb =>
      exact agree_symm (by rw [compare_number_star nb, star, number_band_star])
    | star => contradiction
    | letters nonempty letters =>
      rw [compare_star_letters nonempty letters, star, band_letters letters]
      rfl
    | below positive => rw [compare_word_below positive]; exact (word_band_below _).symm
  | letters nonempty letters =>
    cases hb with
    | number nb => exact agree_symm (number_letters_agree nb nonempty letters)
    | star =>
      refine agree_symm ?_
      rw [compare_star_letters nonempty letters, star, band_letters letters]
      rfl
    | letters _ other =>
      exact absurd ((band_letters letters).trans (band_letters other).symm) different
    | below positive => rw [compare_word_below positive]; exact (word_band_below _).symm
  | below pa =>
    cases hb with
    | number nb =>
      exact agree_symm (by rw [compare_number_below pa]; exact (number_band_below _).symm)
    | star => exact agree_symm (by rw [compare_word_below pa]; exact (word_band_below _).symm)
    | letters nonempty letters =>
      exact agree_symm (by rw [compare_word_below pa]; exact (word_band_below _).symm)
    | below => contradiction

/-! ### One band -/

/-- What orders the slots of one band: a size, then a text. -/
def key : Slot → Int × List Char
  | number digits => (readNat digits, [])
  | word letters => (0, letters)
  | below distance => (-distance, [])

def compareKeys : Slot → Slot → Ordering :=
  compareLex (compareOn fun slot => slot.key.1) (compareOn fun slot => slot.key.2)

theorem compareKeys_def (a b : Slot) :
    compareKeys a b = (Ord.compare a.key.1 b.key.1).then (Ord.compare a.key.2 b.key.2) := rfl

instance transCompareKeys : Std.TransCmp compareKeys :=
  inferInstanceAs (Std.TransCmp (compareLex _ _))

theorem compare_natCast (m n : Nat) : Ord.compare (m : Int) (n : Int) = Ord.compare m n := by
  rw [Int.compare_eq_ite_lt, Nat.compare_eq_ite_lt]
  simp only [Int.ofNat_lt]

theorem compare_of_band_eq {a b : Slot} (same : a.band = b.band) :
    a.compare b = compareKeys a b := by
  rw [compareKeys_def]
  cases a with
  | number a =>
    cases b with
    | number b =>
      rw [compare_number, key, key, compare_natCast]
      exact Ordering.then_eq.symm
    | word b => exact absurd same (number_band_ne_word a b)
    | below b => exact absurd same (band_ne_of_gt (number_band_below a))
  | word a =>
    cases b with
    | number b => exact absurd same.symm (number_band_ne_word b a)
    | word b => rfl
    | below b => exact absurd same (band_ne_of_gt (word_band_below a))
  | below a =>
    cases b with
    | number b => exact absurd same.symm (band_ne_of_gt (number_band_below b))
    | word b => exact absurd same.symm (band_ne_of_gt (word_band_below b))
    | below b =>
      show (Ord.compare (-(a : Int)) (-b)).then _ = (Ord.compare (-(a : Int)) (-b)).then .eq
      rcases Decidable.em (a = b) with rfl | distinct
      · simp [text, Std.ReflOrd.compare_self]
      · cases order : Ord.compare (-(a : Int)) (-b) with
        | eq => exact absurd (Int.compare_eq_eq.1 order) (by omega)
        | lt => rfl
        | gt => rfl

/-! ### Three slots -/

theorem compare_self (a : Slot) : a.compare a = .eq := by
  rw [compare_of_band_eq rfl]
  exact Std.ReflCmp.compare_self

theorem band_eq_of_compare {a b : Slot} (ha : a.WellFormed) (hb : b.WellFormed)
    (tie : a.compare b = .eq) : a.band = b.band := by
  apply Decidable.of_not_not
  intro different
  rw [compare_of_band_ne ha hb different] at tie
  exact different (Band.compare_eq_eq.1 tie)

theorem lt_of_band_ne {a b : Slot} (ha : a.WellFormed) (hb : b.WellFormed)
    (different : a.band ≠ b.band) (le : a.compare b ≠ .gt) : a.compare b = .lt := by
  cases order : a.compare b with
  | lt => rfl
  | eq => exact absurd (band_eq_of_compare ha hb order) different
  | gt => contradiction

theorem compare_congr_left {a b : Slot} (c : Slot) (ha : a.WellFormed) (hb : b.WellFormed)
    (hc : c.WellFormed) (tie : a.compare b = .eq) : a.compare c = b.compare c := by
  have same := band_eq_of_compare ha hb tie
  by_cases one : b.band = c.band
  · rw [compare_of_band_eq same] at tie
    rw [compare_of_band_eq (same.trans one), compare_of_band_eq one]
    exact Std.TransCmp.congr_left tie
  · rw [compare_of_band_ne hb hc one, compare_of_band_ne ha hc (by rwa [same]), same]

/-- An overlong number, letters and a positive number that fits, in this order or turned round. -/
def Circle (a b c : Slot) : Prop := Band.Circle a.band b.band c.band

theorem compare_of_circle {a b c : Slot} (ha : a.WellFormed) (hb : b.WellFormed)
    (hc : c.WellFormed) (circle : Circle a b c) :
    a.compare b = .lt ∧ b.compare c = .lt ∧ a.compare c = .gt := by
  obtain ⟨ab, bc, ac⟩ := Band.compare_of_circle circle
  have ne_of_lt {k l : Band} (lt : k.compare l = .lt) : k ≠ l := by
    rintro rfl
    rw [Band.compare_eq_eq.2 rfl] at lt
    contradiction
  rw [compare_of_band_ne ha hb (ne_of_lt ab), compare_of_band_ne hb hc (ne_of_lt bc),
    compare_of_band_ne ha hc (band_ne_of_gt ac)]
  exact ⟨ab, bc, ac⟩

/-- Three slots are compared as in a preorder unless they stand in the circle. -/
theorem chained {a b c : Slot} (ha : a.WellFormed) (hb : b.WellFormed) (hc : c.WellFormed)
    (straight : ¬ Circle a b c) : Chained (a.compare b) (b.compare c) (a.compare c) := by
  intro ab_le bc_le
  by_cases ab : a.band = b.band
  · by_cases bc : b.band = c.band
    · rw [compare_of_band_eq ab] at ab_le ⊢
      rw [compare_of_band_eq bc] at bc_le ⊢
      rw [compare_of_band_eq (ab.trans bc)]
      have ab_le := Ordering.isLE_iff_ne_gt.2 ab_le
      have bc_le := Ordering.isLE_iff_ne_gt.2 bc_le
      refine ⟨Ordering.isLE_iff_ne_gt.1 (Std.TransCmp.isLE_trans ab_le bc_le), ?_⟩
      rintro (lt | lt)
      · exact Std.TransCmp.lt_of_lt_of_isLE lt bc_le
      · exact Std.TransCmp.lt_of_isLE_of_lt ab_le lt
    · have same : a.compare c = b.compare c := by
        rw [compare_of_band_ne hb hc bc, compare_of_band_ne ha hc (by rwa [ab]), ab]
      rw [same]
      exact ⟨bc_le, fun _ => lt_of_band_ne hb hc bc bc_le⟩
  by_cases bc : b.band = c.band
  · have same : a.compare c = a.compare b := by
      rw [compare_of_band_ne ha hb ab, compare_of_band_ne ha hc (by rwa [← bc]), bc]
    rw [same]
    exact ⟨ab_le, fun _ => lt_of_band_ne ha hb ab ab_le⟩
  by_cases ac : a.band = c.band
  · -- `c` is in the band of `a`, so it cannot be above `b`
    have turned : b.compare c = (a.compare b).swap := by
      rw [compare_of_band_ne hb hc bc, compare_of_band_ne ha hb ab, ← ac, Band.compare_swap]
    rw [turned, lt_of_band_ne ha hb ab ab_le] at bc_le
    contradiction
  · rw [compare_of_band_ne ha hb ab] at ab_le ⊢
    rw [compare_of_band_ne hb hc bc] at bc_le ⊢
    rw [compare_of_band_ne ha hc ac]
    exact Band.chained_of_ne ab bc ac straight ab_le bc_le

end Slot

/-! ### Lists of slots -/

theorem compareSlots_cons (a b : Slot) (as bs : List Slot) :
    compareSlots (a :: as) (b :: bs) = (a.compare b).then (compareSlots as bs) :=
  List.compareLex_cons_cons

theorem compareSlots_append {as bs : List Slot} (cs ds : List Slot)
    (aligned : as.length = bs.length) :
    compareSlots (as ++ cs) (bs ++ ds) = (compareSlots as bs).then (compareSlots cs ds) := by
  induction as generalizing bs with
  | nil =>
    obtain rfl := List.length_eq_zero_iff.1 aligned.symm
    rfl
  | cons a as ih =>
    cases bs with
    | nil => cases aligned
    | cons b bs =>
      rw [List.cons_append, List.cons_append, compareSlots_cons, compareSlots_cons,
        ih (Nat.succ.inj aligned), Ordering.then_assoc]

theorem compareSlots_self (slots : List Slot) : compareSlots slots slots = .eq := by
  induction slots with
  | nil => rfl
  | cons slot slots ih =>
    rw [compareSlots_cons, Slot.compare_self]
    exact ih

theorem compareSlots_append_left (slots as bs : List Slot) :
    compareSlots (slots ++ as) (slots ++ bs) = compareSlots as bs := by
  rw [compareSlots_append as bs rfl, compareSlots_self]
  rfl

end Ebuild.Version
