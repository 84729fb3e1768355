import Ebuild.Proofs.Text.Digits
import Ebuild.Proofs.Version.Slot

/-!
# The text of a slot

What a slot shows of itself: a text and a signed 64-bit word. The texts before the revision are
numbers, letters that are no suffix marker, a star, or an integer from -40000 to -1, and the word is
the integer that the text writes if it fits. Both together are all that the order of slots needs
(`compareTexts_eq`).
-/

namespace Ebuild

namespace Text

def FitsWord (x : Int) : Prop := -(wordBound : Int) ≤ x ∧ x < wordBound
deriving Decidable

def readInt? : List Char → Option Int
  | '-' :: digits => if isNumber digits then some (-(readNat digits : Int)) else none
  | '+' :: digits => if isNumber digits then some (readNat digits : Int) else none
  | digits => if isNumber digits then some (readNat digits : Int) else none

/-- `readInt?` within signed 64-bit words. -/
def readWord? (cs : List Char) : Option Int := (readInt? cs).filter fun x => FitsWord x

theorem readInt?_of_isNumber {digits : List Char} (number : isNumber digits = true) :
    readInt? digits = some (readNat digits : Int) := by
  unfold readInt?
  split
  · exact absurd number (by simp [isNumber])
  · exact absurd number (by simp [isNumber])
  · exact if_pos number

theorem readInt?_of_head {c : Char} (cs : List Char) (unsigned : c ≠ '-' ∧ c ≠ '+')
    (letter : c.isDigit = false) : readInt? (c :: cs) = none := by
  unfold readInt?
  split
  next same => exact absurd (List.cons.inj same).1 unsigned.1
  next same => exact absurd (List.cons.inj same).1 unsigned.2
  next => exact if_neg (by simp [isNumber, letter])

end Text

namespace Version
open Text

inductive IsSlotText : String → Prop
  | number {t : String} (number : isNumber t.toList = true) : IsSlotText t
  | letters {t : String} (nonempty : t ≠ "") (letters : ∀ c ∈ t.toList, c.isAlpha = true)
    (plain : t ∉ ["alpha", "beta", "pre", "rc", "p"]) : IsSlotText t
  | star : IsSlotText "*"
  | below {x : Int} (low : -40000 ≤ x) (high : x ≤ -1) : IsSlotText (toString x)

/-! ### Markers leave no trace -/

theorem markerOffset_bounds {token : List Char} {offset : Int}
    (marker : markerOffset? token = some offset) : -40000 ≤ offset ∧ offset ≤ 0 := by
  unfold markerOffset? at marker
  repeat' split at marker
  all_goals cases marker
  all_goals decide

theorem not_mem_of_markerOffset {token : List Char} (plain : markerOffset? token = none) :
    String.ofList token ∉ ["alpha", "beta", "pre", "rc", "p"] := by
  intro mem
  have read : token = (String.ofList token).toList := String.toList_ofList.symm
  simp only [List.mem_cons, List.not_mem_nil, or_false] at mem
  rcases mem with same | same | same | same | same
  all_goals
    rw [read, same] at plain
    exact absurd plain (by decide)

theorem fitsWord_add {token : List Char} {offset : Int}
    (marker : markerOffset? token = some offset) (digits : List Char) :
    FitsWord (offset + read64 digits) := by
  have bounds := markerOffset_bounds marker
  have small := read64_lt digits
  have room : 40000 < wordBound := by decide
  unfold FitsWord
  omega

namespace Slot

/-- No marker is left as a word, and no integer is below the lowest marker. -/
def Merged : Slot → Prop
  | number _ => True
  | word letters => markerOffset? letters = none
  | below distance => distance ≤ 40000

theorem merged_ofInt {x : Int} (low : -40000 ≤ x) : Merged (ofInt x) := by
  cases x with
  | ofNat n => exact trivial
  | negSucc n =>
    show n + 1 ≤ 40000
    omega

theorem merged_ofToken {token : List Char} (plain : markerOffset? token = none) :
    Merged (ofToken token) := by
  unfold ofToken
  split
  · exact trivial
  · exact plain

end Slot

theorem merged_mergeMarkers (ts : List (List Char)) : ∀ slot ∈ mergeMarkers ts, slot.Merged := by
  fun_induction mergeMarkers ts with
  | case1 => simp
  | case2 token offset marker =>
    simpa using Slot.merged_ofInt (markerOffset_bounds marker).1
  | case3 token plain =>
    simpa using Slot.merged_ofToken plain
  | case4 token next rest offset marker number ih =>
    have low := (markerOffset_bounds marker).1
    exact List.forall_mem_cons.2 ⟨Slot.merged_ofInt (by omega), ih⟩
  | case5 token next rest offset marker bare ih =>
    exact List.forall_mem_cons.2 ⟨Slot.merged_ofInt (markerOffset_bounds marker).1, ih⟩
  | case6 token next rest plain ih =>
    exact List.forall_mem_cons.2 ⟨Slot.merged_ofToken plain, ih⟩

theorem merged_slots (v : Version) : ∀ slot ∈ v.slots, slot.Merged := by
  obtain ⟨body, digits, -, -, same⟩ := exists_slotsOf v.body
  rw [slots, same, List.forall_mem_append, List.forall_mem_singleton]
  exact ⟨forall_mem_fitBody trivial (merged_mergeMarkers body), trivial⟩

/-! ### Texts and words -/

namespace Slot

theorem ofList_text_below {n : Nat} (positive : 0 < n) :
    String.ofList (below n).text = toString (-(n : Int)) := by
  obtain ⟨m, rfl⟩ := Nat.exists_eq_succ_of_ne_zero (Nat.ne_of_gt positive)
  have shown : toString (-((m + 1 : Nat) : Int)) = "-" ++ Nat.repr (m + 1) := rfl
  rw [shown, ← String.toList_inj, String.toList_ofList, String.toList_append, Nat.toList_repr]
  rfl

theorem isSlotText {slot : Slot} (form : slot.WellFormed) (merged : slot.Merged) :
    IsSlotText (String.ofList slot.text) := by
  cases form with
  | number number => exact .number (by rwa [String.toList_ofList])
  | star => exact .star
  | letters nonempty letters =>
    refine .letters ?_ (by rwa [String.toList_ofList]) (not_mem_of_markerOffset merged)
    rwa [ne_eq, String.ofList_eq_empty_iff]
  | @below n positive =>
    have low : n ≤ 40000 := merged
    rw [ofList_text_below positive]
    exact .below (by omega) (by omega)

theorem exists_head_word {letters : List Char} (form : (word letters).WellFormed) :
    ∃ c cs, letters = c :: cs ∧ c.isDigit = false ∧ c ≠ '-' ∧ c ≠ '+' := by
  cases form with
  | star => exact ⟨'*', [], rfl, by decide⟩
  | letters nonempty letters =>
    obtain ⟨c, cs, rfl⟩ := List.exists_cons_of_ne_nil nonempty
    have alpha := letters c List.mem_cons_self
    refine ⟨c, cs, rfl, not_isDigit_of_isAlpha alpha, ?_, ?_⟩
    all_goals
      rintro rfl
      exact absurd alpha (by decide)

theorem readWord?_word {letters : List Char} (form : (word letters).WellFormed) :
    readWord? letters = none := by
  obtain ⟨c, cs, rfl, letter, unsigned⟩ := exists_head_word form
  rw [readWord?, readInt?_of_head cs unsigned letter]
  rfl

theorem readWord?_number {digits : List Char} (number : isNumber digits = true) :
    readWord? digits =
      if readNat digits < wordBound then some (readNat digits : Int) else none := by
  have bound : 0 < wordBound := by decide
  have fits : FitsWord (readNat digits : Int) ↔ readNat digits < wordBound := by
    unfold FitsWord
    omega
  simp only [readWord?, readInt?_of_isNumber number, Option.filter_some, fits, decide_eq_true_eq]

theorem readWord?_below {n : Nat} (merged : (below n).Merged) :
    readWord? (below n).text = some (-(n : Int)) := by
  have low : n ≤ 40000 := merged
  have room : 40000 < wordBound := by decide
  have fits : FitsWord (-(n : Int)) := by
    unfold FitsWord
    omega
  have read : readInt? (below n).text = some (-(n : Int)) := by
    rw [text, readInt?, if_pos (isNumber_toDigits n), readNat,
      Nat.ofDigitChars_toDigits (by decide) (by decide)]
  rw [readWord?, read, Option.filter_some, if_pos (decide_eq_true fits)]

/-- The word of a slot is what its text reads as, zero where that is no word. -/
theorem value_eq {slot : Slot} (form : slot.WellFormed) (merged : slot.Merged) :
    slot.value = (readWord? slot.text).getD 0 := by
  cases slot with
  | number digits =>
    cases form with
    | number number =>
      rw [text, readWord?_number number, value, read64]
      split <;> rfl
  | word letters => rw [text, readWord?_word form]; rfl
  | below n => rw [readWord?_below merged]; rfl

theorem exists_number {slot : Slot} (form : slot.WellFormed) (number : isNumber slot.text = true) :
    ∃ digits, slot = .number digits := by
  cases slot with
  | number digits => exact ⟨digits, rfl⟩
  | word letters =>
    obtain ⟨c, cs, rfl, letter, -⟩ := exists_head_word form
    simp [text, isNumber, letter] at number
  | below => simp [text, isNumber] at number

end Slot

/-! ### Comparing texts and words -/

/-- The order of two slots, from the text and the word of each. -/
def compareTexts (a : String) (x : Int) (b : String) (y : Int) : Ordering :=
  if isNumber a.toList && isNumber b.toList then compareDigits a.toList b.toList
  else
    match Ord.compare x y with
    | .eq =>
      if (readWord? a.toList).isNone || (readWord? b.toList).isNone then
        Ord.compare a.toList b.toList
      else .eq
    | order => order

theorem compare_mixed {a b : Slot} (formA : a.WellFormed) (formB : b.WellFormed)
    (mixed : ¬ (isNumber a.text = true ∧ isNumber b.text = true)) :
    a.compare b = (Ord.compare a.value b.value).then (Ord.compare a.text b.text) := by
  cases formA with
  | number numberA =>
    cases formB with
    | number numberB => exact absurd ⟨numberA, numberB⟩ mixed
    | _ => rfl
  | _ => cases formB <;> rfl

theorem readable_cases {slot : Slot} (form : slot.WellFormed)
    (readable : (readWord? slot.text).isNone = false) :
    (isNumber slot.text = true ∧ 0 ≤ slot.value) ∨ ∃ n, 0 < n ∧ slot = .below n := by
  cases slot with
  | number digits =>
    cases form with
    | number number => exact .inl ⟨number, Int.natCast_nonneg _⟩
  | word letters =>
    rw [Slot.text, Slot.readWord?_word form] at readable
    cases readable
  | below n =>
    cases form with
    | below positive => exact .inr ⟨n, positive, rfl⟩

/-- Two integers that tie have one text unless both are runs of digits. -/
theorem text_eq_of_tie {a b : Slot} (formA : a.WellFormed) (formB : b.WellFormed)
    (mixed : ¬ (isNumber a.text = true ∧ isNumber b.text = true)) (tie : a.value = b.value)
    (readA : (readWord? a.text).isNone = false) (readB : (readWord? b.text).isNone = false) :
    a.text = b.text := by
  rcases readable_cases formA readA with ⟨numberA, above⟩ | ⟨m, positive, rfl⟩ <;>
    rcases readable_cases formB readB with ⟨numberB, above'⟩ | ⟨n, positive', rfl⟩
  · exact absurd ⟨numberA, numberB⟩ mixed
  · have : a.value = -n := tie
    omega
  · have : -(m : Int) = b.value := tie
    omega
  · have : -(m : Int) = -n := tie
    obtain rfl : m = n := by omega
    rfl

theorem compareTexts_eq {a b : Slot} (formA : a.WellFormed) (formB : b.WellFormed) :
    compareTexts (String.ofList a.text) a.value (String.ofList b.text) b.value = a.compare b := by
  simp only [compareTexts, String.toList_ofList, Bool.and_eq_true]
  split
  next numbers =>
    obtain ⟨digitsA, rfl⟩ := Slot.exists_number formA numbers.1
    obtain ⟨digitsB, rfl⟩ := Slot.exists_number formB numbers.2
    simp only [Slot.text, isNumber, Bool.and_eq_true] at numbers
    exact (compare_readNat numbers.1.2 numbers.2.2).symm
  next mixed =>
    rw [compare_mixed formA formB mixed]
    cases order : Ord.compare a.value b.value with
    | lt => rfl
    | gt => rfl
    | eq =>
      dsimp only [Ordering.then]
      split
      next => rfl
      next readable =>
        rw [Bool.or_eq_true, not_or, Bool.not_eq_true, Bool.not_eq_true] at readable
        have same := text_eq_of_tie formA formB mixed (Int.compare_eq_eq.1 order) readable.1
          readable.2
        rw [same, Std.ReflOrd.compare_self]

end Version

end Ebuild
