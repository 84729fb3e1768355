import Ebuild.Proofs.Version.Suffix

/-!
# Letters after a release

One lower-case letter right after the numbers. Letters stand above the release in the order of the
alphabet, whatever the revisions, but for `p`: alone it is the patch marker, which adds nothing.
`letters_above_release` says where each letter stands.
-/

namespace Ebuild.Version
open Text

abbrev Letter := { c : Char // c.isLower = true }

namespace Letter

theorem isAlpha (letter : Letter) : letter.1.isAlpha = true := by
  have cases : letter.1.isAlpha = (letter.1.isUpper || letter.1.isLower) := rfl
  rw [cases, letter.2, Bool.or_true]

theorem toNat_pos (letter : Letter) : 0 < letter.1.toNat := by
  have := isAlpha_iff.1 letter.isAlpha
  omega

def text : Option Letter → List Char
  | none => []
  | some letter => [letter.1]

def tokens : Option Letter → List (List Char)
  | none => []
  | some letter => [[letter.1]]

/-- The slot after the numbers of the release. -/
def slot : Option Letter → Slot
  | none => .zero
  | some letter => if letter.1 = 'p' then .zero else .word [letter.1]

/-- How far above the release the letter stands. -/
def place : Option Letter → Nat
  | none => 0
  | some letter => if letter.1 = 'p' then 0 else letter.1.toNat

theorem place_of_patch {letter : Letter} (patch : letter.1 = 'p') : place (some letter) = 0 :=
  if_pos patch

theorem place_of_ne {letter : Letter} (other : letter.1 ≠ 'p') :
    place (some letter) = letter.1.toNat :=
  if_neg other

theorem place_le (letter : Letter) : place (some letter) ≤ letter.1.toNat := by
  by_cases patch : letter.1 = 'p'
  · rw [place_of_patch patch]
    exact Nat.zero_le _
  · exact Nat.le_of_eq (place_of_ne patch)

theorem plain_text (letter : Option Letter) : ∀ c ∈ text letter, Plain c := by
  intro c mem
  cases letter with
  | none => cases mem
  | some letter =>
    obtain rfl := List.mem_singleton.1 mem
    exact .inr (.inl letter.isAlpha)

theorem tokens_text (letter : Option Letter) : Version.tokens (text letter) = tokens letter := by
  cases letter with
  | none => rfl
  | some letter =>
    have joins : (CharKind.of letter.1).Joins := .inr (kind_of_alpha letter.isAlpha)
    rw [text, tokens_joining joins, if_neg (by simp)]
    rfl

theorem markerOffset_letter (letter : Letter) :
    markerOffset? [letter.1] = if letter.1 = 'p' then some 0 else none := by
  simp [markerOffset?]

theorem fitBody_letter (slots : List Slot) (letter : Option Letter) :
    fitBody (slots ++ mergeMarkers (tokens letter)) = fitBody (slots ++ [slot letter]) := by
  cases letter with
  | none => rw [tokens, mergeMarkers, List.append_nil, slot, fitBody_concat_zero]
  | some letter =>
    have word : isNumber [letter.1] = false := by
      simp [isNumber, not_isDigit_of_isAlpha letter.isAlpha]
    rw [tokens, mergeMarkers, markerOffset_letter, slot]
    by_cases patch : letter.1 = 'p'
    · rw [if_pos patch, if_pos patch]
      rfl
    · rw [if_neg patch, if_neg patch, Slot.ofToken, word]
      rfl

/-- Letters are above the zero of the release, and in the order of the alphabet. -/
theorem compare_slot (s t : Option Letter) :
    (slot s).compare (slot t) = Ord.compare (place s) (place t) := by
  have zero_or_word (s : Option Letter) : (slot s = .zero ∧ place s = 0) ∨
      ∃ letter : Letter, slot s = .word [letter.1] ∧ place s = letter.1.toNat := by
    cases s with
    | none => exact .inl ⟨rfl, rfl⟩
    | some letter =>
      by_cases patch : letter.1 = 'p'
      · exact .inl ⟨if_pos patch, if_pos patch⟩
      · exact .inr ⟨letter, if_neg patch, if_neg patch⟩
  have above (letter : Letter) : Slot.zero.compare (.word [letter.1]) = .lt := by
    have letters : ∀ c ∈ [letter.1], c.isAlpha = true := by simpa using letter.isAlpha
    exact Slot.compare_number_letters rfl (by simp) letters
  rcases zero_or_word s with ⟨slotS, placeS⟩ | ⟨x, slotS, placeS⟩ <;>
    rcases zero_or_word t with ⟨slotT, placeT⟩ | ⟨y, slotT, placeT⟩ <;>
    rw [slotS, placeS, slotT, placeT]
  · rfl
  · rw [above, Nat.compare_eq_lt.2 y.toNat_pos]
  · rw [Slot.compare_swap, above, Nat.compare_eq_gt.2 x.toNat_pos]
    rfl
  · rw [Slot.compare_word, List.compare_cons_cons, compare_char]
    exact Ordering.then_eq

end Letter

namespace Release

/-- The release with a letter after it, or alone. -/
def lettered (release : Release) (letter : Option Letter) : Stem where
  text := release.text ++ Letter.text letter
  plain := fun c mem =>
    (List.mem_append.1 mem).elim (release.plain_text c) (Letter.plain_text letter c)

theorem tokens_lettered (release : Release) (letter : Option Letter) :
    tokens (release.lettered letter).text = release.runs ++ Letter.tokens letter := by
  have stop : nextKind (Letter.text letter) ≠ some .digit := by
    cases letter with
    | none => decide
    | some letter =>
      show some (CharKind.of letter.1) ≠ some .digit
      rw [kind_of_alpha letter.isAlpha]
      decide
  show tokens (['.'].intercalate release.runs ++ Letter.text letter) = _
  rw [tokens_runs release.numbers stop, Letter.tokens_text]

theorem unrevised_lettered (release : Release) (letter : Option Letter) (revision : Revision) :
    (release.lettered letter).Unrevised revision := by
  rintro - revised
  obtain ⟨marker, digits, last, number⟩ := revised.spec
  rw [tokens_lettered] at marker last
  cases letter with
  | none =>
    rw [Letter.tokens, List.append_nil] at marker
    exact absurd (release.numbers ['r'] marker) (by decide)
  | some letter =>
    -- the letter may be `r`, but a revision would end in its number
    rw [Letter.tokens, List.getLast?_append] at last
    obtain rfl := Option.some.inj last
    simp [isNumber, not_isDigit_of_isAlpha letter.isAlpha] at number

variable {release : Release} (short : release.runs.length ≤ maxRuns)
include short

theorem slots_lettered (letter : Option Letter) :
    (release.lettered letter).slots =
      release.runs.map .number ++
        Letter.slot letter :: List.replicate (maxRuns - release.runs.length) .zero := by
  rw [Stem.slots, tokens_lettered, mergeMarkers_runs _ release.numbers, Letter.fitBody_letter,
    fitBody_runs_concat short]

theorem compare_lettered (s t : Option Letter) (r r' : Revision) :
    ((release.lettered s).version r).compare ((release.lettered t).version r') =
      (Ord.compare (Letter.place s) (Letter.place t)).then
        (Ord.compare (readNat r.digits) (readNat r'.digits)) := by
  rw [Stem.compare_of_slot (release.unrevised_lettered s r) (release.unrevised_lettered t r')
    (slots_lettered short s) (slots_lettered short t), Letter.compare_slot]

theorem lettered_below_iff (s t : Option Letter) :
    (∀ r r' : Revision,
      ((release.lettered s).version r).compare ((release.lettered t).version r') = .lt) ↔
      Letter.place s < Letter.place t :=
  (Stem.below_iff (compare_lettered short s t)).trans Nat.compare_eq_lt

end Release

/-- Letters stand above the release and in the order of the alphabet, whatever the revisions,
exactly if the upper one is not `p`, which stands where the release does. -/
theorem letters_above_release (release : Release) (short : release.runs.length ≤ 10) (x y : Letter)
    (before : x.1 < y.1) :
    ((∀ r r' : Revision, ((release.lettered none).version r).compare
        ((release.lettered (some x)).version r') = .lt) ↔ x.1 ≠ 'p') ∧
    ((∀ r r' : Revision, ((release.lettered (some x)).version r).compare
        ((release.lettered (some y)).version r') = .lt) ↔ y.1 ≠ 'p') ∧
    (x.1 = 'p' → ∀ r : Revision, ((release.lettered (some x)).version r).slots =
      ((release.lettered none).version r).slots) := by
  refine ⟨?_, ?_, ?_⟩
  · rw [Release.lettered_below_iff short]
    by_cases patch : x.1 = 'p'
    · rw [Letter.place_of_patch patch]
      exact iff_of_false (Nat.lt_irrefl 0) fun other => other patch
    · rw [Letter.place_of_ne patch]
      exact iff_of_true x.toNat_pos patch
  · rw [Release.lettered_below_iff short]
    by_cases patch : y.1 = 'p'
    · rw [Letter.place_of_patch patch]
      exact iff_of_false (Nat.not_lt_zero _) fun other => other patch
    · rw [Letter.place_of_ne patch]
      exact iff_of_true (Nat.lt_of_le_of_lt x.place_le (char_lt_iff.1 before)) patch
  · intro patch r
    have same : Letter.slot (some x) = Letter.slot none := if_pos patch
    rw [Stem.slots_version (release.unrevised_lettered _ r),
      Stem.slots_version (release.unrevised_lettered _ r), Release.slots_lettered short,
      Release.slots_lettered short, same]

/-- A tenth number, the letter of revisions and a revision on the lower side. -/
theorem letters_above_release_of_ten :
    let release : Release := ⟨List.replicate 10 ['9'], by decide, by decide⟩
    let o : Letter := ⟨'o', rfl⟩
    let p : Letter := ⟨'p', rfl⟩
    let r : Letter := ⟨'r', rfl⟩
    let seven : Revision := some ⟨['7'], rfl⟩
    (release.runs.length ≤ 10 ∧ o.1 < r.1 ∧ p.1 < r.1) ∧
      ((release.lettered none).version seven).compare
        ((release.lettered (some o)).version none) = .lt ∧
      ((release.lettered (some o)).version seven).compare
        ((release.lettered (some r)).version none) = .lt ∧
      ((release.lettered (some p)).version seven).slots =
        ((release.lettered none).version seven).slots := by
  intro release o p r seven
  have short : release.runs.length ≤ 10 := by decide
  have before : o.1 < r.1 := by decide
  have before' : p.1 < r.1 := by decide
  obtain ⟨above, later, -⟩ := letters_above_release release short o r before
  obtain ⟨-, -, patch⟩ := letters_above_release release short p r before'
  exact ⟨⟨short, before, before'⟩, above.2 (by decide) seven none, later.2 (by decide) seven none,
    patch rfl seven⟩

/-- The letter of the patch marker is not above the release, and not above the letter before it. -/
theorem patch_letter_ties_release :
    (parse "1").compare (parse "1p") = .eq ∧ (parse "1o").compare (parse "1p") = .gt := by
  decide +kernel

end Ebuild.Version
