import Ebuild.Proofs.Version.Revision

/-!
# Suffixes

A release with a suffix marker and a number. `compare_version` says that two of them compare by
one weight, then by revision; `suffix_order` says when the weights keep the order of the markers.
-/

namespace Ebuild.Version
open Text

/-- The suffix markers, in the order in which they sort around the release itself. -/
inductive Marker
  | alpha
  | beta
  | pre
  | rc
  | patch
  deriving DecidableEq, Repr

namespace Marker

def text : Marker → List Char
  | alpha => "alpha".toList
  | beta => "beta".toList
  | pre => "pre".toList
  | rc => "rc".toList
  | patch => ['p']

def offset : Marker → Int
  | alpha => -40000
  | beta => -30000
  | pre => -20000
  | rc => -10000
  | patch => 0

theorem markerOffset_text (marker : Marker) : markerOffset? marker.text = some marker.offset := by
  cases marker <;> rfl

theorem text_ne_nil (marker : Marker) : marker.text ≠ [] := by cases marker <;> decide

theorem text_ne_revision (marker : Marker) : marker.text ≠ ['r'] := by cases marker <;> decide

theorem isAlpha_text (marker : Marker) : ∀ c ∈ marker.text, c.isAlpha = true := by
  rw [← List.all_eq_true]
  cases marker <;> decide

end Marker

abbrev Digits := { digits : List Char // digits.all Char.isDigit = true }

namespace Digits

theorem isNumber_iff (digits : Digits) : isNumber digits.1 = true ↔ digits.1 ≠ [] := by
  simp [isNumber, digits.2]

def tokens (digits : Digits) : List (List Char) := if digits.1 = [] then [] else [digits.1]

end Digits

abbrev Suffix := Option (Marker × Digits)

namespace Suffix

def text : Suffix → List Char
  | none => []
  | some (marker, digits) => '_' :: marker.text ++ digits.1

def tokens : Suffix → List (List Char)
  | none => []
  | some (marker, digits) => marker.text :: digits.tokens

/-- The integer in the slot of the suffix. -/
def weight : Suffix → Int
  | none => 0
  | some (marker, digits) => marker.offset + read64 digits.1

theorem plain_text (suffix : Suffix) : ∀ c ∈ suffix.text, Plain c := by
  intro c mem
  rcases suffix with - | ⟨marker, digits⟩
  · cases mem
  · simp only [text, List.cons_append, List.mem_cons, List.mem_append] at mem
    rcases mem with rfl | mem | mem
    · decide
    · exact .inr (.inl (marker.isAlpha_text c mem))
    · exact .inl (List.all_eq_true.1 digits.2 c mem)

theorem not_revision (suffix : Suffix) : ['r'] ∉ suffix.tokens := by
  rcases suffix with - | ⟨marker, digits⟩
  · simp [tokens]
  · have := Marker.text_ne_revision marker
    have number : ['r'] ≠ digits.1 := by
      rintro same
      have := digits.2
      rw [← same] at this
      revert this
      decide
    rw [tokens, Digits.tokens]
    split
    · simp [this.symm]
    · simp [this.symm, number]

theorem tokens_text (suffix : Suffix) : Version.tokens suffix.text = suffix.tokens := by
  rcases suffix with - | ⟨marker, digits⟩
  · rfl
  · have marker_read {rest : List Char} (stop : nextKind rest ≠ some .letter) :
        Version.tokens (marker.text ++ rest) = marker.text :: Version.tokens rest :=
      tokens_letters marker.text_ne_nil marker.isAlpha_text stop
    rw [text, List.cons_append, tokens_separator rfl, tokens, Digits.tokens]
    by_cases empty : digits.1 = []
    · rw [if_pos empty, empty, marker_read (by decide)]
      rfl
    · have number := digits.isNumber_iff.2 empty
      have digitsFirst := nextKind_number number []
      have digitsRead : Version.tokens (digits.1 ++ []) = digits.1 :: Version.tokens [] :=
        tokens_number number (by decide)
      rw [List.append_nil] at digitsFirst digitsRead
      rw [if_neg empty, marker_read (by rw [digitsFirst]; decide), digitsRead]
      rfl

theorem mergeMarkers_tokens (marker : Marker) (digits : Digits) :
    mergeMarkers (tokens (some (marker, digits))) =
      [Slot.ofInt (weight (some (marker, digits)))] := by
  rw [tokens, Digits.tokens, weight]
  by_cases empty : digits.1 = []
  · have zero : read64 [] = 0 := by decide
    rw [if_pos empty, empty, zero, mergeMarkers_bare marker.markerOffset_text (by simp)]
    simp [mergeMarkers]
  · have number := digits.isNumber_iff.2 empty
    rw [if_neg empty, mergeMarkers_number marker.markerOffset_text number]
    rfl

end Suffix

/-! ### Versions of a release -/

/-- The most numbers that leave a slot for a suffix. -/
def maxRuns : Nat := revisionSlot - 1

namespace Release

def versionText (release : Release) (suffix : Suffix) (revision : Revision) : List Char :=
  release.text ++ (suffix.text ++ revision.text)

def version (release : Release) (suffix : Suffix) (revision : Revision) : Version :=
  parse (String.ofList (release.versionText suffix revision))

def suffixed (release : Release) (suffix : Suffix) : Stem where
  text := release.text ++ suffix.text
  plain := fun c mem =>
    (List.mem_append.1 mem).elim (release.plain_text c) (suffix.plain_text c)

theorem version_eq_suffixed (release : Release) (suffix : Suffix) (revision : Revision) :
    release.version suffix revision = (release.suffixed suffix).version revision := by
  rw [version, versionText, ← List.append_assoc]
  rfl

theorem tokens_suffixed (release : Release) (suffix : Suffix) :
    tokens (release.suffixed suffix).text = release.runs ++ suffix.tokens := by
  have stop : nextKind suffix.text ≠ some .digit := by
    rcases suffix with - | ⟨marker, digits⟩
    · decide
    · show some CharKind.separator ≠ some .digit
      decide
  show tokens (['.'].intercalate release.runs ++ suffix.text) = _
  rw [tokens_runs release.numbers stop, suffix.tokens_text]

theorem unrevised_suffixed (release : Release) (suffix : Suffix) (revision : Revision) :
    (release.suffixed suffix).Unrevised revision := by
  refine Stem.unrevised_of_not_mem ?_ revision
  rw [tokens_suffixed, List.mem_append, not_or]
  exact ⟨fun mem => absurd (release.numbers _ mem) (by decide), suffix.not_revision⟩

/-- Numbers and one slot after them, filled with zeros. -/
theorem fitBody_runs_concat {release : Release} (short : release.runs.length ≤ maxRuns)
    (slot : Slot) :
    fitBody (release.runs.map .number ++ [slot]) =
      release.runs.map .number ++
        slot :: List.replicate (maxRuns - release.runs.length) .zero := by
  have slotCount : revisionSlot = maxRuns + 1 := rfl
  have count : (release.runs.map Slot.number ++ [slot]).length = release.runs.length + 1 := by
    rw [List.length_append, List.length_map, List.length_singleton]
  have fits : (release.runs.map Slot.number ++ [slot]).length ≤ revisionSlot := by omega
  rw [fitBody_of_length_le fits, count, slotCount, Nat.add_sub_add_right, List.append_assoc]
  rfl

theorem slots_suffixed {release : Release} (short : release.runs.length ≤ maxRuns)
    (suffix : Suffix) :
    (release.suffixed suffix).slots =
      release.runs.map .number ++
        .ofInt suffix.weight :: List.replicate (maxRuns - release.runs.length) .zero := by
  rw [Stem.slots, tokens_suffixed, mergeMarkers_runs _ release.numbers]
  rcases suffix with - | ⟨marker, digits⟩
  · rw [Suffix.tokens, mergeMarkers, List.append_nil, ← fitBody_concat_zero]
    exact fitBody_runs_concat short .zero
  · rw [Suffix.mergeMarkers_tokens]
    exact fitBody_runs_concat short _

/-- Two versions of a release compare by the weights of their suffixes, then by revision. -/
theorem compare_version {release : Release} (short : release.runs.length ≤ maxRuns)
    (s t : Suffix) (r r' : Revision) :
    (release.version s r).compare (release.version t r') =
      (Ord.compare s.weight t.weight).then
        (Ord.compare (readNat r.digits) (readNat r'.digits)) := by
  rw [version_eq_suffixed, version_eq_suffixed,
    Stem.compare_of_slot (release.unrevised_suffixed s r) (release.unrevised_suffixed t r')
      (slots_suffixed short s) (slots_suffixed short t), compare_ofInt]

end Release

/-! ### The order of the markers -/

/-- Whether a release with the suffix `s` is below it with `t`, whatever the revisions. -/
def Release.Below (release : Release) (s t : Suffix) : Prop :=
  ∀ r r' : Revision, (release.version s r).compare (release.version t r') = .lt

theorem below_iff {release : Release} (short : release.runs.length ≤ maxRuns) (s t : Suffix) :
    release.Below s t ↔ s.weight < t.weight :=
  (Stem.below_iff (release.compare_version short s t)).trans Int.compare_eq_lt

theorem above_iff (release : Release) (s t : Suffix) :
    (∀ r r', (release.version s r).compare (release.version t r') = .gt) ↔ release.Below t s := by
  constructor
  · intro above r r'
    rw [compare_swap, above r' r]
    rfl
  · intro below r r'
    rw [compare_swap, below r' r]
    rfl

theorem read64_lt_iff {m n : List Char} (less : readNat m < readNat n) :
    read64 m < read64 n ↔ readNat n < wordBound := by
  unfold read64
  split <;> split <;> omega

theorem below_same_marker {release : Release} (short : release.runs.length ≤ maxRuns)
    (marker : Marker) {m n : Digits} (less : readNat m.1 < readNat n.1) :
    release.Below (some (marker, m)) (some (marker, n)) ↔ readNat n.1 < wordBound := by
  rw [below_iff short, Suffix.weight, Suffix.weight, ← read64_lt_iff less]
  omega

/-- Each step from a marker to the next one, and the order within a marker, hold for all revisions
exactly while the numbers stay within the step and within 64-bit words. -/
theorem suffix_order (release : Release) (short : release.runs.length ≤ 10)
    (n₁ n₂ n₃ n₄ n₅ : Digits) (patched : 1 ≤ readNat n₅.1) :
    (release.Below (some (.alpha, n₁)) (some (.beta, n₂)) ↔ read64 n₁.1 < read64 n₂.1 + 10000) ∧
    (release.Below (some (.beta, n₂)) (some (.pre, n₃)) ↔ read64 n₂.1 < read64 n₃.1 + 10000) ∧
    (release.Below (some (.pre, n₃)) (some (.rc, n₄)) ↔ read64 n₃.1 < read64 n₄.1 + 10000) ∧
    (release.Below (some (.rc, n₄)) none ↔ read64 n₄.1 < 10000) ∧
    (release.Below none (some (.patch, n₅)) ↔ readNat n₅.1 < wordBound) ∧
    ∀ (marker : Marker) (m n : Digits), readNat m.1 ≠ readNat n.1 →
      ((∀ r r' : Revision, (release.version (some (marker, m)) r).compare
          (release.version (some (marker, n)) r') = Ord.compare (readNat m.1) (readNat n.1)) ↔
        readNat m.1 < wordBound ∧ readNat n.1 < wordBound) := by
  have below := below_iff short
  refine ⟨?alpha, ?beta, ?pre, ?rc, ?patch, ?same⟩
  case alpha =>
    rw [below, Suffix.weight, Suffix.weight, Marker.offset, Marker.offset]
    omega
  case beta =>
    rw [below, Suffix.weight, Suffix.weight, Marker.offset, Marker.offset]
    omega
  case pre =>
    rw [below, Suffix.weight, Suffix.weight, Marker.offset, Marker.offset]
    omega
  case rc =>
    rw [below, Suffix.weight, Suffix.weight, Marker.offset]
    omega
  case patch =>
    have zero : read64 [] = 0 := by decide
    have positive : readNat [] < readNat n₅.1 := patched
    rw [below, Suffix.weight, Suffix.weight, Marker.offset, ← read64_lt_iff positive, zero]
    omega
  case same =>
    intro marker m n differ
    rcases Nat.lt_or_gt_of_ne differ with less | greater
    · rw [Nat.compare_eq_lt.2 less]
      refine (below_same_marker short marker less).trans ?_
      omega
    · rw [Nat.compare_eq_gt.2 greater, above_iff, below_same_marker short marker greater]
      omega

theorem suffix_order_of_date :
    ([['1']].length ≤ 10 ∧ 1 ≤ readNat ['2']) ∧
      Release.Below ⟨[['1']], by decide, by decide⟩ (some (.alpha, ⟨['2'], rfl⟩))
        (some (.beta, ⟨['2'], rfl⟩)) ∧
      ¬ Release.Below ⟨[['1']], by decide, by decide⟩
        (some (.rc, ⟨['2', '0', '2', '4', '0', '1', '0', '1'], rfl⟩)) none := by
  have short : [['1']].length ≤ 10 := by decide
  have patched : 1 ≤ readNat ['2'] := by decide
  obtain ⟨alpha, -, -, rc, -⟩ := suffix_order ⟨[['1']], by decide, by decide⟩ short ⟨['2'], rfl⟩
    ⟨['2'], rfl⟩ ⟨['2'], rfl⟩ ⟨['2', '0', '2', '4', '0', '1', '0', '1'], rfl⟩ ⟨['2'], rfl⟩ patched
  exact ⟨⟨short, patched⟩, alpha.2 (by decide), fun below => absurd (rc.1 below) (by decide)⟩

/-- A date after a marker is more than the step to the next one. -/
theorem dated_pre_above_release :
    (parse "1_pre20240101").compare (parse "1") = .gt ∧
      (parse "1_alpha10002").compare (parse "1_beta1") = .gt ∧
      (parse "1_p9223372036854775808").compare (parse "1_p1") = .lt := by
  decide +kernel

end Ebuild.Version
