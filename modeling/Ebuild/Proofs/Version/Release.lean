import Ebuild.Proofs.Text.Blank
import Ebuild.Proofs.Version.SlotOrder

/-!
# Releases and revisions

The texts of which a well-written version is made: a release is numbers with dots between them, a
revision ends the version. `slots_parse` reads the slots of a version off the tokens of its parts.
-/

namespace Ebuild.Version
open Text

/-! ### Slots that tie -/

theorem fitBody_of_length_le {slots : List Slot} (short : slots.length ≤ revisionSlot) :
    fitBody slots = slots ++ List.replicate (revisionSlot - slots.length) Slot.zero := by
  rw [fitBody, List.take_append, List.take_of_length_le short, List.take_replicate,
    Nat.min_eq_left (Nat.sub_le _ _)]

theorem fitBody_concat_zero (slots : List Slot) :
    fitBody (slots ++ [Slot.zero]) = fitBody slots := by
  have room : revisionSlot - slots.length ≤ revisionSlot := Nat.sub_le _ _
  rw [fitBody, fitBody, List.append_assoc, List.singleton_append, ← List.replicate_succ,
    List.take_append, List.take_append, List.take_replicate, List.take_replicate,
    Nat.min_eq_left room, Nat.min_eq_left (Nat.le_succ_of_le room)]

theorem compare_ofInt (x y : Int) : (Slot.ofInt x).compare (Slot.ofInt y) = Ord.compare x y := by
  cases x with
  | ofNat m =>
    cases y with
    | ofNat n =>
      rw [Slot.ofInt, Slot.ofInt, Slot.compare_number, readNat, readNat,
        Nat.ofDigitChars_ten_toDigits, Nat.ofDigitChars_ten_toDigits]
      exact (Slot.compare_natCast m n).symm
    | negSucc n =>
      rw [Slot.ofInt, Slot.ofInt, Slot.compare_number_below (Nat.succ_pos n)]
      exact (Int.compare_eq_gt.2 (by rw [Int.ofNat_eq_natCast]; omega)).symm
  | negSucc m =>
    cases y with
    | ofNat n =>
      rw [Slot.ofInt, Slot.ofInt, Slot.compare_swap, Slot.compare_number_below (Nat.succ_pos m)]
      exact (Int.compare_eq_lt.2 (by rw [Int.ofNat_eq_natCast]; omega)).symm
    | negSucc n =>
      have same : (Slot.below (m + 1)).band = (Slot.below (n + 1)).band := rfl
      rw [Slot.ofInt, Slot.ofInt, Slot.compare_of_band_eq same, Slot.compareKeys_def]
      exact Ordering.then_eq

/-! ### Parts of a version -/

structure Release where
  runs : List (List Char)
  nonempty : runs ≠ []
  numbers : ∀ run ∈ runs, isNumber run = true

def Release.text (release : Release) : List Char := ['.'].intercalate release.runs

theorem mem_runs {runs : List (List Char)} {c : Char} (mem : c ∈ ['.'].intercalate runs) :
    c = '.' ∨ ∃ run ∈ runs, c ∈ run := by
  induction runs with
  | nil => simp at mem
  | cons run runs ih =>
    cases runs with
    | nil => exact .inr ⟨run, by simp, by simpa using mem⟩
    | cons next runs =>
      rw [List.intercalate_cons_cons, List.mem_append, List.mem_append, List.mem_singleton] at mem
      rcases mem with (mem | dot) | mem
      · exact .inr ⟨run, by simp, mem⟩
      · exact .inl dot
      · rcases ih mem with dot | ⟨other, inRuns, mem⟩
        · exact .inl dot
        · exact .inr ⟨other, List.mem_cons_of_mem run inRuns, mem⟩

/-- The digits of a revision, if there is one. -/
abbrev Revision := Option { digits : List Char // isNumber digits = true }

namespace Revision

def text : Revision → List Char
  | none => []
  | some digits => '-' :: 'r' :: digits.1

/-- The digits that stand in the last slot. -/
def digits : Revision → List Char
  | none => ['0']
  | some digits => digits.1

def tokens : Revision → List (List Char)
  | none => []
  | some digits => [['r'], digits.1]

end Revision

def nextKind (rest : List Char) : Option CharKind := rest.head?.map CharKind.of

theorem nextKind_number {digits : List Char} (number : isNumber digits = true) (rest : List Char) :
    nextKind (digits ++ rest) = some .digit := by
  obtain ⟨c, cs, rfl, digit⟩ := Slot.exists_digit number
  exact congrArg some (kind_of_digit digit)

theorem tokens_revision (revision : Revision) : tokens revision.text = revision.tokens := by
  cases revision with
  | none => rfl
  | some digits =>
    have kind : nextKind (digits.1 ++ []) = some .digit := nextKind_number digits.2 []
    rw [Revision.text, tokens_separator rfl, ← List.append_nil digits.1]
    rw [show 'r' :: (digits.1 ++ []) = ['r'] ++ (digits.1 ++ []) from rfl,
      tokens_letters (by simp) (by simp) (by rw [← nextKind, kind]; simp),
      tokens_number digits.2 (by simp)]
    simp [Revision.tokens, tokens]

theorem tokens_runs {runs : List (List Char)} {rest : List Char}
    (numbers : ∀ run ∈ runs, isNumber run = true) (stop : nextKind rest ≠ some .digit) :
    tokens (['.'].intercalate runs ++ rest) = runs ++ tokens rest := by
  induction runs with
  | nil => rfl
  | cons run runs ih =>
    have number := numbers run (by simp)
    cases runs with
    | nil => simpa using tokens_number number stop
    | cons next runs =>
      have rest_read := ih fun run mem => numbers run (by simp [mem])
      rw [List.intercalate_cons_cons, List.append_assoc, List.append_assoc, List.singleton_append]
      have dot : nextKind ('.' :: (['.'].intercalate (next :: runs) ++ rest)) ≠ some .digit := by
        show some CharKind.separator ≠ some .digit
        decide
      rw [tokens_number number dot, tokens_separator rfl, rest_read]
      rfl

theorem markerOffset_number {run : List Char} (number : isNumber run = true) :
    markerOffset? run = none := by
  unfold markerOffset?
  repeat' split
  all_goals first
    | rfl
    | (subst run; exact absurd number (by decide))

theorem mergeMarkers_runs {runs : List (List Char)} (ts : List (List Char))
    (numbers : ∀ run ∈ runs, isNumber run = true) :
    mergeMarkers (runs ++ ts) = runs.map Slot.number ++ mergeMarkers ts := by
  induction runs with
  | nil => rfl
  | cons run runs ih =>
    have number := numbers run (by simp)
    rw [List.cons_append, mergeMarkers_plain (markerOffset_number number),
      ih fun run mem => numbers run (by simp [mem]), Slot.ofToken, if_pos number]
    rfl

/-! ### The slots of a version -/

/-- The slots of a text without white space and stars, by the tokens before its revision. -/
theorem slots_parse {text : List Char} {body : List (List Char)} (revision : Revision)
    (solid : ∀ c ∈ text, isBlank c = false) (starless : '*' ∉ text)
    (read : tokens text = body ++ revision.tokens)
    (cut : splitRevision (body ++ revision.tokens) = (body, revision.digits)) :
    (parse (String.ofList text)).slots =
      fitBody (mergeMarkers body) ++ [.number revision.digits] := by
  have raw : (parse (String.ofList text)).raw.toList = text := by
    rw [parse, trimmed_eq_self (trim_of_solid solid), String.toList_ofList]
  have list : (parse (String.ofList text)).tokenList = body ++ revision.tokens := by
    rw [tokenList, raw, read]
  rw [slots, Version.body, endsInStar_of_not_mem (by rwa [raw]), list, slotsOf,
    if_neg (by decide), cut]

end Ebuild.Version
