import Ebuild.Proofs.Text.Digits
import Ebuild.Proofs.Version.Revision

/-!
# Versions of numbers only

A release of numbers compares as the list of its numbers does, filled with zeros, and then by
revision. `compare_lexicographic` says so for numbers of any length, and says how the digits alone
decide.
-/

namespace Ebuild.Version
open Text

namespace Release

/-- The numbers, filled with zeros up to the slot of the revision. -/
def padded (release : Release) : List (List Char) :=
  release.runs ++ List.replicate (revisionSlot - release.runs.length) ['0']

def values (release : Release) : List Nat := release.padded.map readNat

theorem numbers_padded (release : Release) : ∀ run ∈ release.padded, isNumber run = true := by
  intro run mem
  rcases List.mem_append.1 mem with mem | mem
  · exact release.numbers run mem
  · rw [(List.mem_replicate.1 mem).2]
    rfl

theorem tokens_text (release : Release) : tokens release.text = release.runs := by
  have read : tokens (release.text ++ []) = release.runs ++ tokens [] :=
    tokens_runs release.numbers (by decide)
  rwa [List.append_nil, tokens, List.append_nil] at read

theorem unrevised_stem (release : Release) (revision : Revision) :
    release.stem.Unrevised revision := by
  refine Stem.unrevised_of_not_mem ?_ revision
  rw [stem, tokens_text]
  exact fun marker => absurd (release.numbers ['r'] marker) (by decide)

theorem slots_stem {release : Release} (short : release.runs.length ≤ revisionSlot) :
    release.stem.slots = release.padded.map .number := by
  have merged := mergeMarkers_runs [] release.numbers
  rw [mergeMarkers, List.append_nil, List.append_nil] at merged
  have fits : (release.runs.map Slot.number).length ≤ revisionSlot := by rwa [List.length_map]
  rw [Stem.slots, stem, tokens_text, merged, fitBody_of_length_le fits, padded, List.map_append,
    List.map_replicate, List.length_map]
  rfl

end Release

theorem compareSlots_numbers (as bs : List (List Char)) :
    compareSlots (as.map .number) (bs.map .number) =
      List.compareLex Ord.compare (as.map readNat) (bs.map readNat) := by
  induction as generalizing bs with
  | nil => cases bs <;> rfl
  | cons a as ih =>
    cases bs with
    | nil => rfl
    | cons b bs =>
      rw [List.map_cons, List.map_cons, compareSlots_cons, ih, List.map_cons, List.map_cons,
        List.compareLex_cons_cons]
      rfl

theorem compareDigits_of_numbers {a b : List Char} (numberA : isNumber a = true)
    (numberB : isNumber b = true) : compareDigits a b = Ord.compare (readNat a) (readNat b) := by
  rw [isNumber, Bool.and_eq_true] at numberA numberB
  exact (compare_readNat numberA.2 numberB.2).symm

theorem compareLex_digits {as bs : List (List Char)} (numbersA : ∀ run ∈ as, isNumber run = true)
    (numbersB : ∀ run ∈ bs, isNumber run = true) :
    List.compareLex compareDigits as bs =
      List.compareLex Ord.compare (as.map readNat) (bs.map readNat) := by
  induction as generalizing bs with
  | nil => cases bs <;> rfl
  | cons a as ih =>
    cases bs with
    | nil => rfl
    | cons b bs =>
      rw [List.forall_mem_cons] at numbersA numbersB
      rw [List.map_cons, List.map_cons, List.compareLex_cons_cons, List.compareLex_cons_cons,
        compareDigits_of_numbers numbersA.1 numbersB.1, ih numbersA.2 numbersB.2]

theorem Revision.number_digits (revision : Revision) : isNumber revision.digits = true := by
  cases revision with
  | none => rfl
  | some digits => exact digits.2

/-- Releases of at most eleven numbers compare as lists of natural numbers, then by revision. The
digits decide it without the numbers: leading zeros aside, by length and then from left to right. -/
theorem compare_lexicographic (p q : Release) (shortP : p.runs.length ≤ 11)
    (shortQ : q.runs.length ≤ 11) (r r' : Revision) :
    (p.stem.version r).compare (q.stem.version r') =
      (List.compareLex Ord.compare p.values q.values).then
        (Ord.compare (readNat r.digits) (readNat r'.digits)) ∧
    (p.stem.version r).compare (q.stem.version r') =
      (List.compareLex compareDigits p.padded q.padded).then
        (compareDigits r.digits r'.digits) := by
  have values : (p.stem.version r).compare (q.stem.version r') =
      (List.compareLex Ord.compare p.values q.values).then
        (Ord.compare (readNat r.digits) (readNat r'.digits)) := by
    rw [Stem.compare_version (p.unrevised_stem r) (q.unrevised_stem r'),
      Release.slots_stem shortP, Release.slots_stem shortQ, compareSlots_numbers]
    rfl
  refine ⟨values, ?_⟩
  rw [values, compareDigits_of_numbers r.number_digits r'.number_digits,
    compareLex_digits p.numbers_padded q.numbers_padded]
  rfl

/-- Zeros in front, numbers past the 64-bit words and eleven numbers against two. -/
theorem compare_lexicographic_of_long_runs :
    let p : Release := ⟨[['0', '0', '7'], "99999999999999999999".toList], by decide, by decide⟩
    let q : Release := ⟨[['7'], "100000000000000000000".toList], by decide, by decide⟩
    let e : Release := ⟨List.replicate 10 ['0'] ++ [['1']], by decide, by decide⟩
    let z : Release := ⟨[['0', '0'], ['0']], by decide, by decide⟩
    (p.runs.length ≤ 11 ∧ e.runs.length ≤ 11) ∧
      (p.stem.version (some ⟨['9'], rfl⟩)).compare (q.stem.version none) = .lt ∧
      (e.stem.version none).compare (z.stem.version (some ⟨['9'], rfl⟩)) = .gt ∧
      (z.stem.version none).compare (z.stem.version (some ⟨['0', '0'], rfl⟩)) = .eq := by
  intro p q e z
  have shortP : p.runs.length ≤ 11 := by decide
  have shortQ : q.runs.length ≤ 11 := by decide
  have shortE : e.runs.length ≤ 11 := by decide
  have shortZ : z.runs.length ≤ 11 := by decide
  refine ⟨⟨shortP, shortE⟩, ?_, ?_, ?_⟩
  · rw [(compare_lexicographic p q shortP shortQ _ _).2]
    decide +kernel
  · rw [(compare_lexicographic e z shortE shortZ _ _).1]
    decide +kernel
  · rw [(compare_lexicographic z z shortZ shortZ _ _).1]
    decide +kernel

end Ebuild.Version
