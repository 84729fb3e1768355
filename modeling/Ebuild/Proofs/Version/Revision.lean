import Ebuild.Proofs.Version.Boundary
import Ebuild.Proofs.Version.Operator

/-!
# Revisions after any text

A text of digits, letters and separators with a revision at its end. However many tokens the text
has, and whatever it ends in, the revision goes to the last slot and leaves the others to the text.
So `revision_decides_last` says that revisions decide between two versions after all else.
-/

namespace Ebuild.Version
open Text

def Plain (c : Char) : Prop :=
  c.isDigit = true ∨ c.isAlpha = true ∨ c = '.' ∨ c = '_' ∨ c = '+' ∨ c = '-'

instance decidablePlain : DecidablePred Plain := fun c =>
  inferInstanceAs (Decidable
    (c.isDigit = true ∨ c.isAlpha = true ∨ c = '.' ∨ c = '_' ∨ c = '+' ∨ c = '-'))

namespace Plain

theorem bounds {c : Char} (plain : Plain c) : 43 ≤ c.toNat ∧ c.toNat ≤ 122 := by
  rcases plain with digit | alpha | rfl | rfl | rfl | rfl
  · have := isDigit_iff.1 digit
    omega
  · have := isAlpha_iff.1 alpha
    omega
  all_goals decide

theorem not_blank {c : Char} (plain : Plain c) : isBlank c = false := by
  have := plain.bounds
  exact isBlank_of_ascii (by omega) (by omega)

theorem ne_star {c : Char} (plain : Plain c) : c ≠ '*' := by
  rintro rfl
  exact absurd plain.bounds (by decide)

theorem known {c : Char} (plain : Plain c) : CharKind.of c ≠ .other := by
  rcases plain with digit | alpha | rfl | rfl | rfl | rfl
  · rw [kind_of_digit digit]
    decide
  · rw [kind_of_alpha alpha]
    decide
  all_goals decide

end Plain

theorem plain_of_all {cs : List Char} (all : (cs.all fun c => decide (Plain c)) = true) :
    ∀ c ∈ cs, Plain c :=
  fun c mem => of_decide_eq_true (List.all_eq_true.1 all c mem)

/-- A version text without stars, before its revision. -/
structure Stem where
  text : List Char
  plain : ∀ c ∈ text, Plain c

theorem plain_of_isNumber {digits : List Char} (number : isNumber digits = true) :
    ∀ c ∈ digits, Plain c := by
  rw [isNumber, Bool.and_eq_true, List.all_eq_true] at number
  exact fun c mem => .inl (number.2 c mem)

theorem Revision.plain_text (revision : Revision) : ∀ c ∈ revision.text, Plain c := by
  intro c mem
  rcases revision with - | digits
  · cases mem
  · simp only [text, List.mem_cons] at mem
    rcases mem with rfl | rfl | mem
    · decide
    · decide
    · exact plain_of_isNumber digits.2 c mem

theorem Release.plain_text (release : Release) : ∀ c ∈ release.text, Plain c := by
  intro c mem
  rcases mem_runs mem with rfl | ⟨run, inRuns, mem⟩
  · decide
  · exact plain_of_isNumber (release.numbers run inRuns) c mem

def Release.stem (release : Release) : Stem := ⟨release.text, release.plain_text⟩

abbrev RevisionDigits := { digits : List Char // isNumber digits = true }

/-- Whether the last two tokens read as a revision. -/
def EndsInRevision (ts : List (List Char)) : Prop :=
  ∃ front digits, isNumber digits = true ∧ ts = front ++ [['r'], digits]

theorem EndsInRevision.spec {ts : List (List Char)} (revised : EndsInRevision ts) :
    ['r'] ∈ ts ∧ ∃ digits, ts.getLast? = some digits ∧ isNumber digits = true := by
  obtain ⟨front, digits, number, rfl⟩ := revised
  refine ⟨by simp, digits, ?_, number⟩
  rw [List.getLast?_append]
  rfl

namespace Stem

def version (x : Stem) (revision : Revision) : Version :=
  parse (String.ofList (x.text ++ revision.text))

/-- The slots before the revision. -/
def slots (x : Stem) : List Slot := fitBody (mergeMarkers (tokens x.text))

/-- There is a revision, or the text does not read as one at its end. -/
def Unrevised (x : Stem) (revision : Revision) : Prop :=
  revision = none → ¬ EndsInRevision (tokens x.text)

theorem unrevised_some (x : Stem) (digits : RevisionDigits) : x.Unrevised (some digits) :=
  fun none => absurd none (Option.some_ne_none digits)

theorem unrevised_of_not_mem {x : Stem} (plain : ['r'] ∉ tokens x.text) (revision : Revision) :
    x.Unrevised revision :=
  fun _ revised => plain revised.spec.1

theorem plain_append (x : Stem) (revision : Revision) :
    ∀ c ∈ x.text ++ revision.text, Plain c := by
  intro c mem
  rcases List.mem_append.1 mem with mem | mem
  · exact x.plain c mem
  · exact revision.plain_text c mem

theorem tokens_append (x : Stem) (revision : Revision) :
    tokens (x.text ++ revision.text) = tokens x.text ++ revision.tokens := by
  have apart : ¬ Joined x.text revision.text := by
    refine not_joined fun d head => ?_
    cases revision with
    | none => cases head
    | some digits =>
      cases head
      decide
  rw [Version.tokens_append (fun c mem => (x.plain c mem).known) apart, tokens_revision]

theorem raw_version (x : Stem) (revision : Revision) :
    (x.version revision).raw.toList = x.text ++ revision.text := by
  have solid : trim (x.text ++ revision.text) = x.text ++ revision.text :=
    trim_of_solid fun c mem => (x.plain_append revision c mem).not_blank
  rw [version, parse, trimmed_eq_self solid, String.toList_ofList]

theorem tokenList_version (x : Stem) (revision : Revision) :
    (x.version revision).tokenList = tokens x.text ++ revision.tokens := by
  rw [tokenList, raw_version, tokens_append]

theorem splitRevision_version {x : Stem} {revision : Revision}
    (unrevised : x.Unrevised revision) :
    splitRevision (tokens x.text ++ revision.tokens) = (tokens x.text, revision.digits) := by
  cases revision with
  | some digits => exact splitRevision_append digits.2
  | none =>
    -- without a revision of its own the text is cut only where it reads as one
    rw [Revision.tokens, List.append_nil]
    rcases splitRevision_spec (tokens x.text) with split | ⟨front, digits, number, read, -⟩
    · exact split
    · exact absurd ⟨front, digits, number, read⟩ (unrevised rfl)

theorem slots_version {x : Stem} {revision : Revision} (unrevised : x.Unrevised revision) :
    (x.version revision).slots = x.slots ++ [.number revision.digits] :=
  slots_parse revision (fun c mem => (x.plain_append revision c mem).not_blank)
    (fun mem => (x.plain_append revision _ mem).ne_star rfl) (x.tokens_append revision)
    (splitRevision_version unrevised)

theorem length_slots (x : Stem) : x.slots.length = revisionSlot := length_fitBody _

section
variable {x y : Stem} {r r' : Revision} (unrevisedX : x.Unrevised r) (unrevisedY : y.Unrevised r')
include unrevisedX unrevisedY

/-- Two versions compare by their slots before the revision, then by revision. -/
theorem compare_version :
    (x.version r).compare (y.version r') =
      (compareSlots x.slots y.slots).then
        (Ord.compare (readNat r.digits) (readNat r'.digits)) := by
  have aligned : x.slots.length = y.slots.length := x.length_slots.trans y.length_slots.symm
  rw [Version.compare, slots_version unrevisedX, slots_version unrevisedY,
    compareSlots_append _ _ aligned, compareSlots_cons]
  exact congrArg _ Ordering.then_eq

theorem compareRelease_version :
    (x.version r).compareRelease (y.version r') = compareSlots x.slots y.slots := by
  rw [compareRelease, slots_version unrevisedX, slots_version unrevisedY,
    List.take_left' x.length_slots, List.take_left' y.length_slots]

/-- Where the slots differ in one place, this place decides before the revision. -/
theorem compare_of_slot {front back : List Slot} {s t : Slot}
    (slotsX : x.slots = front ++ s :: back) (slotsY : y.slots = front ++ t :: back) :
    (x.version r).compare (y.version r') =
      (s.compare t).then (Ord.compare (readNat r.digits) (readNat r'.digits)) := by
  rw [compare_version unrevisedX unrevisedY, slotsX, slotsY, compareSlots_append_left,
    compareSlots_cons, compareSlots_self, Ordering.then_eq]

end

theorem below_iff {f : Revision → Revision → Ordering} {order : Ordering}
    (decides : ∀ r r', f r r' =
      order.then (Ord.compare (readNat (Revision.digits r)) (readNat (Revision.digits r')))) :
    (∀ r r', f r r' = .lt) ↔ order = .lt := by
  constructor
  · intro below
    have tie := below none none
    rwa [decides, Nat.compare_eq_eq.2 rfl, Ordering.then_eq] at tie
  · rintro rfl r r'
    rw [decides]
    rfl

end Stem

def zeroDigits : RevisionDigits := ⟨['0'], rfl⟩

/-- Two revisions of a text are told apart by their numbers alone, texts that differ before the
revision are never told apart by it, and a text without a revision has the slots of revision
zero. -/
theorem revision_decides_last (x y : Stem) (m n : RevisionDigits) :
    ((x.version (some m)).accepts .approximate (x.version (some n)) = true ∧
      (x.version (some m)).compare (x.version (some n)) =
        Ord.compare (readNat m.1) (readNat n.1)) ∧
    ((x.version (some zeroDigits)).accepts .approximate (y.version (some zeroDigits)) = false →
      (x.version (some m)).compare (y.version (some n)) =
        (x.version (some zeroDigits)).compare (y.version (some zeroDigits))) ∧
    (¬ EndsInRevision (x.version none).tokenList →
      (x.version none).slots = (x.version (some zeroDigits)).slots) := by
  have compares (v w : Stem) (k l : RevisionDigits) :=
    Stem.compare_version (v.unrevised_some k) (w.unrevised_some l)
  have releases (v w : Stem) (k l : RevisionDigits) :=
    Stem.compareRelease_version (v.unrevised_some k) (w.unrevised_some l)
  refine ⟨⟨?_, ?_⟩, ?_, ?_⟩
  · rw [accepts, releases, compareSlots_self]
    rfl
  · rw [compares, compareSlots_self]
    rfl
  · intro differ
    rw [accepts, releases, beq_eq_false_iff_ne] at differ
    rw [compares, compares]
    cases order : compareSlots x.slots y.slots with
    | eq => exact absurd order differ
    | lt => rfl
    | gt => rfl
  · intro unrevised
    rw [x.tokenList_version, Revision.tokens, List.append_nil] at unrevised
    rw [Stem.slots_version fun _ => unrevised, Stem.slots_version (x.unrevised_some zeroDigits)]
    rfl

/-- Thirteen numbers, an `r` without a number and a marker without one. -/
theorem revision_decides_last_after_many :
    let x : Stem := ⟨"1.2.3.4.5.6.7.8.9.10.11.12.13-r".toList, plain_of_all rfl⟩
    let y : Stem := ⟨"1.2.3_alpha".toList, plain_of_all rfl⟩
    let m : RevisionDigits := ⟨"99999999999999999999".toList, by decide⟩
    let n : RevisionDigits := ⟨['1'], by decide⟩
    ((x.version (some zeroDigits)).accepts .approximate (y.version (some zeroDigits)) = false ∧
      ¬ EndsInRevision (x.version none).tokenList) ∧
    (x.version (some n)).compare (x.version (some m)) = .lt ∧
    (x.version (some n)).compare (y.version (some m)) = .gt ∧
    (x.version none).slots = (x.version (some zeroDigits)).slots := by
  intro x y m n
  have differ : (x.version (some zeroDigits)).accepts .approximate
      (y.version (some zeroDigits)) = false := by
    decide +kernel
  have unrevised : ¬ EndsInRevision (x.version none).tokenList := by
    intro revised
    obtain ⟨-, digits, last, number⟩ := revised.spec
    have marker : (x.version none).tokenList.getLast? = some ['r'] := by decide +kernel
    rw [marker, Option.some.injEq] at last
    rw [← last] at number
    exact absurd number (by decide)
  obtain ⟨⟨-, order⟩, decides, slots⟩ := revision_decides_last x y n m
  have between : (x.version (some zeroDigits)).compare (y.version (some zeroDigits)) = .gt := by
    decide +kernel
  refine ⟨⟨differ, unrevised⟩, ?_, (decides differ).trans between, slots unrevised⟩
  rw [order]
  decide

end Ebuild.Version
