import Mathlib.Tactic.TFAE
import Ebuild.Proofs.Version.SlotOrder
import Ebuild.Version.Operator

/-!
# The order of versions

`Version.compare` goes through the slots of two versions and lets the first difference decide. It
is total and goes both ways. It is not transitive: where the first slots that differ stand in a
circle, so do the versions. `preorder_iff_not_circle` says that there is no other exception, and
that the bounds of `>=`, `>`, `<=` and `<` are closed in the order under the same condition.
-/

namespace Ebuild.Version

instance orientedSlot : Std.OrientedCmp Slot.compare := ⟨Slot.compare_swap _ _⟩

instance orientedSlots : Std.OrientedCmp compareSlots :=
  inferInstanceAs (Std.OrientedCmp (List.compareLex Slot.compare))

theorem compare_swap (a b : Version) : a.compare b = (b.compare a).swap :=
  orientedSlots.eq_swap

/-- After slots that tie come three that stand in a circle. -/
inductive Circle : List Slot → List Slot → List Slot → Prop
  | here {a b c : Slot} {as bs cs : List Slot} (circle : Slot.Circle a b c) :
    Circle (a :: as) (b :: bs) (c :: cs)
  | later {a b c : Slot} {as bs cs : List Slot} (ab : a.compare b = .eq) (bc : b.compare c = .eq)
    (rest : Circle as bs cs) : Circle (a :: as) (b :: bs) (c :: cs)

section
variable {as bs cs : List Slot} (ha : ∀ slot ∈ as, slot.WellFormed)
  (hb : ∀ slot ∈ bs, slot.WellFormed) (hc : ∀ slot ∈ cs, slot.WellFormed)
include ha hb hc

theorem compareSlots_of_circle (circle : Circle as bs cs) :
    compareSlots as bs = .lt ∧ compareSlots bs cs = .lt ∧ compareSlots as cs = .gt := by
  induction circle with
  | here circle =>
    obtain ⟨ab, bc, ac⟩ := Slot.compare_of_circle (ha _ (by simp)) (hb _ (by simp))
      (hc _ (by simp)) circle
    simp only [compareSlots_cons, ab, bc, ac]
    exact ⟨rfl, rfl, rfl⟩
  | @later a b c _ _ _ ab bc rest ih =>
    have ac := Slot.compare_congr_left c (ha a (by simp)) (hb b (by simp)) (hc c (by simp)) ab
    rw [bc] at ac
    simp only [compareSlots_cons, ab, bc, ac]
    exact ih (fun slot mem => ha slot (by simp [mem])) (fun slot mem => hb slot (by simp [mem]))
      fun slot mem => hc slot (by simp [mem])

/-- Lists of slots are compared as in a preorder unless they stand in a circle. -/
theorem chained_compareSlots (straight : ¬ Circle as bs cs) :
    Chained (compareSlots as bs) (compareSlots bs cs) (compareSlots as cs) := by
  induction as generalizing bs cs with
  | nil =>
    cases bs <;> cases cs <;>
      simp [Chained, compareSlots, List.compareLex_nil_nil, List.compareLex_nil_cons,
        List.compareLex_cons_nil]
  | cons a as ih =>
    cases bs with
    | nil => exact fun le => absurd rfl le
    | cons b bs =>
      cases cs with
      | nil => exact fun _ le => absurd rfl le
      | cons c cs =>
        have wa := ha a (by simp)
        have wb := hb b (by simp)
        have wc := hc c (by simp)
        have head := Slot.chained wa wb wc fun circle => straight (.here circle)
        simp only [compareSlots_cons]
        cases ab : a.compare b with
        | gt => exact fun le => absurd rfl le
        | lt =>
          intro _ bc_le
          have ac := (head (by simp [ab]) (by intro gt; simp [gt] at bc_le)).2 (.inl ab)
          simp [ac]
        | eq =>
          rw [Slot.compare_congr_left c wa wb wc ab]
          cases bc : b.compare c with
          | gt => exact fun _ le => absurd rfl le
          | lt => exact fun _ _ => ⟨by simp, fun _ => rfl⟩
          | eq =>
            exact ih (fun slot mem => ha slot (by simp [mem]))
              (fun slot mem => hb slot (by simp [mem])) (fun slot mem => hc slot (by simp [mem]))
              fun rest => straight (.later ab bc rest)

end

/-! ### Versions -/

theorem chained_compare {a b c : Version} (straight : ¬ Circle a.slots b.slots c.slots) :
    Chained (a.compare b) (b.compare c) (a.compare c) :=
  chained_compareSlots (wellFormed_slots a) (wellFormed_slots b) (wellFormed_slots c) straight

theorem compare_of_circle {a b c : Version} (circle : Circle a.slots b.slots c.slots) :
    a.compare b = .lt ∧ b.compare c = .lt ∧ a.compare c = .gt :=
  compareSlots_of_circle (wellFormed_slots a) (wellFormed_slots b) (wellFormed_slots c) circle

theorem compare_self (a : Version) : a.compare a = .eq := by
  have swap := compare_swap a a
  cases order : a.compare a with
  | eq => rfl
  | lt => simp [order] at swap
  | gt => simp [order] at swap

/-- A statement that holds of three versions in a preorder and fails of three in a circle. -/
theorem straight_iff {a b c : Version} {p : Prop}
    (holds : Chained (a.compare b) (b.compare c) (a.compare c) → p)
    (fails : a.compare b = .lt → b.compare c = .lt → a.compare c = .gt → ¬ p) :
    ¬ Circle a.slots b.slots c.slots ↔ p := by
  constructor
  · exact fun straight => holds (chained_compare straight)
  · intro h circle
    obtain ⟨ab, bc, ac⟩ := compare_of_circle circle
    exact fails ab bc ac h

/-- Versions are compared as in a total preorder, and bounds are closed in it, exactly where no
three of them stand in a circle. -/
theorem preorder_iff_not_circle (a b c : Version) :
    a.compare a = .eq ∧ (a.compare b ≠ .gt ∨ b.compare a ≠ .gt) ∧
    [¬ Circle a.slots b.slots c.slots,
      a.compare b ≠ .gt → b.compare c ≠ .gt →
        a.compare c ≠ .gt ∧ (a.compare b = .lt ∨ b.compare c = .lt → a.compare c = .lt),
      a.accepts .greaterEqual b = true → b.compare c ≠ .gt → a.accepts .greaterEqual c = true,
      a.accepts .greater b = true → b.compare c ≠ .gt → a.accepts .greater c = true,
      c.accepts .lessEqual b = true → a.compare b ≠ .gt → c.accepts .lessEqual a = true,
      c.accepts .less b = true → a.compare b ≠ .gt → c.accepts .less a = true].TFAE := by
  refine ⟨compare_self a, ?_, ?_⟩
  · rw [compare_swap b a]
    cases a.compare b <;> decide
  simp only [accepts, compare_swap b a, compare_swap c a]
  tfae_have 1 ↔ 2 := straight_iff id fun ab bc ac h => by simp [ab, bc, ac] at h
  tfae_have 1 ↔ 3 := by
    refine straight_iff (fun chained ab bc => ?_) fun ab bc ac h => by simp [ab, bc, ac] at h
    have le := (chained (by intro gt; simp [gt] at ab) bc).1
    cases ac : a.compare c <;> simp_all
  tfae_have 1 ↔ 4 := by
    refine straight_iff (fun chained ab bc => ?_) fun ab bc ac h => by simp [ab, bc, ac] at h
    have lt : a.compare b = .lt := by cases order : a.compare b <;> simp_all
    simp [(chained (by simp [lt]) bc).2 (.inl lt)]
  tfae_have 1 ↔ 5 := by
    refine straight_iff (fun chained bc ab => ?_) fun ab bc ac h => by simp [ab, bc, ac] at h
    have le := (chained ab (by simpa using bc)).1
    simpa using le
  tfae_have 1 ↔ 6 := by
    refine straight_iff (fun chained bc ab => ?_) fun ab bc ac h => by simp [ab, bc, ac] at h
    have lt : b.compare c = .lt := by simpa using bc
    simp [(chained ab (by simp [lt])).2 (.inr lt)]
  tfae_finish

/-- Letters, a small number and a number of 64 bits go round. -/
theorem compare_turns_round :
    (parse "a").compare (parse "5") = .lt ∧
      (parse "5").compare (parse "9223372036854775808") = .lt ∧
      (parse "a").compare (parse "9223372036854775808") = .gt := by
  decide +kernel

theorem exists_overlong_of_circle {as bs cs : List Slot} (circle : Circle as bs cs) :
    ∃ slot ∈ as ++ bs ++ cs, slot.band = .overlong := by
  induction circle with
  | @here a b c _ _ _ circle =>
    rcases Slot.Band.exists_overlong_of_circle circle with band | band | band
    · exact ⟨a, by simp, band⟩
    · exact ⟨b, by simp, band⟩
    · exact ⟨c, by simp, band⟩
  | later _ _ _ ih =>
    obtain ⟨slot, mem, band⟩ := ih
    simp only [List.mem_append] at mem
    rcases mem with (mem | mem) | mem <;> exact ⟨slot, by simp [mem], band⟩

/-- Versions without numbers past the 64-bit words are in a preorder. -/
theorem chained_of_fitting {a b c : Version}
    (fits : ∀ slot ∈ a.slots ++ b.slots ++ c.slots, slot.band ≠ .overlong) :
    Chained (a.compare b) (b.compare c) (a.compare c) := by
  refine chained_compare fun circle => ?_
  obtain ⟨slot, mem, band⟩ := exists_overlong_of_circle circle
  exact fits slot mem band

end Ebuild.Version
