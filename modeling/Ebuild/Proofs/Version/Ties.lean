import Ebuild.Proofs.Version.Operator

/-!
# Versions that tie

Versions tie when they compare equal, which they may do with different texts: numbers tie by their
size, however long and with however many zeros in front. `compare_eq_eq_iff` says that slots with
the same keys are all there is to a tie, and `ties_interchangeable` that no comparison and no
operator tells tied versions apart.
-/

namespace Ebuild.Version
open Text

/-! ### Slots -/

namespace Slot

/-- Slots of one key are the same or two numbers of one size. -/
theorem key_eq_iff {a b : Slot} (ha : a.WellFormed) (hb : b.WellFormed) :
    a.key = b.key ↔
      a = b ∨ ∃ m n, a = number m ∧ b = number n ∧ readNat m = readNat n := by
  constructor
  · intro same
    have size : a.key.1 = b.key.1 := congrArg Prod.fst same
    have text : a.key.2 = b.key.2 := congrArg Prod.snd same
    cases ha with
    | @number m _ =>
      cases hb with
      | @number n _ => exact .inr ⟨m, n, rfl, rfl, Int.ofNat.inj size⟩
      | star => cases text
      | letters nonempty => exact absurd text.symm nonempty
      | below positive =>
        simp only [key] at size
        omega
    | star =>
      cases hb with
      | number => cases text
      | star => exact .inl rfl
      | letters => exact .inl (congrArg word text)
      | below => cases text
    | letters nonempty =>
      cases hb with
      | number => exact absurd text nonempty
      | star => exact .inl (congrArg word text)
      | letters => exact .inl (congrArg word text)
      | below => exact absurd text nonempty
    | below positive =>
      cases hb with
      | number =>
        simp only [key] at size
        omega
      | star => cases text
      | letters nonempty => exact absurd text.symm nonempty
      | below => exact .inl (congrArg below (Int.ofNat.inj (Int.neg_inj.1 size)))
  · rintro (rfl | ⟨m, n, rfl, rfl, size⟩)
    · rfl
    · rw [key, key, size]

theorem compare_eq_eq_iff {a b : Slot} (ha : a.WellFormed) (hb : b.WellFormed) :
    a.compare b = .eq ↔ a.key = b.key := by
  constructor
  · intro tie
    rw [compare_of_band_eq (band_eq_of_compare ha hb tie), compareKeys_def,
      Ordering.then_eq_eq] at tie
    exact Prod.ext (Int.compare_eq_eq.1 tie.1) (Std.LawfulEqCmp.eq_of_compare tie.2)
  · intro same
    rcases (key_eq_iff ha hb).1 same with rfl | ⟨m, n, rfl, rfl, size⟩
    · exact compare_self a
    · rw [compare_number, size]
      exact Nat.compare_eq_eq.2 rfl

end Slot

/-! ### Lists of slots -/

section
variable {as bs cs ds : List Slot} (ha : ∀ slot ∈ as, slot.WellFormed)
  (hb : ∀ slot ∈ bs, slot.WellFormed)
include ha hb

theorem compareSlots_eq_eq_iff :
    compareSlots as bs = .eq ↔ as.map Slot.key = bs.map Slot.key := by
  induction as generalizing bs with
  | nil => cases bs <;> simp [compareSlots, List.compareLex_nil_nil, List.compareLex_nil_cons]
  | cons a as ih =>
    cases bs with
    | nil => simp [compareSlots, List.compareLex_cons_nil]
    | cons b bs =>
      rw [List.forall_mem_cons] at ha hb
      rw [compareSlots_cons, Ordering.then_eq_eq, Slot.compare_eq_eq_iff ha.1 hb.1, ih ha.2 hb.2,
        List.map_cons, List.map_cons, List.cons.injEq]

theorem compareSlots_congr_left (hc : ∀ slot ∈ cs, slot.WellFormed)
    (tie : compareSlots as bs = .eq) : compareSlots as cs = compareSlots bs cs := by
  induction as generalizing bs cs with
  | nil =>
    cases bs with
    | nil => rfl
    | cons b bs => simp [compareSlots, List.compareLex_nil_cons] at tie
  | cons a as ih =>
    cases bs with
    | nil => simp [compareSlots, List.compareLex_cons_nil] at tie
    | cons b bs =>
      cases cs with
      | nil => simp [compareSlots, List.compareLex_cons_nil]
      | cons c cs =>
        rw [List.forall_mem_cons] at ha hb hc
        rw [compareSlots_cons, Ordering.then_eq_eq] at tie
        rw [compareSlots_cons, compareSlots_cons,
          Slot.compare_congr_left c ha.1 hb.1 hc.1 tie.1, ih ha.2 hb.2 hc.2 tie.2]

theorem compareSlots_congr (hc : ∀ slot ∈ cs, slot.WellFormed)
    (hd : ∀ slot ∈ ds, slot.WellFormed) (ab : compareSlots as bs = .eq)
    (cd : compareSlots cs ds = .eq) : compareSlots as cs = compareSlots bs ds :=
  calc compareSlots as cs
    _ = compareSlots bs cs := compareSlots_congr_left ha hb hc ab
    _ = (compareSlots cs bs).swap := orientedSlots.eq_swap
    _ = (compareSlots ds bs).swap := by rw [compareSlots_congr_left hc hd hb cd]
    _ = compareSlots bs ds := orientedSlots.eq_swap.symm

end

/-! ### Versions -/

/-- Versions tie exactly if their slots have the same keys. -/
theorem compare_eq_eq_iff (a b : Version) :
    a.compare b = .eq ↔ a.slots.map Slot.key = b.slots.map Slot.key :=
  compareSlots_eq_eq_iff (wellFormed_slots a) (wellFormed_slots b)

theorem equivalence_tie : Equivalence fun a b : Version => a.compare b = .eq where
  refl := compare_self
  symm tie := by
    rw [compare_eq_eq_iff] at tie ⊢
    exact tie.symm
  trans ab bc := by
    rw [compare_eq_eq_iff] at ab bc ⊢
    exact ab.trans bc

section
variable {a b c d : Version} (ab : a.compare b = .eq) (cd : c.compare d = .eq)
include ab cd

theorem compare_congr : a.compare c = b.compare d :=
  compareSlots_congr (wellFormed_slots a) (wellFormed_slots b) (wellFormed_slots c)
    (wellFormed_slots d) ab cd

theorem compareRelease_congr : a.compareRelease c = b.compareRelease d := by
  have release (v : Version) : ∀ slot ∈ v.slots.take revisionSlot, slot.WellFormed :=
    fun slot mem => wellFormed_slots v slot (List.mem_of_mem_take mem)
  exact compareSlots_congr (release a) (release b) (release c) (release d)
    (compareRelease_of_compare ab) (compareRelease_of_compare cd)

theorem accepts_congr (op : Operator)
    (plain : op = .equal → a.isWildcard = false ∧ b.isWildcard = false) :
    a.accepts op c = b.accepts op d := by
  cases op with
  | approximate => rw [accepts, accepts, compareRelease_congr ab cd]
  | equal =>
    obtain ⟨plainA, plainB⟩ := plain rfl
    rw [accepts, accepts, acceptsEqual_of_not_isWildcard plainA,
      acceptsEqual_of_not_isWildcard plainB, compare_congr ab cd]
  | greaterEqual | lessEqual | greater | less => rw [accepts, accepts, compare_congr cd ab]

end

/-- A tie is an equivalence. Versions that tie compare alike with versions that tie, and as bounds
and as candidates they satisfy the same operators, but for `=` with a bound that has stars. -/
theorem ties_interchangeable :
    Equivalence (fun a b : Version => a.compare b = .eq) ∧
    ∀ a b c d : Version, a.compare b = .eq → c.compare d = .eq →
      a.compare c = b.compare d ∧
      ∀ op : Operator, (op = .equal → a.isWildcard = false ∧ b.isWildcard = false) →
        a.accepts op c = b.accepts op d :=
  ⟨equivalence_tie, fun _ _ _ _ ab cd => ⟨compare_congr ab cd, accepts_congr ab cd⟩⟩

/-- Zeros in front, a number past the 64-bit words and a marker with its number. -/
theorem ties_interchangeable_with_zeros :
    let a := parse "18446744073709551616_pre2"
    let b := parse "00018446744073709551616_pre02-r0"
    let c := parse "1b"
    let d := parse "001b-r00"
    (a.compare b = .eq ∧ c.compare d = .eq ∧ a.isWildcard = false ∧ b.isWildcard = false) ∧
      a.compare c = b.compare d ∧ ∀ op, a.accepts op c = b.accepts op d := by
  intro a b c d
  have ab : a.compare b = .eq := by decide +kernel
  have cd : c.compare d = .eq := by decide +kernel
  have plain : a.isWildcard = false ∧ b.isWildcard = false := by decide +kernel
  obtain ⟨-, interchange⟩ := ties_interchangeable
  obtain ⟨compares, accepts⟩ := interchange a b c d ab cd
  exact ⟨⟨ab, cd, plain⟩, compares, fun op => accepts op fun _ => plain⟩

example : (parse "1*").compare (parse "1") = .eq ∧ (parse "1*").accepts .equal (parse "1.5") ∧
    ¬ (parse "1").accepts .equal (parse "1.5") := by
  decide +kernel

end Ebuild.Version
