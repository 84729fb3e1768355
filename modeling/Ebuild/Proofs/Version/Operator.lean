import Ebuild.Proofs.Text.Blank
import Ebuild.Proofs.Version.Order

/-!
# Operators side by side

The six operators tell one story: bounds turn round with their candidates, strict bounds are the
opposite of the others, and every version satisfies itself. `operators_cohere` puts this together.
-/

namespace Ebuild.Version

/-! ### Ties -/

theorem compareSlots_take {as bs : List Slot} (n : Nat) (tie : compareSlots as bs = .eq) :
    compareSlots (as.take n) (bs.take n) = .eq := by
  induction n generalizing as bs with
  | zero => simp [compareSlots, List.compareLex_nil_nil]
  | succ n ih =>
    cases as with
    | nil =>
      cases bs with
      | nil => simp [compareSlots, List.compareLex_nil_nil]
      | cons b bs => simp [compareSlots, List.compareLex_nil_cons] at tie
    | cons a as =>
      cases bs with
      | nil => simp [compareSlots, List.compareLex_cons_nil] at tie
      | cons b bs =>
        rw [compareSlots_cons, Ordering.then_eq_eq] at tie
        rw [List.take_succ_cons, List.take_succ_cons, compareSlots_cons, tie.1]
        exact ih tie.2

theorem compareRelease_of_compare {a b : Version} (tie : a.compare b = .eq) :
    a.compareRelease b = .eq :=
  compareSlots_take revisionSlot tie

theorem compareRelease_swap (a b : Version) : a.compareRelease b = (b.compareRelease a).swap :=
  orientedSlots.eq_swap

/-! ### Stars -/

theorem innerText?_eq_some_iff {cs inner : List Char} :
    innerText? cs = some inner ↔ cs = '*' :: inner ++ ['*'] := by
  unfold innerText?
  split
  · rename_i rest
    rw [Option.ite_none_right_eq_some, List.getLast?_eq_some_iff, Option.some.injEq]
    constructor
    · rintro ⟨⟨front, rfl⟩, same⟩
      rw [List.dropLast_concat] at same
      rw [same]
      rfl
    · intro same
      simp only [List.cons_append, List.cons.injEq, true_and] at same
      subst same
      exact ⟨⟨inner, rfl⟩, List.dropLast_concat⟩
  · rename_i unstarred
    constructor
    · intro none
      cases none
    · rintro rfl
      exact absurd rfl (unstarred (inner ++ ['*']))

theorem infix_of_within {v : Version} {text : List Char} (within : v.wildcard = .within text) :
    text <:+: v.raw.toList := by
  unfold wildcard at within
  split at within
  · rename_i inner read
    cases within
    exact ⟨['*'], ['*'], by rw [innerText?_eq_some_iff.1 read]; rfl⟩
  · split at within <;> cases within

theorem prefix_of_leading {v : Version} {tokens : List (List Char)}
    (leading : v.wildcard = .leading tokens) : tokens <+: v.tokenList := by
  unfold wildcard at leading
  split at leading
  · cases leading
  · split at leading
    · rename_i star
      cases leading
      rw [body, if_pos star]
      exact List.dropLast_prefix _
    · cases leading

theorem acceptsEqual_self (v : Version) : v.acceptsEqual v = true := by
  unfold acceptsEqual
  split
  · rename_i within
    exact Text.occursIn_iff.2 (infix_of_within within)
  · rename_i leading
    exact List.isPrefixOf_iff_prefix.2 (prefix_of_leading leading)
  · rw [compare_self, beq_self_eq_true]

theorem acceptsEqual_of_not_isWildcard {v : Version} (plain : v.isWildcard = false)
    (candidate : Version) : v.acceptsEqual candidate = (v.compare candidate == .eq) := by
  have none : v.wildcard = .none := by simpa [isWildcard] using plain
  rw [acceptsEqual, none]

theorem parse_raw (text : String) : parse (parse text).raw = parse text := by
  rw [parse, parse, Text.trimmed, Text.trimmed, String.toList_ofList, Text.trim_trim]

/-! ### All operators -/

theorem accepts_self_iff (v : Version) (op : Operator) :
    v.accepts op v = true ↔ op ≠ .less ∧ op ≠ .greater := by
  cases op with
  | approximate => simp [accepts, compareRelease_of_compare (compare_self v)]
  | equal => simp [accepts, acceptsEqual_self]
  | greaterEqual | lessEqual | greater | less => simp [accepts, compare_self]

/-- Operators agree with each other on all versions, and every version satisfies the bounds that it
sets itself. -/
theorem operators_cohere (a b : Version) :
    a.compare b = (b.compare a).swap ∧
    a.accepts .less b = b.accepts .greater a ∧
    a.accepts .lessEqual b = b.accepts .greaterEqual a ∧
    a.accepts .less b = !a.accepts .greaterEqual b ∧
    a.accepts .greater b = !a.accepts .lessEqual b ∧
    a.accepts .approximate b = b.accepts .approximate a ∧
    (a.isWildcard = false →
      a.accepts .equal b = (a.accepts .lessEqual b && a.accepts .greaterEqual b) ∧
      (a.accepts .equal b = true → a.accepts .approximate b = true)) ∧
    ∀ text, let v := parse text
      parse v.raw = v ∧ v.accepts .equal v = true ∧ v.accepts .approximate v = true ∧
        v.accepts .greaterEqual v = true ∧ v.accepts .lessEqual v = true ∧
        v.accepts .less v = false ∧ v.accepts .greater v = false := by
  refine ⟨compare_swap a b, ?_, ?_, ?_, ?_, ?_, ?_, ?_⟩
  · rw [accepts, accepts, compare_swap b a]
    cases a.compare b <;> rfl
  · rw [accepts, accepts, compare_swap b a]
    cases a.compare b <;> rfl
  · rw [accepts, accepts]
    cases b.compare a <;> rfl
  · rw [accepts, accepts]
    cases b.compare a <;> rfl
  · rw [accepts, accepts, compareRelease_swap b a]
    cases a.compareRelease b <;> rfl
  · intro plain
    simp only [accepts, acceptsEqual_of_not_isWildcard plain, compare_swap b a]
    refine ⟨by cases a.compare b <;> rfl, ?_⟩
    intro tie
    rw [compareRelease_of_compare (beq_iff_eq.1 tie), beq_self_eq_true]
  · intro text v
    refine ⟨parse_raw text, acceptsEqual_self v, ?_, ?_, ?_, ?_, ?_⟩
    · rw [accepts, compareRelease_of_compare (compare_self v), beq_self_eq_true]
    all_goals
      rw [accepts, compare_self]
      rfl

/-- A revision that is written out and zero ties with none. -/
theorem operators_cohere_on_zero_revision :
    (parse "1.0").isWildcard = false ∧
      (parse "1.0").accepts .equal (parse "1.0-r0") = true ∧
      (parse "1.0").accepts .approximate (parse "1.0-r0") = true := by
  have plain : (parse "1.0").isWildcard = false := by decide +kernel
  have equal : (parse "1.0").accepts .equal (parse "1.0-r0") = true := by decide +kernel
  have coheres := (operators_cohere (parse "1.0") (parse "1.0-r0")).2.2.2.2.2.2.1 plain
  exact ⟨plain, equal, coheres.2 equal⟩

end Ebuild.Version
