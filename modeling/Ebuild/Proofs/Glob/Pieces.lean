import Mathlib.Data.List.Forall2
import Ebuild.Glob

/-!
# Values cut into pieces

A pattern spells a value that is cut into pieces, one for each character of the pattern.
`covers_iff` says that walking through a pattern row by row decides this, whichever characters each
star takes.
-/

namespace Ebuild.Glob

/-- What a pattern character contributes. A wildcard contributes only what it takes. -/
inductive Piece (takes : Char → Prop) : Char → List Char → Prop
  | run {cs : List Char} (taken : ∀ c ∈ cs, takes c) : Piece takes '*' cs
  | one {c : Char} (taken : takes c) : Piece takes '?' [c]
  | same {p : Char} (literal : isWildcard p = false) : Piece takes p [p]

/-- Whether a value can be cut into pieces of a pattern. -/
def Spells (takes : Char → Prop) (pattern value : List Char) : Prop :=
  ∃ pieces, List.Forall₂ (Piece takes) pattern pieces ∧ pieces.flatten = value

section
variable {takes : Char → Prop} {p c : Char} {ps qs cs value : List Char}

theorem spells_nil : Spells takes [] value ↔ value = [] := by
  constructor
  · rintro ⟨_, ⟨⟩, rfl⟩
    rfl
  · rintro rfl
    exact ⟨[], .nil, rfl⟩

theorem spells_cons :
    Spells takes (p :: ps) value ↔
      ∃ piece rest, value = piece ++ rest ∧ Piece takes p piece ∧ Spells takes ps rest := by
  constructor
  · rintro ⟨_, ⟨⟩, rfl⟩
    rename_i piece pieces first others
    exact ⟨piece, pieces.flatten, rfl, first, pieces, others, rfl⟩
  · rintro ⟨piece, _, rfl, first, pieces, others, rfl⟩
    exact ⟨piece :: pieces, .cons first others, rfl⟩

theorem spells_append :
    Spells takes (ps ++ qs) value ↔
      ∃ front back, value = front ++ back ∧ Spells takes ps front ∧ Spells takes qs back := by
  induction ps generalizing value with
  | nil => simp [spells_nil]
  | cons p ps ih =>
    simp only [List.cons_append, spells_cons, ih]
    constructor
    · rintro ⟨piece, _, rfl, first, front, back, rfl, before, after⟩
      exact ⟨piece ++ front, back, by simp, ⟨piece, front, rfl, first, before⟩, after⟩
    · rintro ⟨_, back, rfl, ⟨piece, front, rfl, first, before⟩, after⟩
      exact ⟨piece, front ++ back, by simp, first, front, back, rfl, before, after⟩

/-! ### One character of the pattern -/

theorem piece_star : Piece takes '*' cs ↔ ∀ c ∈ cs, takes c := by
  constructor
  · intro piece
    cases piece with
    | run taken => exact taken
    | same literal => cases literal
  · exact .run

theorem piece_of_ne_star (other : p ≠ '*') :
    Piece takes p cs ↔ ∃ c, cs = [c] ∧ if isWildcard p then takes c else p = c := by
  constructor
  · intro piece
    cases piece with
    | run => contradiction
    | @one c taken => exact ⟨c, rfl, taken⟩
    | same literal => exact ⟨p, rfl, by simp [literal]⟩
  · rintro ⟨c, rfl, matched⟩
    split at matched
    · rename_i wild
      have : p = '?' := by simpa [isWildcard, other] using wild
      subst this
      exact .one matched
    · rename_i literal
      subst matched
      exact .same (Bool.eq_false_iff.2 literal)

theorem spells_star_nil : Spells takes ('*' :: ps) [] ↔ Spells takes ps [] := by
  simp only [spells_cons, piece_star]
  constructor
  · rintro ⟨piece, rest, same, -, spells⟩
    obtain ⟨rfl, rfl⟩ := List.append_eq_nil_iff.1 same.symm
    exact spells
  · intro spells
    exact ⟨[], [], rfl, by simp, spells⟩

theorem spells_star_cons :
    Spells takes ('*' :: ps) (c :: cs) ↔
      Spells takes ps (c :: cs) ∨ (takes c ∧ Spells takes ('*' :: ps) cs) := by
  simp only [spells_cons, piece_star]
  constructor
  · rintro ⟨piece, rest, same, taken, spells⟩
    cases piece with
    | nil =>
      rw [same]
      exact .inl spells
    | cons d piece =>
      cases same
      exact .inr ⟨taken c (by simp), piece, rest, rfl, fun e mem => taken e (by simp [mem]), spells⟩
  · rintro (spells | ⟨first, piece, rest, rfl, taken, spells⟩)
    · exact ⟨[], c :: cs, rfl, by simp, spells⟩
    · exact ⟨c :: piece, rest, rfl, List.forall_mem_cons.2 ⟨first, taken⟩, spells⟩

theorem spells_cons_of_ne_star (other : p ≠ '*') :
    Spells takes (p :: ps) value ↔
      ∃ c rest, value = c :: rest ∧ (if isWildcard p then takes c else p = c) ∧
        Spells takes ps rest := by
  simp only [spells_cons, piece_of_ne_star other]
  constructor
  · rintro ⟨_, rest, rfl, ⟨c, rfl, matched⟩, spells⟩
    exact ⟨c, rest, rfl, matched, spells⟩
  · rintro ⟨c, rest, rfl, matched, spells⟩
    exact ⟨[c], rest, rfl, ⟨c, rfl, matched⟩, spells⟩

theorem not_spells_nil (other : p ≠ '*') : ¬ Spells takes (p :: ps) [] := by
  simp [spells_cons_of_ne_star other]

theorem spells_cons_cons (other : p ≠ '*') :
    Spells takes (p :: ps) (c :: cs) ↔
      (if isWildcard p then takes c else p = c) ∧ Spells takes ps cs := by
  simp [spells_cons_of_ne_star other]

theorem spells_literal (literal : ps.any isWildcard = false) :
    Spells takes ps value ↔ value = ps := by
  induction ps generalizing value with
  | nil => exact spells_nil
  | cons p ps ih =>
    rw [List.any_cons, Bool.or_eq_false_iff] at literal
    have other : p ≠ '*' := by
      rintro rfl
      cases literal.1
    cases value with
    | nil => simp [not_spells_nil other]
    | cons c cs => simp [spells_cons_cons other, literal.1, ih literal.2, eq_comm]

theorem Piece.mono {takes' : Char → Prop} (piece : Piece takes p cs)
    (more : ∀ c ∈ cs, takes c → takes' c) : Piece takes' p cs := by
  cases piece with
  | run taken => exact .run fun c mem => more c mem (taken c mem)
  | one taken => exact .one (more _ (by simp) taken)
  | same literal => exact .same literal

/-- Only what wildcards take of the value itself is of account. -/
theorem Spells.mono {takes' : Char → Prop} (spells : Spells takes ps value)
    (more : ∀ c ∈ value, takes c → takes' c) : Spells takes' ps value := by
  induction ps generalizing value with
  | nil => exact spells_nil.2 (spells_nil.1 spells)
  | cons p ps ih =>
    obtain ⟨piece, rest, rfl, first, later⟩ := spells_cons.1 spells
    exact spells_cons.2 ⟨piece, rest, rfl, first.mono fun c mem => more c (by simp [mem]),
      ih later fun c mem => more c (by simp [mem])⟩

end

/-! ### Rows -/

inductive RowOf (P : List Char → Prop) : List Char → List Bool → Prop
  | nil {b : Bool} (last : b = true ↔ P []) : RowOf P [] [b]
  | cons {c : Char} {cs : List Char} {b : Bool} {r : List Bool} (first : b = true ↔ P (c :: cs))
    (rest : RowOf P cs r) : RowOf P (c :: cs) (b :: r)

theorem RowOf.head {P : List Char → Prop} {value : List Char} {r : List Bool}
    (holds : RowOf P value r) : r.headD false = true ↔ P value := by
  cases holds with
  | nil last => exact last
  | cons first => exact first

/-- What wildcards take in the fourth form. -/
def LineFree (c : Char) : Prop := c ≠ '\n'

theorem coversChar_iff {p c : Char} :
    coversChar p c = true ↔ if isWildcard p then LineFree c else p = c := by
  unfold coversChar LineFree
  split <;> simp

theorem rowOf_emptyRow (value : List Char) :
    RowOf (Spells LineFree []) value (emptyRow value) := by
  induction value with
  | nil => exact .nil (by simp [spells_nil])
  | cons c cs ih => exact .cons (by simp [spells_nil]) ih

theorem RowOf.consRow {ps value : List Char} {next : List Bool}
    (holds : RowOf (Spells LineFree ps) value next) (p : Char) :
    RowOf (Spells LineFree (p :: ps)) value (consRow p value next) := by
  induction holds with
  | @nil b last =>
    refine .nil ?_
    by_cases star : p = '*'
    · subst star
      simp [spells_star_nil, last]
    · simp [star, not_spells_nil star]
  | @cons c cs b r first rest ih =>
    unfold Glob.consRow
    by_cases star : p = '*'
    · subst star
      refine .cons ?_ ih
      simp only [List.headD_cons, List.tail_cons, Bool.or_eq_true, Bool.and_eq_true]
      rw [spells_star_cons, first, coversChar_iff, ih.head]
      rfl
    · rw [if_neg star]
      refine .cons ?_ ih
      rw [List.tail_cons, Bool.and_eq_true, coversChar_iff, rest.head, spells_cons_cons star]

theorem rowOf_row (pattern value : List Char) :
    RowOf (Spells LineFree pattern) value (row pattern value) := by
  induction pattern with
  | nil => exact rowOf_emptyRow value
  | cons p ps ih => exact ih.consRow p

theorem covers_iff {pattern value : List Char} :
    covers pattern value = true ↔ Spells LineFree pattern value :=
  (rowOf_row pattern value).head

end Ebuild.Glob
