import Mathlib.Data.List.SplitBy
import Ebuild.Proofs.Version.Boundary

/-!
# Pieces of a version text

Which pieces a text is cut into, said without a reader: the longest front of it that a version can
hold is cut wherever its characters do not hang together, and the separators are dropped.
`tokens_eq_pieces` says that the tokens are these pieces, `flatten_tokens` that nothing else is
lost.
-/

namespace Ebuild.Version
open Text

def isSeparator (c : Char) : Bool := c == '.' || c == '_' || c == '-' || c == '+'

/-- A character that a version can hold. -/
def isKnown (c : Char) : Bool := c.isAlpha || c.isDigit || c == '*' || isSeparator c

/-- Digits hang together with digits and letters with letters, all else stands alone. -/
def hangTogether (c d : Char) : Bool := (c.isDigit && d.isDigit) || (c.isAlpha && d.isAlpha)

/-- The text up to the first character that no version can hold. -/
def knownFront (cs : List Char) : List Char := cs.takeWhile isKnown

def pieces (cs : List Char) : List (List Char) :=
  ((knownFront cs).splitBy hangTogether).filter fun piece => !piece.any isSeparator

/-! ### Kinds of characters -/

theorem isSeparator_iff {c : Char} : isSeparator c = true ↔ CharKind.of c = .separator := by
  simp only [isSeparator, Bool.or_eq_true, beq_iff_eq, or_assoc]
  constructor
  · rintro (rfl | rfl | rfl | rfl) <;> rfl
  · exact eq_separator_of_kind

theorem isKnown_iff {c : Char} : isKnown c = true ↔ CharKind.of c ≠ .other := by
  rw [isKnown, Bool.or_eq_true, isSeparator_iff, Bool.or_eq_true, Bool.or_eq_true, beq_iff_eq]
  constructor
  · rintro (((alpha | digit) | rfl) | kind)
    · simp [kind_of_alpha alpha]
    · simp [kind_of_digit digit]
    · decide
    · simp [kind]
  · intro known
    cases kind : CharKind.of c with
    | digit => exact .inl (.inl (.inr (isDigit_of_kind kind)))
    | letter => exact .inl (.inl (.inl (isAlpha_of_kind kind)))
    | star => exact .inl (.inr (eq_star_of_kind kind))
    | separator => exact .inr rfl
    | other => exact absurd kind known

theorem hangTogether_iff {c d : Char} :
    hangTogether c d = true ↔ (CharKind.of c).Joins ∧ CharKind.of d = CharKind.of c := by
  rw [← same_kind_iff]
  simp [hangTogether]

theorem not_isSeparator_of_joins {c : Char} (joins : (CharKind.of c).Joins) :
    isSeparator c = false := by
  rw [Bool.eq_false_iff, ne_eq, isSeparator_iff]
  intro kind
  rcases joins with other | other <;> rw [kind] at other <;> cases other

/-! ### Tokens are the pieces -/

/-- Characters that hang together, in front of a text that does not go on with them. -/
theorem pieces_append {front rest : List Char} (nonempty : front ≠ [])
    (known : ∀ c ∈ front, isKnown c = true)
    (chain : front.IsChain fun c d => hangTogether c d = true)
    (apart : ∀ c ∈ front.getLast?, ∀ d ∈ rest.head?, hangTogether c d = false) :
    pieces (front ++ rest) = (if front.any isSeparator then [] else [front]) ++ pieces rest := by
  have apart : ∀ c ∈ front.getLast?, ∀ d ∈ (knownFront rest).head?, hangTogether c d = false := by
    intro c last d head
    rw [knownFront, List.head?_takeWhile] at head
    exact apart c last d (Option.eq_some_of_filter_eq_some head)
  rw [pieces, knownFront, List.takeWhile_append_of_pos known, ← knownFront,
    List.splitBy_append apart, List.splitBy_of_isChain nonempty chain, List.filter_append, ← pieces]
  cases separated : front.any isSeparator with
  | true => rw [List.filter_cons_of_neg (by simp only [separated]; decide)]; rfl
  | false => rw [List.filter_cons_of_pos (by simp only [separated]; decide)]; rfl

theorem pieces_cons {c : Char} (cs : List Char) (known : isKnown c = true)
    (alone : ¬ (CharKind.of c).Joins) :
    pieces (c :: cs) = (if isSeparator c then [] else [[c]]) ++ pieces cs := by
  have apart : ∀ d ∈ [c].getLast?, ∀ e ∈ cs.head?, hangTogether d e = false := by
    intro d last e _
    cases last
    rw [Bool.eq_false_iff, ne_eq, hangTogether_iff]
    exact fun both => alone both.1
  have split := pieces_append (List.cons_ne_nil c []) (by simpa using known)
    (List.isChain_singleton c) apart
  simpa using split

theorem tokens_eq_pieces (cs : List Char) : tokens cs = pieces cs := by
  induction cs using reading_induction with
  | nil => rfl
  | other c cs kind =>
    have unknown : isKnown c = false := by
      rw [Bool.eq_false_iff, ne_eq, isKnown_iff]
      exact fun known => known kind
    rw [tokens_other kind, pieces, knownFront, List.takeWhile_cons_of_neg (by simp [unknown])]
    rfl
  | separator c cs kind ih =>
    have alone : ¬ (CharKind.of c).Joins := by simp [kind, CharKind.Joins]
    rw [tokens_separator kind, pieces_cons cs (isKnown_iff.2 (by simp [kind])) alone,
      if_pos (isSeparator_iff.2 kind), ih]
    rfl
  | star c cs kind ih =>
    have alone : ¬ (CharKind.of c).Joins := by simp [kind, CharKind.Joins]
    obtain rfl := eq_star_of_kind kind
    rw [tokens_star kind, pieces_cons cs rfl alone, if_neg (by decide), ih]
    rfl
  | run kind run rest joins nonempty same stop ih =>
    have known : ∀ c ∈ run, isKnown c = true := by
      intro c mem
      rw [isKnown_iff, same c mem]
      rcases joins with rfl | rfl <;> decide
    have chain : run.IsChain fun c d => hangTogether c d = true := by
      refine List.Pairwise.isChain (List.pairwise_of_forall_mem_list fun c memC d memD => ?_)
      rw [hangTogether_iff, same c memC, same d memD]
      exact ⟨joins, rfl⟩
    have apart : ∀ c ∈ run.getLast?, ∀ d ∈ rest.head?, hangTogether c d = false := by
      intro c last d head
      rw [Bool.eq_false_iff, ne_eq, hangTogether_iff, same c (List.mem_of_mem_getLast? last)]
      rintro ⟨-, next⟩
      exact stop (by rw [Option.mem_def.1 head, Option.map_some, next])
    have solid : run.any isSeparator = false := by
      rw [List.any_eq_false]
      intro c mem
      rw [not_isSeparator_of_joins (by rwa [same c mem])]
      decide
    rw [tokens_run joins nonempty same stop, pieces_append nonempty known chain apart, solid, ih]
    rfl

theorem flatten_tokens (cs : List Char) :
    (tokens cs).flatten = (knownFront cs).filter fun c => !isSeparator c := by
  have known {c : Char} (cs : List Char) (kind : CharKind.of c ≠ .other) :
      knownFront (c :: cs) = c :: knownFront cs :=
    List.takeWhile_cons_of_pos (isKnown_iff.2 kind)
  induction cs using reading_induction with
  | nil => rfl
  | other c cs kind =>
    have unknown : ¬ isKnown c = true := fun known => isKnown_iff.1 known kind
    rw [tokens_other kind, knownFront, List.takeWhile_cons_of_neg unknown]
    rfl
  | separator c cs kind ih =>
    rw [tokens_separator kind, known cs (by simp [kind]), ih,
      List.filter_cons_of_neg (by simp [isSeparator_iff.2 kind])]
  | star c cs kind ih =>
    obtain rfl := eq_star_of_kind kind
    rw [tokens_star kind, known cs (by decide), List.filter_cons_of_pos (by decide), ← ih]
    rfl
  | run kind run rest joins nonempty same stop ih =>
    have solid : ∀ c ∈ run, isKnown c = true ∧ (!isSeparator c) = true := by
      intro c mem
      rw [isKnown_iff, not_isSeparator_of_joins (by rwa [same c mem]), same c mem]
      rcases joins with rfl | rfl <;> decide
    have front : knownFront (run ++ rest) = run ++ knownFront rest :=
      List.takeWhile_append_of_pos fun c mem => (solid c mem).1
    rw [tokens_run joins nonempty same stop, List.flatten_cons, ih, front, List.filter_append,
      List.filter_eq_self.2 fun c mem => (solid c mem).2]

end Ebuild.Version
