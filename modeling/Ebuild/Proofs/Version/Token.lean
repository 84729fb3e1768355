import Ebuild.Proofs.Text.Char
import Ebuild.Text.Digits
import Ebuild.Version.Token

/-!
# Tokens of a version text

How `Version.tokens` reads a text piece by piece: a maximal run of digits or letters is one token
and a separator leaves none. Every token is a number, a star or a run of letters.
-/

namespace Ebuild.Version
open Text

theorem kind_of_digit {c : Char} (digit : c.isDigit = true) : CharKind.of c = .digit := by
  simp [CharKind.of, digit]

/-- What the kind of a character says about it. -/
theorem of_kind (c : Char) :
    match CharKind.of c with
    | .digit => c.isDigit = true
    | .letter => c.isAlpha = true
    | .star => c = '*'
    | .separator => c = '.' ∨ c = '_' ∨ c = '-' ∨ c = '+'
    | .other => True := by
  unfold CharKind.of
  by_cases digit : c.isDigit = true
  · simp [digit]
  by_cases alpha : c.isAlpha = true
  · simp [digit, alpha]
  by_cases star : c = '*'
  · simp [star]
  by_cases separator : c = '.' ∨ c = '_' ∨ c = '-' ∨ c = '+'
  · simp [digit, alpha, star, separator]
  · simp [digit, alpha, star, separator]

theorem isDigit_of_kind {c : Char} (kind : CharKind.of c = .digit) : c.isDigit = true := by
  simpa [kind] using of_kind c

theorem isAlpha_of_kind {c : Char} (kind : CharKind.of c = .letter) : c.isAlpha = true := by
  simpa [kind] using of_kind c

theorem eq_star_of_kind {c : Char} (kind : CharKind.of c = .star) : c = '*' := by
  simpa [kind] using of_kind c

theorem eq_separator_of_kind {c : Char} (kind : CharKind.of c = .separator) :
    c = '.' ∨ c = '_' ∨ c = '-' ∨ c = '+' := by
  simpa [kind] using of_kind c

theorem kind_of_alpha {c : Char} (alpha : c.isAlpha = true) : CharKind.of c = .letter := by
  simp [CharKind.of, not_isDigit_of_isAlpha alpha, alpha]

/-! ### Reading a text -/

theorem tokens_separator {c : Char} {cs : List Char} (kind : CharKind.of c = .separator) :
    tokens (c :: cs) = tokens cs := by
  rw [tokens, kind]

theorem tokens_star {c : Char} {cs : List Char} (kind : CharKind.of c = .star) :
    tokens (c :: cs) = ['*'] :: tokens cs := by
  rw [tokens, kind]

theorem tokens_other {c : Char} {cs : List Char} (kind : CharKind.of c = .other) :
    tokens (c :: cs) = [] := by
  rw [tokens, kind]

/-- The kinds of characters of which a run makes one token. -/
def CharKind.Joins (kind : CharKind) : Prop := kind = .digit ∨ kind = .letter

theorem tokens_joining {c : Char} {cs : List Char} (joins : (CharKind.of c).Joins) :
    tokens (c :: cs) =
      if cs.head?.map CharKind.of = some (CharKind.of c) then (tokens cs).modifyHead (c :: ·)
      else [c] :: tokens cs := by
  rw [tokens]
  rcases joins with kind | kind <;> rw [kind]

theorem tokens_run {kind : CharKind} {run rest : List Char} (joins : kind.Joins)
    (nonempty : run ≠ []) (same : ∀ c ∈ run, CharKind.of c = kind)
    (stop : rest.head?.map CharKind.of ≠ some kind) :
    tokens (run ++ rest) = run :: tokens rest := by
  induction run with
  | nil => contradiction
  | cons c run ih =>
    have first : CharKind.of c = kind := same c List.mem_cons_self
    rw [List.cons_append, tokens_joining (by rw [first]; exact joins), first]
    cases run with
    | nil => rw [List.nil_append, if_neg stop]
    | cons d run =>
      have next : CharKind.of d = kind := same d (by simp)
      rw [if_pos (by simp [next]), ih (by simp) fun x mem => same x (List.mem_cons_of_mem c mem)]
      rfl

theorem tokens_number {run rest : List Char} (number : isNumber run = true)
    (stop : rest.head?.map CharKind.of ≠ some .digit) :
    tokens (run ++ rest) = run :: tokens rest := by
  simp only [isNumber, Bool.and_eq_true, Bool.not_eq_true', List.isEmpty_eq_false_iff,
    List.all_eq_true] at number
  exact tokens_run (.inl rfl) number.1 (fun c mem => kind_of_digit (number.2 c mem)) stop

theorem tokens_letters {run rest : List Char} (nonempty : run ≠ [])
    (letters : ∀ c ∈ run, c.isAlpha = true) (stop : rest.head?.map CharKind.of ≠ some .letter) :
    tokens (run ++ rest) = run :: tokens rest :=
  tokens_run (.inr rfl) nonempty (fun c mem => kind_of_alpha (letters c mem)) stop

theorem exists_maximal_run (c : Char) (cs : List Char) :
    ∃ run rest, c :: cs = run ++ rest ∧ run ≠ [] ∧ (∀ d ∈ run, CharKind.of d = CharKind.of c) ∧
      rest.head?.map CharKind.of ≠ some (CharKind.of c) ∧ rest.length < (c :: cs).length := by
  let inRun (d : Char) : Bool := CharKind.of d = CharKind.of c
  refine ⟨c :: cs.takeWhile inRun, cs.dropWhile inRun, ?_, by simp, ?_, ?_, ?_⟩
  · rw [List.cons_append, List.takeWhile_append_dropWhile]
  · intro d mem
    rcases List.mem_cons.1 mem with rfl | mem
    · rfl
    · simpa [inRun] using List.all_eq_true.1 List.all_takeWhile d mem
  · intro head
    obtain ⟨d, found, kind⟩ := Option.map_eq_some_iff.1 head
    have := List.head?_dropWhile_not inRun cs
    rw [found] at this
    simp [inRun, kind] at this
  · have := (List.dropWhile_suffix (l := cs) inRun).length_le
    simp only [List.length_cons]
    omega

/-- A text is read from left to right: a character of no version ends it, separators and stars
stand alone, digits and letters come in maximal runs. -/
@[elab_as_elim]
theorem reading_induction {motive : List Char → Prop} (nil : motive [])
    (other : ∀ c cs, CharKind.of c = .other → motive (c :: cs))
    (separator : ∀ c cs, CharKind.of c = .separator → motive cs → motive (c :: cs))
    (star : ∀ c cs, CharKind.of c = .star → motive cs → motive (c :: cs))
    (run : ∀ (kind : CharKind) (run rest : List Char), kind.Joins → run ≠ [] →
      (∀ c ∈ run, CharKind.of c = kind) → rest.head?.map CharKind.of ≠ some kind → motive rest →
      motive (run ++ rest))
    (cs : List Char) : motive cs := by
  match cs with
  | [] => exact nil
  | c :: cs =>
    have joining (joins : (CharKind.of c).Joins) : motive (c :: cs) := by
      obtain ⟨front, rest, split, nonempty, same, stop, shorter⟩ := exists_maximal_run c cs
      rw [split]
      exact run _ front rest joins nonempty same stop
        (reading_induction nil other separator star run rest)
    cases kind : CharKind.of c with
    | digit => exact joining (.inl kind)
    | letter => exact joining (.inr kind)
    | star => exact star c cs kind (reading_induction nil other separator star run cs)
    | separator => exact separator c cs kind (reading_induction nil other separator star run cs)
    | other => exact other c cs kind
termination_by cs.length
decreasing_by all_goals
  rw [List.length_cons] at *
  omega

/-! ### What a token is -/

inductive IsToken : List Char → Prop
  | number {digits : List Char} (number : isNumber digits = true) : IsToken digits
  | star : IsToken ['*']
  | letters {cs : List Char} (nonempty : cs ≠ []) (letters : ∀ c ∈ cs, c.isAlpha = true) :
    IsToken cs

theorem IsToken.ne_nil {cs : List Char} (token : IsToken cs) : cs ≠ [] := by
  rintro rfl
  cases token with
  | number number => exact absurd number (by decide)
  | letters nonempty => exact nonempty rfl

theorem isToken_of_run {kind : CharKind} {run : List Char} (joins : kind.Joins)
    (nonempty : run ≠ []) (same : ∀ c ∈ run, CharKind.of c = kind) : IsToken run := by
  rcases joins with rfl | rfl
  · refine .number ?_
    simp only [isNumber, Bool.and_eq_true, Bool.not_eq_true', List.isEmpty_eq_false_iff,
      List.all_eq_true]
    exact ⟨nonempty, fun c mem => isDigit_of_kind (same c mem)⟩
  · exact .letters nonempty fun c mem => isAlpha_of_kind (same c mem)

/-- Tokens are what the text holds: every token is well formed and made of its characters. -/
theorem token_spec (cs : List Char) : ∀ t ∈ tokens cs, IsToken t ∧ t ⊆ cs := by
  have later (front : List Char) {rest : List Char}
      (read : ∀ t ∈ tokens rest, IsToken t ∧ t ⊆ rest) :
      ∀ t ∈ tokens rest, IsToken t ∧ t ⊆ front ++ rest := by
    intro t mem
    obtain ⟨token, sub⟩ := read t mem
    exact ⟨token, List.subset_append_of_subset_right front sub⟩
  induction cs using reading_induction with
  | nil => simp [tokens]
  | other c cs kind => simp [tokens_other kind]
  | separator c cs kind ih =>
    rw [tokens_separator kind]
    exact later [c] ih
  | star c cs kind ih =>
    obtain rfl := eq_star_of_kind kind
    rw [tokens_star kind, List.forall_mem_cons]
    exact ⟨⟨.star, by simp⟩, later ['*'] ih⟩
  | run kind run rest joins nonempty same stop ih =>
    rw [tokens_run joins nonempty same stop, List.forall_mem_cons]
    exact ⟨⟨isToken_of_run joins nonempty same, List.subset_append_left run rest⟩, later run ih⟩
end Ebuild.Version
