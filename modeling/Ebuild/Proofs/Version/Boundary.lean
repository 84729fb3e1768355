import Ebuild.Proofs.Version.Release

/-!
# Token boundaries

What another text at the end of a text does to its tokens. Where a digit meets a digit, or a letter
a letter, the last token grows. Everywhere else the tokens of both texts stand side by side, so the
tokens of a text stay a prefix exactly where nothing is joined (`tokens_prefix_append_iff`).
-/

namespace Ebuild.Version
open Text

/-- The last character of one text and the first of the next belong to one token. -/
def Joined (front rest : List Char) : Prop :=
  ∃ c ∈ front.getLast?, ∃ d ∈ rest.head?,
    (c.isDigit = true ∧ d.isDigit = true) ∨ (c.isAlpha = true ∧ d.isAlpha = true)

theorem same_kind_iff {c d : Char} :
    (c.isDigit = true ∧ d.isDigit = true) ∨ (c.isAlpha = true ∧ d.isAlpha = true) ↔
      (CharKind.of c).Joins ∧ CharKind.of d = CharKind.of c := by
  constructor
  · rintro (⟨digit, digit'⟩ | ⟨alpha, alpha'⟩)
    · rw [kind_of_digit digit, kind_of_digit digit']
      exact ⟨.inl rfl, rfl⟩
    · rw [kind_of_alpha alpha, kind_of_alpha alpha']
      exact ⟨.inr rfl, rfl⟩
  · rintro ⟨kind | kind, same⟩
    · rw [kind] at same
      exact .inl ⟨isDigit_of_kind kind, isDigit_of_kind same⟩
    · rw [kind] at same
      exact .inr ⟨isAlpha_of_kind kind, isAlpha_of_kind same⟩

theorem joined_singleton_iff {c : Char} {rest : List Char} :
    Joined [c] rest ↔ (CharKind.of c).Joins ∧ nextKind rest = some (CharKind.of c) := by
  have single : Joined [c] rest ↔
      ∃ d ∈ rest.head?, (CharKind.of c).Joins ∧ CharKind.of d = CharKind.of c := by
    simp only [Joined, List.getLast?_singleton, Option.mem_some_iff, exists_eq_left', same_kind_iff]
  rw [single, nextKind, Option.map_eq_some_iff]
  constructor
  · rintro ⟨d, head, joins, same⟩
    exact ⟨joins, d, head, same⟩
  · rintro ⟨joins, d, head, same⟩
    exact ⟨d, head, joins, same⟩

theorem joined_cons_iff {c d : Char} {cs rest : List Char} :
    Joined (c :: d :: cs) rest ↔ Joined (d :: cs) rest := by
  rw [Joined, List.getLast?_cons_cons]
  rfl

theorem not_joined {front rest : List Char}
    (stop : ∀ d ∈ rest.head?, d.isDigit = false ∧ d.isAlpha = false) : ¬ Joined front rest := by
  rintro ⟨c, -, d, head, both⟩
  obtain ⟨noDigit, noAlpha⟩ := stop d head
  rcases both with ⟨-, digit⟩ | ⟨-, alpha⟩
  · rw [noDigit] at digit
    cases digit
  · rw [noAlpha] at alpha
    cases alpha

/-! ### One character in front -/

/-- The tokens of a text whose first character is `c`, by the kind of the character after it and
the tokens from there on. -/
def tokensAfter (c : Char) (next : Option CharKind) (later : List (List Char)) :
    List (List Char) :=
  match CharKind.of c with
  | .other => []
  | .separator => later
  | .star => ['*'] :: later
  | kind => if next = some kind then later.modifyHead (c :: ·) else [c] :: later

theorem tokens_cons (c : Char) (cs : List Char) :
    tokens (c :: cs) = tokensAfter c (nextKind cs) (tokens cs) := by
  rw [tokens, tokensAfter]
  rfl

theorem tokens_ne_nil {cs : List Char} {kind : CharKind} (joins : kind.Joins)
    (first : nextKind cs = some kind) : ∃ t ts, tokens cs = t :: ts ∧ t ≠ [] := by
  obtain ⟨c, head, rfl⟩ := Option.map_eq_some_iff.1 first
  obtain ⟨cs, rfl⟩ := List.head?_eq_some_iff.1 head
  obtain ⟨run, rest, split, nonempty, same, stop, -⟩ := exists_maximal_run c cs
  refine ⟨run, tokens rest, ?_, nonempty⟩
  rw [split, tokens_run joins nonempty same stop]

theorem tokensAfter_append {c : Char} {next : Option CharKind} {later more : List (List Char)}
    (known : CharKind.of c ≠ .other)
    (begun : ∀ kind, CharKind.Joins kind → next = some kind → later ≠ []) :
    tokensAfter c next (later ++ more) = tokensAfter c next later ++ more := by
  have joining {kind : CharKind} (joins : kind.Joins) :
      (if next = some kind then (later ++ more).modifyHead (c :: ·) else [c] :: (later ++ more)) =
        (if next = some kind then later.modifyHead (c :: ·) else [c] :: later) ++ more := by
    split
    next continued =>
      obtain ⟨t, ts, rfl⟩ := List.exists_cons_of_ne_nil (begun kind joins continued)
      rfl
    next => rfl
  unfold tokensAfter
  cases kind : CharKind.of c with
  | digit => exact joining (.inl rfl)
  | letter => exact joining (.inr rfl)
  | star => rfl
  | separator => rfl
  | other => contradiction

/-- A character that joins nothing stands for itself. -/
theorem tokensAfter_apart {c : Char} {next : Option CharKind} {later : List (List Char)}
    (known : CharKind.of c ≠ .other)
    (apart : (CharKind.of c).Joins → next ≠ some (CharKind.of c)) :
    tokensAfter c next later = tokensAfter c none [] ++ later := by
  unfold tokensAfter
  cases kind : CharKind.of c with
  | digit =>
    rw [kind] at apart
    exact if_neg (apart (.inl rfl))
  | letter =>
    rw [kind] at apart
    exact if_neg (apart (.inr rfl))
  | star => rfl
  | separator => rfl
  | other => contradiction

theorem modifyHead_prefix_iff {f : List Char → List Char} (injective : Function.Injective f)
    {as bs : List (List Char)} : as.modifyHead f <+: bs.modifyHead f ↔ as <+: bs := by
  cases as with
  | nil => simp
  | cons a as =>
    cases bs with
    | nil => simp
    | cons b bs =>
      rw [List.modifyHead_cons, List.modifyHead_cons, List.cons_prefix_cons, List.cons_prefix_cons,
        injective.eq_iff]

theorem tokensAfter_prefix_iff {c : Char} {next : Option CharKind} {as bs : List (List Char)}
    (known : CharKind.of c ≠ .other) :
    tokensAfter c next as <+: tokensAfter c next bs ↔ as <+: bs := by
  have joining (kind : CharKind) :
      (if next = some kind then as.modifyHead (c :: ·) else [c] :: as) <+:
        (if next = some kind then bs.modifyHead (c :: ·) else [c] :: bs) ↔ as <+: bs := by
    split
    · exact modifyHead_prefix_iff fun _ _ same => (List.cons.inj same).2
    · exact List.prefix_cons_inj [c]
  unfold tokensAfter
  cases kind : CharKind.of c with
  | digit => exact joining .digit
  | letter => exact joining .letter
  | star => exact List.prefix_cons_inj _
  | separator => exact Iff.rfl
  | other => contradiction

/-! ### Texts put together -/

section
variable {front rest : List Char} (known : ∀ c ∈ front, CharKind.of c ≠ .other)
include known

theorem tokens_append (apart : ¬ Joined front rest) :
    tokens (front ++ rest) = tokens front ++ tokens rest := by
  induction front with
  | nil => rfl
  | cons c cs ih =>
    have knownC := known c List.mem_cons_self
    cases cs with
    | nil =>
      have apartC : (CharKind.of c).Joins → nextKind rest ≠ some (CharKind.of c) :=
        fun joins same => apart (joined_singleton_iff.2 ⟨joins, same⟩)
      rw [List.singleton_append, tokens_cons, tokens_cons, tokensAfter_apart knownC apartC]
      rfl
    | cons d ds =>
      have later := ih (fun x mem => known x (List.mem_cons_of_mem c mem))
        fun joined => apart (joined_cons_iff.2 joined)
      have begun (kind : CharKind) (joins : kind.Joins) (next : nextKind (d :: ds) = some kind) :
          tokens (d :: ds) ≠ [] := by
        obtain ⟨t, ts, read, -⟩ := tokens_ne_nil joins next
        rw [read]
        exact List.cons_ne_nil t ts
      rw [List.cons_append, tokens_cons, tokens_cons c (d :: ds), later]
      exact tokensAfter_append knownC begun

/-- The last token of a text that is joined to the next is not a token of both together. -/
theorem not_tokens_prefix_of_joined (joined : Joined front rest) :
    ¬ tokens front <+: tokens (front ++ rest) := by
  induction front with
  | nil =>
    obtain ⟨c, last, -⟩ := joined
    cases last
  | cons c cs ih =>
    have knownC := known c List.mem_cons_self
    cases cs with
    | nil =>
      obtain ⟨joins, next⟩ := joined_singleton_iff.1 joined
      obtain ⟨t, ts, read, nonempty⟩ := tokens_ne_nil joins next
      -- alone the character is a token, in front of `rest` it only starts one
      have alone : tokens [c] = [[c]] := by
        rw [tokens_joining joins, if_neg (by simp)]
        rfl
      have grown : tokens (c :: rest) = (c :: t) :: ts := by
        rw [tokens_joining joins, ← nextKind, if_pos next, read]
        rfl
      rw [List.singleton_append, alone, grown, List.cons_prefix_cons]
      rintro ⟨same, -⟩
      exact nonempty (List.cons.inj same).2.symm
    | cons d ds =>
      have later := ih (fun x mem => known x (List.mem_cons_of_mem c mem))
        (joined_cons_iff.1 joined)
      rw [List.cons_append, tokens_cons c (d :: ds), tokens_cons c (d :: ds ++ rest)]
      exact fun both => later ((tokensAfter_prefix_iff knownC).1 both)

theorem tokens_prefix_append_iff :
    tokens front <+: tokens (front ++ rest) ↔ ¬ Joined front rest := by
  constructor
  · exact fun both joined => not_tokens_prefix_of_joined known joined both
  · intro apart
    rw [tokens_append known apart]
    exact List.prefix_append _ _

end

end Ebuild.Version
