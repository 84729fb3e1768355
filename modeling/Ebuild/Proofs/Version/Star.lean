import Ebuild.Proofs.Version.Revision

/-!
# A star at the end of a bound

A star after a text of digits, letters and separators stands for whatever may follow the tokens of
the text. `accepts_star_iff` says that this is every text which does not make the last token longer.
-/

namespace Ebuild.Version
open Text

namespace Stem

/-- The version that starts with the stem and goes on with any text. -/
def followedBy (v : Stem) (rest : List Char) : Version := parse (String.ofList (v.text ++ rest))

theorem known (v : Stem) : ∀ c ∈ v.text, CharKind.of c ≠ .other :=
  fun c mem => (v.plain c mem).known

section
variable {v : Stem} (nonempty : v.text ≠ [])
include nonempty

theorem raw_followedBy (rest : List Char) :
    (v.followedBy rest).raw.toList = v.text ++ trimRight rest := by
  rw [followedBy, parse, trimmed, String.toList_ofList, String.toList_ofList,
    trim_append rest nonempty fun c mem => (v.plain c mem).not_blank]

theorem tokenList_followedBy (rest : List Char) :
    (v.followedBy rest).tokenList = tokens (v.text ++ trimRight rest) := by
  rw [tokenList, raw_followedBy nonempty]

theorem tokenList_starred : (v.followedBy ['*']).tokenList = tokens v.text ++ [['*']] := by
  have apart : ¬ Joined v.text ['*'] := by
    refine not_joined fun d head => ?_
    cases head
    decide
  rw [tokenList_followedBy nonempty, show trimRight ['*'] = ['*'] from rfl,
    Version.tokens_append v.known apart]
  rfl

/-- The bound stands for its tokens before the star: no stem starts with a star itself. -/
theorem wildcard_starred : (v.followedBy ['*']).wildcard = .leading (tokens v.text) := by
  have outer : innerText? (v.followedBy ['*']).raw.toList = none := by
    obtain ⟨c, cs, split⟩ := List.exists_cons_of_ne_nil nonempty
    have plain : Plain c := v.plain c (by rw [split]; exact List.mem_cons_self)
    rw [raw_followedBy nonempty, split, Option.eq_none_iff_forall_ne_some]
    intro inner read
    exact plain.ne_star (List.cons.inj (innerText?_eq_some_iff.1 read)).1
  have star : (v.followedBy ['*']).endsInStar = true := by
    rw [endsInStar, tokenList_starred nonempty, List.getLast?_append]
    rfl
  rw [wildcard, outer, star, body, star, tokenList_starred nonempty]
  exact congrArg Wildcard.leading List.dropLast_concat

end

end Stem

/-- White space at the end of a text joins nothing, so that trimming it makes no difference. -/
theorem joined_trimRight_iff {front rest : List Char} :
    Joined front (trimRight rest) ↔ Joined front rest := by
  have solid {c d : Char} (both : (c.isDigit = true ∧ d.isDigit = true) ∨
      (c.isAlpha = true ∧ d.isAlpha = true)) : isBlank d = false := by
    have plain : Plain d := both.elim (fun digit => .inl digit.2) fun alpha => .inr (.inl alpha.2)
    exact plain.not_blank
  constructor
  · rintro ⟨c, last, d, head, both⟩
    exact ⟨c, last, d, (mem_head_trimRight_iff (solid both)).1 head, both⟩
  · rintro ⟨c, last, d, head, both⟩
    exact ⟨c, last, d, (mem_head_trimRight_iff (solid both)).2 head, both⟩

/-- A star stops at the boundaries of tokens: the bound accepts a text that starts as it does,
unless there a digit follows a digit or a letter a letter. -/
theorem accepts_star_iff (v : Stem) (nonempty : v.text ≠ []) (rest : List Char) :
    (v.followedBy ['*']).accepts .equal (v.followedBy rest) = true ↔ ¬ Joined v.text rest := by
  rw [accepts, acceptsEqual, v.wildcard_starred nonempty, List.isPrefixOf_iff_prefix,
    v.tokenList_followedBy nonempty, tokens_prefix_append_iff v.known, joined_trimRight_iff]

/-- White space and characters of no version after the text, then a digit after its last one. -/
theorem accepts_star_of_junk :
    let v : Stem := ⟨"1.0_rc2".toList, plain_of_all rfl⟩
    v.text ≠ [] ∧
      (v.followedBy ['*']).accepts .equal (v.followedBy "-r3 \u00a0#é*".toList) = true ∧
      (v.followedBy ['*']).accepts .equal (v.followedBy "0".toList) = false := by
  intro v
  have nonempty : v.text ≠ [] := by decide
  have apart : ¬ Joined v.text "-r3 \u00a0#é*".toList := by
    refine not_joined fun d head => ?_
    cases head
    decide
  have joined : Joined v.text "0".toList := ⟨'2', rfl, '0', rfl, .inl ⟨rfl, rfl⟩⟩
  refine ⟨nonempty, (accepts_star_iff v nonempty _).2 apart, ?_⟩
  rw [Bool.eq_false_iff, ne_eq, accepts_star_iff v nonempty]
  exact fun apart => apart joined

end Ebuild.Version
