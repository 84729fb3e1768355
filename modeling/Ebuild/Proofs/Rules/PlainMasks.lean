import Ebuild.Proofs.Rules.Buckets
import Ebuild.Proofs.Rules.Collections
import Ebuild.Proofs.Rules.Keywords

/-!
# Plain masks from lines

A line of a mask file can add a plain mask, and a line with a dash of any rule file can take one
back. `mem_plain_foldl_iff` says that after some lines the last one to touch an entry decides, and
`withoutPlainMasks_foldl` that a line with a dash has no other effect.
-/

namespace Ebuild
open Text

/-! ### Lines -/

abbrev RuleLine := RuleFile × String

namespace RuleLine

/-- Whether a line adds the plain mask `entry`. -/
def Masks (line : RuleLine) (entry : String) : Prop :=
  line.1 = .masks .mask ∧ ruleText? line.2.toList = some entry.toList ∧
    entry.toList.head? ≠ some '-' ∧ entry.toList.any Glob.isWildcard = false ∧
    (Shape.basic? entry.toList).isSome = true

/-- The entry that a line takes back: what a mask or unmask line has after its dash, or the first
word of an accept-keywords line without its dash. -/
def takenBack? : RuleLine → Option String
  | (.masks _, line) =>
    match ruleText? line.toList with
    | some ('-' :: entry) => some (String.ofList (trim entry))
    | _ => none
  | (.acceptKeywords, line) =>
    match (ruleText? line.toList).map words with
    | some (('-' :: entry) :: _) => some (String.ofList entry)
    | _ => none

/-- Whether a line starts with a dash, its comment and the white space around it left out. -/
def Dashed (line : RuleLine) : Prop := ∃ rest, ruleText? line.2.toList = some ('-' :: rest)

/-- The lines that take something back are those with a dash, whichever file they are in. -/
theorem takenBack?_eq_none_iff {line : RuleLine} : line.takenBack? = none ↔ ¬ line.Dashed := by
  obtain ⟨file, line⟩ := line
  simp only [Dashed]
  cases text : ruleText? line.toList with
  | none => cases file <;> simp [takenBack?, text]
  | some whole =>
    cases file with
    | masks kind =>
      simp only [takenBack?, text]
      split
      · rename_i same
        simp [Option.some.inj same]
      · rename_i other
        simpa using other
    | acceptKeywords =>
      obtain ⟨subject, ws, cut, solid, start, -⟩ := splitKeywords_spec "" text
      obtain ⟨c, cs, rfl⟩ := List.exists_cons_of_ne_nil solid.1
      obtain ⟨rest, rfl⟩ := start
      simp only [takenBack?, text, Option.map_some, cut]
      split
      · rename_i same
        simp only [Option.some.injEq, List.cons.injEq] at same
        simp [same]
      · rename_i other
        have first : c ≠ '-' := by
          rintro rfl
          exact other cs ws rfl
        simp [first]

end RuleLine

variable [Glob.Engine]

theorem MaskRule.read_eq_plain_iff {text : List Char} {entry : String} :
    MaskRule.read text = .ok (.plain entry) ↔ String.ofList text = entry ∧
      text.any Glob.isWildcard = false ∧ (Shape.basic? text).isSome = true := by
  have asAtom : (MaskRule.atom <$> Atom.parse (String.ofList text)) ≠ .ok (.plain entry) := by
    cases Atom.parse (String.ofList text) <;> simp [Functor.map, Except.map]
  unfold MaskRule.read
  dsimp only
  split
  · rename_i wild
    simp [asAtom, wild]
  · rename_i literal
    rw [Bool.not_eq_true] at literal
    split
    · rename_i basic
      simp [literal, basic]
    · rename_i notBasic
      split
      · simp [notBasic]
      · simp [asAtom, notBasic]

/-- Accepting keywords neither masks anything nor takes a mask back. -/
theorem acceptKeywords_ne (subject : List Char) (allowed : String) :
    (∀ kind rule, Directive.acceptKeywords subject allowed ≠ .mask kind rule) ∧
      ∀ entry, Directive.acceptKeywords subject allowed ≠ .dropMask entry := by
  unfold Directive.acceptKeywords
  split
  · simp
  · split <;> simp

theorem ofMaskLine_of_dashed {kind : MaskKind} {line entry : List Char}
    (text : ruleText? line = some ('-' :: entry)) :
    Directive.ofMaskLine kind line = some (.dropMask (String.ofList (trim entry))) := by
  rw [Directive.ofMaskLine, text]
  rfl

theorem ofLine_eq_mask_plain_iff (arch : String) {line : RuleLine} {entry : String} :
    Directive.ofLine arch line.1 line.2 = some (.mask .mask (.plain entry)) ↔
      line.Masks entry := by
  obtain ⟨file, line⟩ := line
  simp only [RuleLine.Masks]
  cases file with
  | acceptKeywords =>
    simp only [Directive.ofLine, reduceCtorEq, false_and, iff_false]
    cases text : ruleText? line.toList with
    | none => simp [Directive.ofKeywordLine, text]
    | some whole =>
      obtain ⟨subject, ws, -, -, -, split⟩ := splitKeywords_spec arch text
      rw [ofKeywordLine_eq text split]
      split
      · simp
      · exact fun same => (acceptKeywords_ne _ _).1 _ _ (Option.some.inj same)
  | masks kind =>
    simp only [Directive.ofLine]
    cases text : ruleText? line.toList with
    | none => simp [Directive.ofMaskLine, text]
    | some whole =>
      by_cases dash : whole.head? = some '-'
      · obtain ⟨rest, rfl⟩ := List.head?_eq_some_iff.1 dash
        rw [ofMaskLine_of_dashed text]
        constructor
        · intro same
          cases same
        · rintro ⟨-, same, undashed, -⟩
          rw [← Option.some.inj same] at undashed
          exact absurd dash undashed
      · rw [ofMaskLine_of_undashed kind text dash]
        cases kind with
        | unmask =>
          simp only [RuleFile.masks.injEq, reduceCtorEq, false_and, iff_false, Option.some.injEq]
          unfold maskDirective
          split <;> simp
        | mask =>
          simp only [Option.some.injEq, true_and, maskDirective_eq_mask_iff,
            MaskRule.read_eq_plain_iff]
          constructor
          · rintro ⟨rfl, literal, basic⟩
            simp only [String.toList_ofList]
            exact ⟨trivial, dash, literal, basic⟩
          · rintro ⟨rfl, -, literal, basic⟩
            exact ⟨String.ofList_toList, literal, basic⟩

theorem ofLine_eq_dropMask_iff (arch : String) {line : RuleLine} {entry : String} :
    Directive.ofLine arch line.1 line.2 = some (.dropMask entry) ↔
      line.takenBack? = some entry := by
  obtain ⟨file, line⟩ := line
  cases file with
  | acceptKeywords =>
    simp only [Directive.ofLine, RuleLine.takenBack?]
    cases text : ruleText? line.toList with
    | none => simp [Directive.ofKeywordLine, text]
    | some whole =>
      obtain ⟨subject, ws, cut, -, -, split⟩ := splitKeywords_spec arch text
      rw [ofKeywordLine_eq text split, Option.map_some, cut]
      by_cases dash : subject.head? = some '-'
      · obtain ⟨rest, rfl⟩ := List.head?_eq_some_iff.1 dash
        simp
      · rw [if_neg dash]
        have other : ∀ rest, subject ≠ '-' :: rest := by
          rintro rest rfl
          exact dash rfl
        simp [(acceptKeywords_ne _ _).2, other]
  | masks kind =>
    simp only [Directive.ofLine, RuleLine.takenBack?]
    cases text : ruleText? line.toList with
    | none => simp [Directive.ofMaskLine, text]
    | some whole =>
      by_cases dash : whole.head? = some '-'
      · obtain ⟨rest, rfl⟩ := List.head?_eq_some_iff.1 dash
        simp [ofMaskLine_of_dashed text]
      · have other : ∀ rest, whole ≠ '-' :: rest := by
          rintro rest rfl
          exact dash rfl
        rw [ofMaskLine_of_undashed kind text dash]
        simp [maskDirective_ne_dropMask, other]

/-! ### After some lines -/

namespace RuleSet

def readLine (arch : String) (rules : RuleSet) (line : RuleLine) : RuleSet :=
  (Directive.ofLine arch line.1 line.2).elim rules rules.apply

theorem foldl_readLine (arch : String) (rules : RuleSet) (lines : List RuleLine) :
    lines.foldl (readLine arch) rules =
      (lines.filterMap fun line => Directive.ofLine arch line.1 line.2).foldl apply rules := by
  rw [List.foldl_filterMap]
  congr
  funext rules line
  rw [readLine]
  cases Directive.ofLine arch line.1 line.2 <;> rfl

theorem nodup_readLine (arch : String) {rules : RuleSet} (nodup : rules.masks.plain.Nodup)
    (line : RuleLine) : (rules.readLine arch line).masks.plain.Nodup := by
  unfold readLine
  cases Directive.ofLine arch line.1 line.2 with
  | none => exact nodup
  | some d => exact nodup_apply nodup d

theorem mem_plain_readLine (arch : String) {rules : RuleSet} (nodup : rules.masks.plain.Nodup)
    (line : RuleLine) (entry : String) :
    entry ∈ (rules.readLine arch line).masks.plain ↔
      line.Masks entry ∨ entry ∈ rules.masks.plain ∧ line.takenBack? ≠ some entry := by
  rw [← ofLine_eq_mask_plain_iff arch, ne_eq, ← ofLine_eq_dropMask_iff arch,
    readLine]
  cases Directive.ofLine arch line.1 line.2 with
  | none => simp
  | some d => simp [mem_plain_apply nodup]

/-- The last line to touch an entry decides whether it is a plain mask. -/
theorem mem_plain_foldl_iff (arch : String) {rules : RuleSet} (nodup : rules.masks.plain.Nodup)
    (lines : List RuleLine) (entry : String) :
    entry ∈ (lines.foldl (readLine arch) rules).masks.plain ↔
      (∃ before line after, lines = before ++ line :: after ∧ line.Masks entry ∧
        ∀ later ∈ after, later.takenBack? ≠ some entry) ∨
      entry ∈ rules.masks.plain ∧ ∀ line ∈ lines, line.takenBack? ≠ some entry := by
  induction lines generalizing rules with
  | nil => simp
  | cons first lines ih =>
    rw [List.foldl_cons, ih (nodup_readLine arch nodup first), mem_plain_readLine arch nodup,
      List.forall_mem_cons]
    constructor
    · rintro (⟨before, line, after, rfl, masks, kept⟩ | ⟨masks | ⟨mem, kept⟩, rest⟩)
      · exact .inl ⟨first :: before, line, after, rfl, masks, kept⟩
      · exact .inl ⟨[], first, lines, rfl, masks, rest⟩
      · exact .inr ⟨mem, kept, rest⟩
    · rintro (⟨before, line, after, split, masks, kept⟩ | ⟨mem, kept, rest⟩)
      · cases before with
        | nil =>
          cases split
          exact .inr ⟨.inl masks, kept⟩
        | cons _ before =>
          cases split
          exact .inl ⟨before, line, after, rfl, masks, kept⟩
      · exact .inr ⟨.inr ⟨mem, kept⟩, rest⟩

/-- Lines that take something back change nothing but plain masks. -/
theorem withoutPlainMasks_foldl (arch : String) {rules others : RuleSet}
    (same : rules.withoutPlainMasks = others.withoutPlainMasks) (lines : List RuleLine) :
    (lines.foldl (readLine arch) rules).withoutPlainMasks =
      ((lines.filter (·.takenBack?.isNone)).foldl (readLine arch) others).withoutPlainMasks := by
  induction lines generalizing rules others with
  | nil => exact same
  | cons line lines ih =>
    rw [List.foldl_cons, List.filter_cons]
    cases taken : line.takenBack? with
    | some entry =>
      refine ih ?_
      rw [readLine, (ofLine_eq_dropMask_iff arch).2 taken, Option.elim_some,
        withoutPlainMasks_dropMask, same]
    | none =>
      refine ih ?_
      unfold readLine
      cases Directive.ofLine arch line.1 line.2 with
      | none => exact same
      | some d =>
        rw [Option.elim_some, Option.elim_some, withoutPlainMasks_apply, same,
          ← withoutPlainMasks_apply]

end RuleSet

end Ebuild
