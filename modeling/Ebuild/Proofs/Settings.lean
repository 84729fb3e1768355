import Ebuild.Proofs.Atom.Spelling
import Ebuild.Proofs.Rules.Keywords
import Ebuild.Settings

/-!
# Keywords in settings

Keywords accepted for every package are stored as one text and read back word by word.
`keywords_survive_iff_valid` says that the checks refuse exactly the lists which would come back
changed, and that a list they let pass accepts what its keywords accept one by one.
-/

namespace Ebuild
open Text

namespace Settings

theorem checkKeywords_eq_ok_iff {keywords : List String} :
    checkKeywords keywords = .ok () ↔ ∀ keyword ∈ keywords, Solid keyword.toList := by
  induction keywords with
  | nil => simp [checkKeywords]
  | cons keyword rest ih =>
    rw [List.forall_mem_cons, ← ih, checkKeywords]
    by_cases refused : (keyword = "" || hasBlank keyword) = true
    · rw [if_pos refused]
      refine iff_of_false (by simp) fun passed => ?_
      obtain ⟨⟨nonempty, solid⟩, -⟩ := passed
      rw [Bool.or_eq_true, decide_eq_true_eq, hasBlank, List.any_eq_true] at refused
      obtain rfl | ⟨c, mem, blank⟩ := refused
      · exact nonempty rfl
      · rw [solid c mem] at blank
        cases blank
    · rw [if_neg refused]
      rw [Bool.or_eq_true, decide_eq_true_eq, not_or, hasBlank, List.any_eq_true] at refused
      obtain ⟨nonempty, solid⟩ := refused
      have isWord : Solid keyword.toList := by
        refine ⟨fun empty => nonempty (String.toList_inj.1 empty), fun c mem => ?_⟩
        rw [← Bool.not_eq_true]
        exact fun blank => solid ⟨c, mem, blank⟩
      exact (and_iff_right isWord).symm

theorem validate_eq_ok_iff {s : Settings} :
    s.validate = .ok () ↔ checkArch s.arch = .ok () ∧
      (∀ keyword ∈ s.acceptKeywords, Solid keyword.toList) ∧
      s.configRoot ≠ "" ∧ s.profile ≠ some "" := by
  rw [← checkKeywords_eq_ok_iff]
  unfold validate
  simp only [bind_eq_ok_iff, Unique.exists_iff, PUnit.default_eq_unit]
  refine and_congr_right fun _ => and_congr_right fun _ => ?_
  by_cases root : s.configRoot = ""
  · simp [root]
  · by_cases profile : s.profile = some "" <;> simp [root, profile]

end Settings

namespace Keywords

/-- Words accept together what they accept one by one. -/
theorem accepts_intercalate_iff (arch : String) {ws : List String}
    (solid : ∀ w ∈ ws, Solid w.toList) (some_word : ws ≠ []) (keywords : List String) :
    accepts arch (" ".intercalate ws) keywords = true ↔
      ∃ w ∈ ws, accepts arch w keywords = true := by
  rw [accepts_eq_any arch (wordList_intercalate solid) some_word, List.any_eq_true]
  refine exists_congr fun w => and_congr_right fun mem => ?_
  have alone : wordList w = [w] := by
    have only : ∀ v ∈ [w], Solid v.toList := List.forall_mem_singleton.2 (solid w mem)
    rw [← wordList_intercalate only, String.intercalate_singleton]
  rw [accepts_eq_any arch alone (List.cons_ne_nil w []), List.any_cons, List.any_nil, Bool.or_false]

end Keywords

/-- A list of keywords that are not empty is stored as one rule. -/
theorem Loader.rules_acceptAll [Glob.Engine] (loader : Loader) {keywords : List String}
    (nonempty : keywords ≠ []) :
    (loader.acceptAll keywords).rules =
      loader.rules.apply (.acceptAll (" ".intercalate keywords)) := by
  have directive : (Step.acceptAll keywords).directive? loader.arch =
      some (.acceptAll (" ".intercalate keywords)) := by
    rw [Step.directive?, Directive.ofKeywords, if_neg (by simpa using nonempty)]
  rw [acceptAll, (loader.step_spec _).2, directive, Option.elim_some]

/-- Settings whose other fields are valid are valid exactly if their keywords come back as they were
from the rule that stores them. That rule then names every package and accepts what some keyword
alone would accept. -/
theorem keywords_survive_iff_valid [Glob.Engine] (s : Settings) (loader : Loader)
    (others : ({ s with acceptKeywords := [] } : Settings).validate = .ok ())
    (nonempty : s.acceptKeywords ≠ []) :
    ∃ rule : KeywordRule Atom,
      (loader.acceptAll s.acceptKeywords).rules =
        { loader.rules with atomKeywords := loader.rules.atomKeywords.push rule } ∧
      (wordList rule.allowed = s.acceptKeywords ↔ s.validate = .ok ()) ∧
      (s.validate = .ok () →
        (∀ p, rule.subject.acceptsPackage p = true) ∧
        (∀ query keywords, Keywords.accepts query rule.allowed keywords = true ↔
          ∃ keyword ∈ s.acceptKeywords, Keywords.accepts query keyword keywords = true) ∧
        ∀ query p, ((loader.acceptAll s.acceptKeywords).rules.accepting? query p).isSome = true ↔
          ∃ keyword ∈ s.acceptKeywords,
            ((loader.acceptAll [keyword]).rules.accepting? query p).isSome = true) := by
  have valid : s.validate = .ok () ↔ ∀ keyword ∈ s.acceptKeywords, Solid keyword.toList := by
    obtain ⟨arch, -, root, profile⟩ := Settings.validate_eq_ok_iff.1 others
    rw [Settings.validate_eq_ok_iff]
    exact ⟨fun all => all.2.1, fun solid => ⟨arch, solid, root, profile⟩⟩
  refine ⟨⟨RuleSet.everyPackage, " ".intercalate s.acceptKeywords⟩,
    loader.rules_acceptAll nonempty, wordList_intercalate_iff.trans valid.symm, fun passed => ?_⟩
  have solid := valid.1 passed
  have together (query : String) := Keywords.accepts_intercalate_iff query solid nonempty
  refine ⟨fun p => rfl, together, fun query p => ?_⟩
  have alone (keyword : String) :
      ((loader.acceptAll [keyword]).rules.accepting? query p).isSome = true ↔
        (loader.rules.accepting? query p).isSome = true ∨
          Keywords.accepts query keyword p.keywordList = true := by
    rw [loader.rules_acceptAll (List.cons_ne_nil keyword []), RuleSet.accepting?_apply,
      String.intercalate_singleton]
    rfl
  simp only [alone, and_or_left, exists_or]
  rw [loader.rules_acceptAll nonempty, RuleSet.accepting?_apply]
  refine or_congr ?_ (together query p.keywordList)
  obtain ⟨keyword, mem⟩ := List.exists_mem_of_ne_nil _ nonempty
  exact ⟨fun before => ⟨keyword, mem, before⟩, fun ⟨_, _, before⟩ => before⟩

theorem keywords_survive_of_two :
    let s : Settings := { acceptKeywords := ["~arm", "**"] }
    let loader : Loader := { arch := "amd64" }
    ({ s with acceptKeywords := [] } : Settings).validate = .ok () ∧ s.acceptKeywords ≠ [] ∧
      s.validate = .ok () ∧
      ∃ rule : KeywordRule Atom,
        (loader.acceptAll s.acceptKeywords).rules.atomKeywords = #[rule] ∧
        wordList rule.allowed = ["~arm", "**"] ∧
        Keywords.accepts "amd64" rule.allowed ["x86"] = true := by
  intro s loader
  have others : ({ s with acceptKeywords := [] } : Settings).validate = .ok () := by decide +kernel
  have nonempty : s.acceptKeywords ≠ [] := by decide
  have valid : s.validate = .ok () := by decide +kernel
  obtain ⟨rule, stored, kept, accepts⟩ := keywords_survive_iff_valid s loader others nonempty
  refine ⟨others, nonempty, valid, rule, ?_, kept.2 valid, ?_⟩
  · rw [stored]
    rfl
  · exact ((accepts valid).2.1 "amd64" ["x86"]).2 ⟨"**", by decide, by decide +kernel⟩

end Ebuild
