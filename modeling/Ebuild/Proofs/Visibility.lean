import Mathlib.Data.List.Basic
import Ebuild.Proofs.Rules.Keywords

/-!
# Visibility from the lines of the rules

`visibility_eq_union` splits what hides a package into a mask, on which only the mask and unmask
rules have a say, and its keywords, on which only the accept-keywords lines and the keywords
accepted everywhere have one. In the second part the order of the lines does not matter.
-/

namespace Ebuild
open Text

/-- The rules after some lines and then maybe a list of keywords accepted everywhere. -/
def rulesOf [Glob.Engine] (arch : String) (lines : List (RuleFile × String))
    (everywhere : Option (List String)) : RuleSet :=
  let steps := lines.map (fun (file, text) => Step.line file text)
  (Loader.run { arch } (steps ++ everywhere.toList.map Step.acceptAll)).rules

def directivesOf [Glob.Engine] (arch : String) (lines : List (RuleFile × String))
    (everywhere : Option (List String)) : List Directive :=
  (lines.filterMap fun line => Directive.ofLine arch line.1 line.2) ++
    everywhere.toList.filterMap Directive.ofKeywords

theorem rulesOf_eq_foldl [Glob.Engine] (arch : String) (lines : List (RuleFile × String))
    (everywhere : Option (List String)) :
    rulesOf arch lines everywhere =
      (directivesOf arch lines everywhere).foldl RuleSet.apply {} := by
  rw [rulesOf, directivesOf, Loader.rules_run, List.filterMap_append, List.filterMap_map,
    List.filterMap_map]
  rfl

/-- Whether the keywords of a package, a line or a keyword accepted everywhere admits it. -/
def Admitted [Glob.Engine] (arch : String) (lines : List (RuleFile × String))
    (everywhere : Option (List String)) (query : String) (p : Package) : Prop :=
  query ∈ p.keywordList ∨
    (∃ line, (.acceptKeywords, line) ∈ lines ∧ LineAdmits arch line p) ∨
      ∃ ws ∈ everywhere, ∃ word ∈ ws, Keywords.Admits p.keywordList word

theorem not_admits_ofMaskLine [Glob.Engine] {kind : MaskKind} {line : List Char} {d : Directive}
    (read : Directive.ofMaskLine kind line = some d) (query : String) (p : Package) :
    ¬ d.Admits query p := by
  obtain ⟨entry, -, rfl⟩ := Option.map_eq_some_iff.1 read
  split
  · exact id
  · split
    · exact id
    · exact id

theorem eq_acceptAll_of_ofKeywords {keywords : List String} {d : Directive}
    (read : Directive.ofKeywords keywords = some d) : ∃ allowed, d = .acceptAll allowed := by
  unfold Directive.ofKeywords at read
  split at read
  · cases read
  · exact ⟨_, (Option.some.inj read).symm⟩

/-- A list of keywords asks for one directive or, if it is empty, for none. -/
theorem exists_acceptAll (everywhere : Option (List String)) :
    ∃ allowed : Option String, everywhere.toList.filterMap Directive.ofKeywords =
      allowed.toList.map Directive.acceptAll := by
  cases everywhere with
  | none => exact ⟨none, rfl⟩
  | some keywords =>
    rw [Option.toList_some]
    cases read : Directive.ofKeywords keywords with
    | none => exact ⟨none, List.filterMap_cons_none read⟩
    | some d =>
      obtain ⟨allowed, rfl⟩ := eq_acceptAll_of_ofKeywords read
      exact ⟨some allowed, List.filterMap_cons_some read⟩

theorem admits_ofKeywords_iff {ws : List String} (solid : ∀ word ∈ ws, Solid word.toList)
    (query : String) (p : Package) :
    (∃ d, Directive.ofKeywords ws = some d ∧ d.Admits query p) ↔
      ∃ word ∈ ws, Keywords.Admits p.keywordList word := by
  unfold Directive.ofKeywords
  split
  · rename_i empty
    simp [List.isEmpty_iff.1 empty]
  · rename_i nonempty
    rw [List.isEmpty_iff] at nonempty
    rw [← Keywords.accepts_iff query p.keyword_nonempty (wordList_intercalate solid) nonempty]
    constructor
    · rintro ⟨d, same, admits⟩
      cases same
      exact admits
    · exact fun admits => ⟨_, rfl, admits⟩

theorem accepting_rulesOf_iff [Glob.Engine] {arch : String}
    (narrow : ∀ c ∈ arch.toList, isBlank c = false)
    (lines : List (RuleFile × String)) {everywhere : Option (List String)}
    (solid : ∀ ws ∈ everywhere, ∀ word ∈ ws, Solid word.toList) (query : String) (p : Package) :
    ((rulesOf arch lines everywhere).accepting? query p).isSome = true ↔
      (∃ line, (.acceptKeywords, line) ∈ lines ∧ LineAdmits arch line p) ∨
        ∃ ws ∈ everywhere, ∃ word ∈ ws, Keywords.Admits p.keywordList word := by
  have fresh : (({ arch } : Loader).rules.accepting? query p).isSome = false :=
    RuleSet.accepting?_empty query p
  rw [rulesOf, Loader.rules_run, RuleSet.accepting?_foldl, fresh, List.filterMap_append]
  constructor
  · rintro (absent | ⟨d, mem, admits⟩)
    · cases absent
    · rw [List.mem_append, List.mem_filterMap, List.mem_filterMap] at mem
      rcases mem with ⟨s, inLines, read⟩ | ⟨s, inWords, read⟩
      · obtain ⟨⟨file, text⟩, mem, rfl⟩ := List.mem_map.1 inLines
        cases file with
        | masks kind => exact absurd admits (not_admits_ofMaskLine read query p)
        | acceptKeywords =>
          have admits := (admits_ofKeywordLine_iff narrow text query p).1 ⟨d, read, admits⟩
          exact .inl ⟨text, mem, admits⟩
      · obtain ⟨ws, inList, rfl⟩ := List.mem_map.1 inWords
        have mem := Option.mem_toList.1 inList
        exact .inr ⟨ws, mem, (admits_ofKeywords_iff (solid ws mem) query p).1 ⟨d, read, admits⟩⟩
  · rintro (⟨line, mem, admits⟩ | ⟨ws, mem, admits⟩)
    · obtain ⟨d, read, admits⟩ := (admits_ofKeywordLine_iff narrow line query p).2 admits
      refine .inr ⟨d, List.mem_append_left _ ?_, admits⟩
      exact List.mem_filterMap.2 ⟨.line .acceptKeywords line, List.mem_map.2 ⟨_, mem, rfl⟩, read⟩
    · obtain ⟨d, read, admits⟩ := (admits_ofKeywords_iff (solid ws mem) query p).2 admits
      refine .inr ⟨d, List.mem_append_right _ ?_, admits⟩
      exact List.mem_filterMap.2
        ⟨.acceptAll ws, List.mem_map.2 ⟨ws, Option.mem_toList.2 mem, rfl⟩, read⟩

theorem refusal_ne_none (query : String) (keywords : List String) :
    Keywords.refusal query keywords ≠ .none := by
  unfold Keywords.refusal
  split
  · decide
  · split <;> decide

/-- What hides a package is a mask and its keywords, each by rules of its own. -/
theorem visibility_eq_union [Glob.Engine] {arch : String}
    (narrow : ∀ c ∈ arch.toList, isBlank c = false)
    (lines : List (RuleFile × String)) {everywhere : Option (List String)}
    (solid : ∀ ws ∈ everywhere, ∀ word ∈ ws, Solid word.toList) (query : String) (p : Package) :
    let rules := rulesOf arch lines everywhere
    ∃ hard keyword : MaskFlags, rules.visibility query p = hard ∪ keyword ∧
      hard = (if rules.masks? p = true ∧ rules.unmasks? p = false then .hard else .none) ∧
      (keyword = .none ↔ Admitted arch lines everywhere query p) ∧
      (keyword ≠ .none → keyword =
        if "~" ++ query ∈ p.keywordList then .testing
        else if "-" ++ query ∈ p.keywordList ∨ "-*" ∈ p.keywordList then .broken
        else .unsupported) := by
  intro rules
  have accepting := accepting_rulesOf_iff narrow lines solid query p
  have spelled : Keywords.refusal query p.keywordList =
      if "~" ++ query ∈ p.keywordList then .testing
      else if "-" ++ query ∈ p.keywordList ∨ "-*" ∈ p.keywordList then .broken
      else .unsupported := by
    simp only [Keywords.refusal, List.contains_iff_mem, Bool.or_eq_true]
  refine ⟨if rules.isHardMasked p then .hard else .none, rules.keywordFlags query p, rfl, ?_⟩
  have admitted : (p.keywordList.contains query || (rules.accepting? query p).isSome) = true ↔
      Admitted arch lines everywhere query p := by
    rw [Bool.or_eq_true, List.contains_iff_mem, accepting, Admitted]
  rw [RuleSet.keywordFlags, ← admitted, ← spelled]
  refine ⟨?_, ?_, ?_⟩
  · simp only [RuleSet.isHardMasked, Bool.and_eq_true, Bool.not_eq_true']
  · split
    · rename_i holds
      exact iff_of_true rfl holds
    · rename_i fails
      exact iff_of_false (refusal_ne_none _ _) fails
  · split
    · exact fun differs => absurd rfl differs
    · exact fun _ => rfl

theorem visibility_of_masked_and_accepted :
    (∀ c ∈ "amd64".toList, isBlank c = false) ∧
      (∀ ws ∈ some ["~x86"], ∀ word ∈ ws, Solid word.toList) ∧
      (rulesOf "amd64" [(.masks .mask, "app-misc/foo"), (.acceptKeywords, "app-misc/foo ~arm # go")]
        (some ["~x86"])).visibility "amd64"
          (.withKeywords (.ofParts "app-misc" "foo" "1.0") "~arm -amd64") = .hard := by
  let p := Package.withKeywords (.ofParts "app-misc" "foo" "1.0") "~arm -amd64"
  have solid_of_all {cs : List Char} (nonempty : cs ≠ []) (all : cs.all (!isBlank ·) = true) :
      Solid cs :=
    ⟨nonempty, fun c mem => by simpa using List.all_eq_true.1 all c mem⟩
  have narrow : ∀ c ∈ "amd64".toList, isBlank c = false :=
    (solid_of_all (by decide) (by decide)).2
  have solid : ∀ ws ∈ some ["~x86"], ∀ word ∈ ws, Solid word.toList := by
    rintro ws ⟨⟩ word mem
    rw [List.mem_singleton.1 mem]
    exact solid_of_all (by decide) (by decide)
  obtain ⟨hard, keyword, split, masked, admitted, -⟩ := visibility_eq_union narrow
    [(.masks .mask, "app-misc/foo"), (.acceptKeywords, "app-misc/foo ~arm # go")] solid "amd64" p
  have atom : Atom.parse "app-misc/foo" =
      .ok ⟨"app-misc/foo", .exact "app-misc", .exact "foo", .basic⟩ := by decide +kernel
  have accepted : LineAdmits "amd64" "app-misc/foo ~arm # go" p :=
    ⟨"app-misc/foo ~arm".toList, "app-misc/foo".toList, ["~arm".toList], by decide +kernel,
      by decide +kernel, by decide +kernel, ⟨_, atom, by decide +kernel⟩, "~arm", by decide +kernel,
      by decide +kernel⟩
  refine ⟨narrow, solid, ?_⟩
  rw [split, masked, admitted.2 (.inr (.inl ⟨_, by simp, accepted⟩))]
  decide +kernel

end Ebuild
