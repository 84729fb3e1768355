import Ebuild.Proofs.Rules.PlainMasks
import Ebuild.Proofs.Visibility

/-!
# Visibility and sets of lines

With no line that takes something back, the flags of a package depend on which lines there are and
not on their order or how often each stands there. `visibility_of_line_sets` says this and in which
direction further lines of each kind of file move the flags.
-/

namespace Ebuild

namespace MaskFlags

theorem union_def (a b : MaskFlags) : a ∪ b = ⟨a.bits ||| b.bits⟩ := rfl

theorem union_right_comm (a b c : MaskFlags) : a ∪ b ∪ c = a ∪ c ∪ b := by
  simp only [union_def, UInt8.or_assoc, UInt8.or_comm b.bits]

theorem union_none (a : MaskFlags) : a ∪ none = a := by
  simp [union_def, none]

theorem none_union (a : MaskFlags) : none ∪ a = a := by
  simp [union_def, none]

end MaskFlags

/-! ### What one line does -/

namespace RuleLine

variable [Glob.Engine]

/-- Whether the rule of a line masks or unmasks a package. -/
def Hits (arch : String) (line : RuleLine) (kind : MaskKind) (p : Package) : Prop :=
  ∃ rule, Directive.ofLine arch line.1 line.2 = some (.mask kind rule) ∧ rule.names p = true

/-- Whether the rule of a line admits a package. -/
def Admits (arch : String) (line : RuleLine) (query : String) (p : Package) : Prop :=
  ∃ d, Directive.ofLine arch line.1 line.2 = some d ∧ d.Admits query p

theorem file_of_hits {arch : String} {line : RuleLine} {kind : MaskKind} {p : Package}
    (hits : line.Hits arch kind p) : line.1 = .masks kind := by
  obtain ⟨file, text⟩ := line
  obtain ⟨rule, read, -⟩ := hits
  cases file with
  | masks other =>
    obtain ⟨entry, -, same⟩ := Option.map_eq_some_iff.1 read
    split at same
    · cases same
    · split at same
      · cases same
        rfl
      · cases same
  | acceptKeywords =>
    obtain ⟨entry, -, same⟩ := Option.map_eq_some_iff.1 read
    dsimp only at same
    split at same
    · cases same
    · exact ((acceptKeywords_ne _ _).1 _ _ same).elim

theorem file_of_admits {arch query : String} {line : RuleLine} {p : Package}
    (admits : line.Admits arch query p) : line.1 = .acceptKeywords := by
  obtain ⟨file, text⟩ := line
  obtain ⟨d, read, admits⟩ := admits
  cases file with
  | masks kind => exact absurd admits (not_admits_ofMaskLine read query p)
  | acceptKeywords => rfl

end RuleLine

/-! ### What lines do together -/

section
variable [Glob.Engine] {arch : String} {lines : List RuleLine} {everywhere : Option (List String)}

theorem mem_directivesOf_iff {d : Directive} :
    d ∈ directivesOf arch lines everywhere ↔
      (∃ line ∈ lines, Directive.ofLine arch line.1 line.2 = some d) ∨
        ∃ ws ∈ everywhere, Directive.ofKeywords ws = some d := by
  simp [directivesOf]

/-- Keywords accepted everywhere bring no mask and take none back. -/
theorem exists_line_of_mem_directivesOf {d : Directive} (other : ∀ allowed, d ≠ .acceptAll allowed)
    (mem : d ∈ directivesOf arch lines everywhere) :
    ∃ line ∈ lines, Directive.ofLine arch line.1 line.2 = some d := by
  refine (mem_directivesOf_iff.1 mem).resolve_right ?_
  rintro ⟨ws, -, read⟩
  obtain ⟨allowed, same⟩ := eq_acceptAll_of_ofKeywords read
  exact other allowed same

theorem hits_rulesOf_iff (undashed : ∀ line ∈ lines, ¬ line.Dashed) (kind : MaskKind)
    (p : Package) :
    (rulesOf arch lines everywhere).hits kind p = true ↔
      ∃ line ∈ lines, RuleLine.Hits arch line kind p := by
  have kept : ∀ entry, .dropMask entry ∉ directivesOf arch lines everywhere := by
    intro entry mem
    obtain ⟨line, inLines, read⟩ := exists_line_of_mem_directivesOf (by simp) mem
    have taken := (ofLine_eq_dropMask_iff arch).1 read
    rw [RuleLine.takenBack?_eq_none_iff.2 (undashed line inLines)] at taken
    cases taken
  have fresh : ({} : RuleSet).hits kind p = false := RuleSet.hits_empty kind p
  rw [rulesOf_eq_foldl, RuleSet.hits_foldl _ kept, fresh]
  constructor
  · rintro (absent | ⟨d, mem, rule, rfl, names⟩)
    · cases absent
    · obtain ⟨line, inLines, read⟩ := exists_line_of_mem_directivesOf (by simp) mem
      exact ⟨line, inLines, rule, read, names⟩
  · rintro ⟨line, inLines, rule, read, names⟩
    exact .inr ⟨_, mem_directivesOf_iff.2 (.inl ⟨line, inLines, read⟩), rule, rfl, names⟩

theorem accepting_rulesOf_iff_exists (query : String) (p : Package) :
    ((rulesOf arch lines everywhere).accepting? query p).isSome = true ↔
      (∃ line ∈ lines, RuleLine.Admits arch line query p) ∨
        ∃ ws ∈ everywhere, ∃ d, Directive.ofKeywords ws = some d ∧ d.Admits query p := by
  have fresh : (({} : RuleSet).accepting? query p).isSome = false :=
    RuleSet.accepting?_empty query p
  rw [rulesOf_eq_foldl, RuleSet.accepting?_foldl, fresh]
  constructor
  · rintro (absent | ⟨d, mem, admits⟩)
    · cases absent
    · rcases mem_directivesOf_iff.1 mem with ⟨line, inLines, read⟩ | ⟨ws, inList, read⟩
      · exact .inl ⟨line, inLines, d, read, admits⟩
      · exact .inr ⟨ws, inList, d, read, admits⟩
  · rintro (⟨line, inLines, d, read, admits⟩ | ⟨ws, inList, d, read, admits⟩)
    · exact .inr ⟨d, mem_directivesOf_iff.2 (.inl ⟨line, inLines, read⟩), admits⟩
    · exact .inr ⟨d, mem_directivesOf_iff.2 (.inr ⟨ws, inList, read⟩), admits⟩

end

/-! ### Flags -/

namespace RuleSet

variable {rules more : RuleSet} {query : String} {p : Package}

theorem isHardMasked_iff :
    rules.isHardMasked p = true ↔ rules.hits .mask p = true ∧ ¬ rules.hits .unmask p = true := by
  simp [isHardMasked, hits]

theorem keywordFlags_congr
    (accepting : (rules.accepting? query p).isSome = (more.accepting? query p).isSome) :
    rules.keywordFlags query p = more.keywordFlags query p := by
  rw [keywordFlags, keywordFlags, accepting]

/-- Rules that can only mask more packages can only set the flag of a hard mask. -/
theorem visibility_of_hard_mono (masked : rules.isHardMasked p = true → more.isHardMasked p = true)
    (keyword : rules.keywordFlags query p = more.keywordFlags query p) :
    more.visibility query p = rules.visibility query p ∨
      more.visibility query p = rules.visibility query p ∪ .hard := by
  rw [visibility, visibility, keyword]
  cases before : rules.isHardMasked p with
  | true => exact .inl (by rw [masked before])
  | false =>
    cases more.isHardMasked p with
    | false => exact .inl rfl
    | true =>
      right
      rw [MaskFlags.union_right_comm]
      simp [MaskFlags.none_union]

theorem refusal_mem (query : String) (keywords : List String) :
    Keywords.refusal query keywords ∈ [MaskFlags.testing, .unsupported, .broken] := by
  unfold Keywords.refusal
  split
  · simp
  · split <;> simp

/-- Rules that can only accept more packages can only clear the flag of the keywords. -/
theorem visibility_of_accepting_mono (masked : rules.isHardMasked p = more.isHardMasked p)
    (accepting : (rules.accepting? query p).isSome = true →
      (more.accepting? query p).isSome = true) :
    ∃ keyword ∈ [MaskFlags.testing, .unsupported, .broken],
      rules.visibility query p = more.visibility query p ∨
        rules.visibility query p = more.visibility query p ∪ keyword := by
  refine ⟨_, refusal_mem query p.keywordList, ?_⟩
  rw [visibility, visibility, masked]
  unfold keywordFlags
  cases stable : p.keywordList.contains query with
  | true => exact .inl (by simp)
  | false =>
    cases before : (rules.accepting? query p).isSome with
    | true => exact .inl (by simp [accepting before])
    | false =>
      cases (more.accepting? query p).isSome with
      | true => exact .inr (by simp [MaskFlags.union_none])
      | false => exact .inl (by simp)

end RuleSet

/-! ### Sets of lines -/

section
variable [Glob.Engine] {arch : String} {lines others : List RuleLine}
  {everywhere : Option (List String)} {query : String} {p : Package}

theorem hits_congr (undashed : ∀ line ∈ lines, ¬ line.Dashed)
    (undashed' : ∀ line ∈ others, ¬ line.Dashed) (kind : MaskKind)
    (same : ∀ line : RuleLine, line.1 = .masks kind → (line ∈ lines ↔ line ∈ others)) :
    (rulesOf arch lines everywhere).hits kind p = (rulesOf arch others everywhere).hits kind p := by
  rw [Bool.eq_iff_iff, hits_rulesOf_iff undashed, hits_rulesOf_iff undashed']
  refine exists_congr fun line => and_congr_left fun hits => ?_
  exact same line (RuleLine.file_of_hits hits)

theorem hits_mono (undashed : ∀ line ∈ others, ¬ line.Dashed) (sub : lines ⊆ others)
    {kind : MaskKind} (hits : (rulesOf arch lines everywhere).hits kind p = true) :
    (rulesOf arch others everywhere).hits kind p = true := by
  rw [hits_rulesOf_iff fun line mem => undashed line (sub mem)] at hits
  rw [hits_rulesOf_iff undashed]
  obtain ⟨line, mem, hits⟩ := hits
  exact ⟨line, sub mem, hits⟩

theorem accepting_congr
    (same : ∀ line : RuleLine, line.1 = .acceptKeywords → (line ∈ lines ↔ line ∈ others)) :
    ((rulesOf arch lines everywhere).accepting? query p).isSome =
      ((rulesOf arch others everywhere).accepting? query p).isSome := by
  rw [Bool.eq_iff_iff, accepting_rulesOf_iff_exists, accepting_rulesOf_iff_exists]
  refine or_congr_left (exists_congr fun line => and_congr_left fun admits => ?_)
  exact same line (RuleLine.file_of_admits admits)

theorem accepting_mono (sub : lines ⊆ others)
    (accepting : ((rulesOf arch lines everywhere).accepting? query p).isSome = true) :
    ((rulesOf arch others everywhere).accepting? query p).isSome = true := by
  rw [accepting_rulesOf_iff_exists] at accepting ⊢
  refine accepting.imp_left ?_
  rintro ⟨line, mem, admits⟩
  exact ⟨line, sub mem, admits⟩

omit [Glob.Engine] in
theorem mem_append_iff_of_file {more : List RuleLine} {file : RuleFile}
    (kind : ∀ line ∈ more, line.1 = file) {line : RuleLine} (other : line.1 ≠ file) :
    line ∈ lines ↔ line ∈ lines ++ more := by
  rw [List.mem_append]
  exact (or_iff_left fun mem => other (kind line mem)).symm

end

/-- With no line that takes something back, the flags of a package depend on the set of lines, not
on their order or number. Further lines of mask files can only set the flag of a hard mask, those of
unmask files only clear it, and those of accept-keywords files only clear the flag of the keywords;
no other flag changes. -/
theorem visibility_of_line_sets [Glob.Engine] (arch : String) (lines more : List RuleLine)
    (undashed : ∀ line ∈ lines ++ more, ¬ line.Dashed) (everywhere : Option (List String))
    (query : String) (p : Package) :
    let flags (lines : List RuleLine) := (rulesOf arch lines everywhere).visibility query p
    (∀ others : List RuleLine, (∀ line, line ∈ others ↔ line ∈ lines) →
      flags others = flags lines) ∧
    ((∀ line ∈ more, line.1 = .masks .mask) →
      flags (lines ++ more) = flags lines ∨ flags (lines ++ more) = flags lines ∪ .hard) ∧
    ((∀ line ∈ more, line.1 = .masks .unmask) →
      flags lines = flags (lines ++ more) ∨ flags lines = flags (lines ++ more) ∪ .hard) ∧
    ((∀ line ∈ more, line.1 = .acceptKeywords) →
      ∃ keyword ∈ [MaskFlags.testing, .unsupported, .broken],
        flags lines = flags (lines ++ more) ∨ flags lines = flags (lines ++ more) ∪ keyword) := by
  intro flags
  have before : ∀ line ∈ lines, ¬ line.Dashed := fun line mem =>
    undashed line (List.mem_append_left _ mem)
  have sub : lines ⊆ lines ++ more := List.subset_append_left lines more
  refine ⟨fun others same => ?_, fun masks => ?_, fun unmasks => ?_, fun accepts => ?_⟩
  · have undashed' : ∀ line ∈ others, ¬ line.Dashed := fun line mem =>
      before line ((same line).1 mem)
    have hits (kind : MaskKind) : (rulesOf arch others everywhere).hits kind p =
        (rulesOf arch lines everywhere).hits kind p :=
      hits_congr undashed' before kind fun line _ => same line
    have masked : (rulesOf arch others everywhere).isHardMasked p =
        (rulesOf arch lines everywhere).isHardMasked p := by
      rw [Bool.eq_iff_iff, RuleSet.isHardMasked_iff, RuleSet.isHardMasked_iff, hits, hits]
    have accepting : ((rulesOf arch others everywhere).accepting? query p).isSome =
        ((rulesOf arch lines everywhere).accepting? query p).isSome :=
      accepting_congr fun line _ => same line
    simp only [flags, RuleSet.visibility, masked, RuleSet.keywordFlags_congr accepting]
  · refine RuleSet.visibility_of_hard_mono ?_ (RuleSet.keywordFlags_congr
      (accepting_congr fun line file => mem_append_iff_of_file masks (by simp [file])))
    rw [RuleSet.isHardMasked_iff, RuleSet.isHardMasked_iff,
      ← hits_congr before undashed .unmask
        fun line file => mem_append_iff_of_file masks (by simp [file])]
    exact fun masked => ⟨hits_mono undashed sub masked.1, masked.2⟩
  · refine RuleSet.visibility_of_hard_mono ?_ (RuleSet.keywordFlags_congr
      (accepting_congr fun line file => (mem_append_iff_of_file unmasks (by simp [file])).symm))
    rw [RuleSet.isHardMasked_iff, RuleSet.isHardMasked_iff,
      ← hits_congr before undashed .mask
        fun line file => mem_append_iff_of_file unmasks (by simp [file])]
    exact fun masked => ⟨masked.1, fun unmasked => masked.2 (hits_mono undashed sub unmasked)⟩
  · refine RuleSet.visibility_of_accepting_mono ?_ (accepting_mono sub)
    have hits (kind : MaskKind) : (rulesOf arch lines everywhere).hits kind p =
        (rulesOf arch (lines ++ more) everywhere).hits kind p :=
      hits_congr before undashed kind fun line file =>
        mem_append_iff_of_file accepts (by simp [file])
    rw [Bool.eq_iff_iff, RuleSet.isHardMasked_iff, RuleSet.isHardMasked_iff, hits, hits]

theorem visibility_of_reordered_lines :
    let mask : RuleLine := (.masks .mask, "app-misc/foo")
    let accept : RuleLine := (.acceptKeywords, "app-misc/foo **")
    let unmask : RuleLine := (.masks .unmask, "app-misc/foo")
    (∀ line ∈ [mask, accept] ++ [unmask], ¬ line.Dashed) ∧
      (∀ line, line ∈ [accept, mask, accept] ↔ line ∈ [mask, accept]) ∧
      (rulesOf "amd64" [accept, mask, accept] none).visibility "amd64" (sample "1.0") = .hard := by
  intro mask accept unmask
  have undashed : ∀ line ∈ [mask, accept] ++ [unmask], ¬ line.Dashed := by
    have clear : ([mask, accept] ++ [unmask]).all (·.takenBack?.isNone) = true := by decide +kernel
    intro line mem
    exact RuleLine.takenBack?_eq_none_iff.1
      (Option.isNone_iff_eq_none.1 (List.all_eq_true.1 clear line mem))
  have same : ∀ line, line ∈ [accept, mask, accept] ↔ line ∈ [mask, accept] := by
    intro line
    simp [or_comm]
  obtain ⟨reordered, -⟩ := visibility_of_line_sets "amd64" [mask, accept] [unmask] undashed none
    "amd64" (sample "1.0")
  refine ⟨undashed, same, (reordered _ same).trans ?_⟩
  decide +kernel

end Ebuild
