import Ebuild.Proofs.Atom.Literal
import Ebuild.Proofs.Rules.Loading
import Ebuild.Visibility

/-!
# Accept-keywords lines

Which packages a line admits, said by its words: the first one names packages, each of the others
admits keywords. `admits_ofKeywordLine_iff` says that the rule read from a line, whether it is kept
by name or as an atom, admits the same packages.
-/

namespace Ebuild
open Text

/-! ### Words and keywords -/

namespace Keywords

/-- Whether a word of a rule admits keywords. -/
def Admits (keywords : List String) (word : String) : Prop :=
  if word = "**" then True
  else if word = "*" then
    ∃ keyword ∈ keywords, keyword.toList.head? ≠ some '~' ∧ keyword.toList.head? ≠ some '-'
  else if word = "~*" then ∃ keyword ∈ keywords, keyword.toList.head? = some '~'
  else word ∈ keywords
deriving Decidable

theorem isStable_iff {keyword : String} (nonempty : keyword.toList ≠ []) :
    isStable keyword = true ↔
      keyword.toList.head? ≠ some '~' ∧ keyword.toList.head? ≠ some '-' := by
  obtain ⟨c, cs, split⟩ := List.exists_cons_of_ne_nil nonempty
  simp [isStable, split]

theorem tokenAccepts_iff {keywords : List String} (word : String)
    (nonempty : ∀ keyword ∈ keywords, keyword.toList ≠ []) :
    tokenAccepts keywords word = true ↔ Admits keywords word := by
  unfold tokenAccepts Admits
  split
  · simp
  · split
    · rw [List.any_eq_true]
      refine exists_congr fun keyword => and_congr_right fun mem => ?_
      exact isStable_iff (nonempty keyword mem)
    · split
      · simp [isTesting]
      · simp

theorem accepts_eq_any (arch : String) {allowed : String} {ws : List String}
    (read : wordList allowed = ws) (some_word : ws ≠ []) (keywords : List String) :
    accepts arch allowed keywords = ws.any (tokenAccepts keywords) := by
  obtain ⟨w, ws, rfl⟩ := List.exists_cons_of_ne_nil some_word
  rw [accepts, read]

theorem accepts_iff (arch : String) {allowed : String} {keywords ws : List String}
    (nonempty : ∀ keyword ∈ keywords, keyword.toList ≠ []) (read : wordList allowed = ws)
    (some_word : ws ≠ []) :
    accepts arch allowed keywords = true ↔ ∃ word ∈ ws, Admits keywords word := by
  rw [accepts_eq_any arch read some_word, List.any_eq_true]
  simp only [tokenAccepts_iff _ nonempty]

end Keywords

theorem Package.keyword_nonempty (p : Package) :
    ∀ keyword ∈ p.keywordList, keyword.toList ≠ [] := by
  intro keyword mem
  obtain ⟨word, inWords, rfl⟩ := List.mem_map.1 mem
  rw [String.toList_ofList]
  exact (solid_of_mem_words word inWords).1

/-! ### Directives -/

def Directive.Admits (arch : String) (p : Package) : Directive → Prop
  | acceptPlain rule =>
    rule.subject = p.cpn ∧ Keywords.accepts arch rule.allowed p.keywordList = true
  | acceptAtom rule => rule.subject.acceptsPackage p = true ∧
      Keywords.accepts arch rule.allowed p.keywordList = true
  | acceptAll allowed => Keywords.accepts arch allowed p.keywordList = true
  | _ => False

namespace RuleSet

theorem accepting?_isSome_iff (rules : RuleSet) (arch : String) (p : Package) :
    (rules.accepting? arch p).isSome = true ↔
      (∃ rule ∈ rules.keywords, (Directive.acceptPlain rule).Admits arch p) ∨
        ∃ rule ∈ rules.atomKeywords, (Directive.acceptAtom rule).Admits arch p := by
  simp [accepting?, Directive.Admits]

theorem accepting?_empty (arch : String) (p : Package) :
    (empty.accepting? arch p).isSome = false := by
  simp [accepting?, empty]

theorem accepting?_apply (rules : RuleSet) (d : Directive) (arch : String) (p : Package) :
    ((rules.apply d).accepting? arch p).isSome = true ↔
      (rules.accepting? arch p).isSome = true ∨ d.Admits arch p := by
  rw [accepting?_isSome_iff, accepting?_isSome_iff]
  cases d with
  | mask kind rule => cases kind <;> simp [apply, Directive.Admits]
  | dropMask entry => simp [apply, Directive.Admits]
  | skip file reason => simp [apply, Directive.Admits]
  | acceptPlain rule =>
    simp only [apply, Array.mem_push, or_and_right, exists_or, exists_eq_left]
    exact or_right_comm
  | acceptAtom rule =>
    simp only [apply, Array.mem_push, or_and_right, exists_or, exists_eq_left, or_assoc]
  | acceptAll allowed =>
    have every : (Directive.acceptAtom ⟨everyPackage, allowed⟩).Admits arch p ↔
        (Directive.acceptAll allowed).Admits arch p :=
      and_iff_right rfl
    simp only [apply, Array.mem_push, or_and_right, exists_or, exists_eq_left, or_assoc, every]

theorem accepting?_foldl (rules : RuleSet) (directives : List Directive) (arch : String)
    (p : Package) :
    ((directives.foldl apply rules).accepting? arch p).isSome = true ↔
      (rules.accepting? arch p).isSome = true ∨ ∃ d ∈ directives, d.Admits arch p :=
  foldl_apply_iff (fun rules => (rules.accepting? arch p).isSome = true)
    (fun d => d.Admits arch p) (fun d _ rules => accepting?_apply rules d arch p) rules

end RuleSet

/-! ### Lines -/

theorem splitKeywords_spec (arch : String) {line entry : List Char}
    (text : ruleText? line = some entry) :
    ∃ subject ws, words entry = subject :: ws ∧ Solid subject ∧ subject <+: entry ∧
      Directive.splitKeywords arch entry =
        (subject, if ws = [] then "~" ++ arch else " ".intercalate (ws.map String.ofList)) := by
  obtain ⟨trimmed, nonempty⟩ := ruleText?_spec text
  have first := head_trim entry
  have last := getLast_trim entry
  rw [trimmed] at first last
  obtain ⟨solid, cut⟩ := words_of_head nonempty first
  have parts := List.takeWhile_append_dropWhile (p := fun c => !isBlank c) (l := entry)
  have after {front back : List Char} (split : front ++ back = entry) :
      entry.drop front.length = back := by
    rw [← split, List.drop_left]
  refine ⟨_, _, cut, solid, List.takeWhile_prefix _, ?_⟩
  unfold Directive.splitKeywords
  dsimp only
  rw [after parts]
  cases rest : entry.dropWhile fun c => !isBlank c with
  | nil => rfl
  | cons b cs =>
    -- the entry ends in no white space, so a word stands after the first one
    have final : words (b :: cs) ≠ [] := by
      rw [rest] at parts
      have stop : entry.getLast? = some ((b :: cs).getLast (List.cons_ne_nil b cs)) := by
        rw [← parts, List.getLast?_append, List.getLast?_eq_some_getLast (List.cons_ne_nil b cs)]
        rfl
      exact words_ne_nil (List.getLast_mem _) (last _ stop)
    rw [if_neg final]

theorem admits_acceptKeywords_iff [Glob.Engine] {subject : List Char} (solid : Solid subject)
    (allowed arch : String) (p : Package) :
    (Directive.acceptKeywords subject allowed).Admits arch p ↔
      Atom.Names (String.ofList subject) p ∧
        Keywords.accepts arch allowed p.keywordList = true := by
  unfold Directive.acceptKeywords
  split
  · rename_i plain
    simp only [Bool.and_eq_true, Bool.not_eq_true'] at plain
    rw [Atom.names_basic_iff (trim_of_solid solid.2) plain.1 plain.2]
    rfl
  · rw [Atom.Names]
    split
    · rename_i atom read
      simp [Directive.Admits, read]
    · rename_i reason read
      simp [Directive.Admits, read]

theorem ofKeywordLine_eq [Glob.Engine] {arch allowed : String} {line entry subject : List Char}
    (text : ruleText? line = some entry)
    (split : Directive.splitKeywords arch entry = (subject, allowed)) :
    Directive.ofKeywordLine arch line = some (if subject.head? = some '-'
      then .dropMask (String.ofList subject.tail) else .acceptKeywords subject allowed) := by
  rw [Directive.ofKeywordLine, text, Option.map_some]
  dsimp only
  rw [split]
  dsimp only
  split
  · rfl
  · rename_i undashed
    rw [if_neg]
    intro dash
    obtain ⟨rest, rfl⟩ := List.head?_eq_some_iff.1 dash
    exact undashed rest rfl

/-- The words that a line admits keywords by. -/
def keywordWords (arch : String) (ws : List (List Char)) : List String :=
  if ws = [] then ["~" ++ arch] else ws.map String.ofList

theorem intercalate_keywordWords (arch : String) (ws : List (List Char)) :
    " ".intercalate (keywordWords arch ws) =
      if ws = [] then "~" ++ arch else " ".intercalate (ws.map String.ofList) := by
  unfold keywordWords
  split
  · exact String.intercalate_singleton
  · rfl

section
variable {arch : String} (narrow : ∀ c ∈ arch.toList, isBlank c = false) {ws : List (List Char)}
  (solid : ∀ w ∈ ws, Solid w)
include narrow solid

theorem solid_keywordWords : ∀ word ∈ keywordWords arch ws, Solid word.toList := by
  unfold keywordWords
  split
  · intro word mem
    rw [List.mem_singleton.1 mem]
    refine ⟨by simp, ?_⟩
    intro c mem
    rw [String.toList_append, List.mem_append] at mem
    rcases mem with mem | mem
    · rw [List.mem_singleton.1 mem]
      decide
    · exact narrow c mem
  · intro word mem
    obtain ⟨chars, inWords, rfl⟩ := List.mem_map.1 mem
    rw [String.toList_ofList]
    exact solid chars inWords

theorem wordList_keywordWords :
    wordList (if ws = [] then "~" ++ arch else " ".intercalate (ws.map String.ofList)) =
      keywordWords arch ws := by
  rw [← intercalate_keywordWords]
  exact wordList_intercalate (solid_keywordWords narrow solid)

end

theorem keywordWords_ne_nil (arch : String) (ws : List (List Char)) :
    keywordWords arch ws ≠ [] := by
  unfold keywordWords
  split
  · exact List.cons_ne_nil _ _
  · rename_i nonempty
    exact mt List.map_eq_nil_iff.1 nonempty

/-- Whether an accept-keywords line admits a package, by its first word and the words after it. -/
def LineAdmits [Glob.Engine] (arch line : String) (p : Package) : Prop :=
  ∃ entry subject ws, ruleText? line.toList = some entry ∧ entry.head? ≠ some '-' ∧
    words entry = subject :: ws ∧ Atom.Names (String.ofList subject) p ∧
    ∃ word ∈ keywordWords arch ws, Keywords.Admits p.keywordList word

/-- The rule of a line admits what the line does, whatever architecture is asked about. -/
theorem admits_ofKeywordLine_iff [Glob.Engine] {arch : String}
    (narrow : ∀ c ∈ arch.toList, isBlank c = false)
    (line query : String) (p : Package) :
    (∃ d, Directive.ofKeywordLine arch line.toList = some d ∧ d.Admits query p) ↔
      LineAdmits arch line p := by
  rw [LineAdmits]
  cases text : ruleText? line.toList with
  | none => simp [Directive.ofKeywordLine, text]
  | some entry =>
    obtain ⟨subject, ws, cut, solid, start, split⟩ := splitKeywords_spec arch text
    have wsSolid : ∀ w ∈ ws, Solid w := by
      intro w mem
      exact solid_of_mem_words w (by rw [cut]; exact List.mem_cons_of_mem _ mem)
    have accepts := Keywords.accepts_iff query p.keyword_nonempty
      (wordList_keywordWords narrow wsSolid) (keywordWords_ne_nil arch ws)
    have head : entry.head? = subject.head? := by
      obtain ⟨rest, rfl⟩ := start
      obtain ⟨c, cs, rfl⟩ := List.exists_cons_of_ne_nil solid.1
      rfl
    rw [ofKeywordLine_eq text split]
    by_cases dash : subject.head? = some '-'
    · rw [if_pos dash]
      constructor
      · rintro ⟨d, same, admits⟩
        cases same
        cases admits
      · rintro ⟨_, _, _, same, undashed, -⟩
        cases same
        rw [head] at undashed
        exact absurd dash undashed
    · rw [if_neg dash]
      constructor
      · rintro ⟨d, same, admits⟩
        cases same
        rw [admits_acceptKeywords_iff solid, accepts] at admits
        exact ⟨entry, subject, ws, rfl, by rwa [head], cut, admits⟩
      · rintro ⟨_, _, _, same, -, again, admits⟩
        cases same
        rw [cut] at again
        cases again
        refine ⟨_, rfl, ?_⟩
        rw [admits_acceptKeywords_iff solid, accepts]
        exact admits

end Ebuild
