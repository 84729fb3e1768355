import Mathlib.Logic.Relation
import Ebuild.Proofs.Rules.PlainMasks
import Ebuild.Proofs.Rules.Routing

/-!
# Rule texts line by line

A rule text acts on the rules through its lines, one after another, and a line acts through what is
left of it without its comment and the white space around it. `reading_by_lines` says so, and that
lines with no rule in them, white space, comments and the kind of line ends make no difference.
-/

namespace Ebuild
open Text

def IsLine (line : String) : Prop := '\n' ∉ line.toList
deriving Decidable

/-- The text of a line that is to name packages. -/
def RuleFile.subject : RuleFile → List Char → List Char
  | masks _, entry => entry
  | acceptKeywords, entry => entry.takeWhile fun c => !isBlank c

inductive IsNoise [Glob.Engine] (file : RuleFile) : String → Prop
  | blank {line : String} (blank : ∀ c ∈ line.toList, isBlank c = true) : IsNoise file line
  | comment {before : String} (rest : String) (blank : ∀ c ∈ before.toList, isBlank c = true) :
    IsNoise file (before ++ "#" ++ rest)
  | noAtom {line : String} {entry : List Char} {reason : Error}
    (text : ruleText? line.toList = some entry) (undashed : entry.head? ≠ some '-')
    (unread : Atom.parse (String.ofList (file.subject entry)) = .error reason) : IsNoise file line

/-- A change of a rule text that is to make no difference. The texts are given by their lines. -/
inductive Edit [Glob.Engine] (file : RuleFile) : String → String → Prop
  | insert (before after : List String) {line : String} (single : IsLine line)
    (noise : IsNoise file line) :
    Edit file ("\n".intercalate (before ++ after)) ("\n".intercalate (before ++ line :: after))
  | surround (before after : List String) {left line right : String} (single : IsLine line)
    (leftBlank : ∀ c ∈ left.toList, isBlank c = true ∧ c ≠ '\n')
    (rightBlank : ∀ c ∈ right.toList, isBlank c = true ∧ c ≠ '\n') :
    Edit file ("\n".intercalate (before ++ line :: after))
      ("\n".intercalate (before ++ (left ++ line ++ right) :: after))
  | comment (before after : List String) {line text : String} (single : IsLine line)
    (free : IsLine text) :
    Edit file ("\n".intercalate (before ++ line :: after))
      ("\n".intercalate (before ++ (line ++ "#" ++ text) :: after))
  | carriageReturns {lines : List String} (single : ∀ line ∈ lines, IsLine line) :
    Edit file ("\n".intercalate lines) ("\r\n".intercalate lines)

/-! ### The text of one line -/

theorem ne_hash_of_blank {cs : List Char} (blank : ∀ c ∈ cs, isBlank c = true) :
    ∀ c ∈ cs, (c != '#') = true := by
  intro c mem
  have white := blank c mem
  by_contra hash
  obtain rfl : c = '#' := by simpa using hash
  exact absurd white (by decide)

theorem ruleText?_eq (line : List Char) :
    ruleText? line = (some (trim (line.takeWhile (· != '#')))).filter (!·.isEmpty) := by
  unfold ruleText?
  cases empty : (trim (line.takeWhile (· != '#'))).isEmpty <;> simp [Option.filter, empty]

theorem ruleText?_surround (left line right : List Char)
    (leftBlank : ∀ c ∈ left, isBlank c = true) (rightBlank : ∀ c ∈ right, isBlank c = true) :
    ruleText? (left ++ line ++ right) = ruleText? line := by
  have content : trim ((left ++ line ++ right).takeWhile (· != '#')) =
      trim (line.takeWhile (· != '#')) := by
    rw [List.append_assoc, List.takeWhile_append_of_pos (ne_hash_of_blank leftBlank),
      trim_blank_append _ leftBlank, List.takeWhile_append]
    split
    · rename_i whole
      rw [(List.takeWhile_prefix _).eq_of_length whole,
        List.takeWhile_eq_self_iff.2 (ne_hash_of_blank rightBlank), trim_append_blank _ rightBlank]
    · rfl
  rw [ruleText?_eq, ruleText?_eq, content]

theorem ruleText?_comment (line text : List Char) :
    ruleText? (line ++ '#' :: text) = ruleText? line := by
  have content : (line ++ '#' :: text).takeWhile (· != '#') = line.takeWhile (· != '#') := by
    rw [List.takeWhile_append]
    split
    · rename_i whole
      rw [(List.takeWhile_prefix _).eq_of_length whole]
      simp
    · rfl
  rw [ruleText?_eq, ruleText?_eq, content]

theorem ruleText?_chomp (line : List Char) : ruleText? (chomp line) = ruleText? line := by
  unfold chomp
  split
  · rename_i last
    obtain ⟨front, rfl⟩ := List.getLast?_eq_some_iff.1 last
    have white : ∀ c ∈ ['\r'], isBlank c = true := List.forall_mem_singleton.2 (by decide)
    have same := ruleText?_surround [] front _ (by simp) white
    rw [List.nil_append] at same
    rw [List.dropLast_concat, same]
  · rfl

theorem ruleText?_blank {line : List Char} (blank : ∀ c ∈ line, isBlank c = true) :
    ruleText? line = none := by
  have same := ruleText?_surround _ [] [] blank (by simp)
  rw [List.append_nil, List.append_nil] at same
  rw [same]
  rfl

/-! ### One line -/

namespace RuleSet

variable [Glob.Engine] {arch : String} {file : RuleFile}

theorem readLine_congr (rules : RuleSet) {line other : String}
    (same : ruleText? line.toList = ruleText? other.toList) :
    rules.readLine arch (file, line) = rules.readLine arch (file, other) := by
  have directive : Directive.ofLine arch file line = Directive.ofLine arch file other := by
    cases file with
    | masks kind => simp only [Directive.ofLine, Directive.ofMaskLine, same]
    | acceptKeywords => simp only [Directive.ofLine, Directive.ofKeywordLine, same]
  rw [readLine, readLine, directive]

theorem readLine_of_none (rules : RuleSet) {line : String} (none : ruleText? line.toList = none) :
    rules.readLine arch (file, line) = rules := by
  cases file with
  | masks kind => simp [readLine, Directive.ofLine, Directive.ofMaskLine, none]
  | acceptKeywords => simp [readLine, Directive.ofLine, Directive.ofKeywordLine, none]

theorem ofLine_of_unread {line : String} {entry : List Char} {reason : Error}
    (text : ruleText? line.toList = some entry) (undashed : entry.head? ≠ some '-')
    (unread : Atom.parse (String.ofList (file.subject entry)) = .error reason) :
    Directive.ofLine arch file line = some (.skip file reason) := by
  obtain ⟨trimmed, nonempty⟩ := ruleText?_spec text
  cases file with
  | masks kind =>
    have read : MaskRule.read entry = .error reason := by
      rw [MaskRule.read_eq_ofAtom trimmed, show Atom.parse (String.ofList entry) = _ from unread]
      rfl
    rw [Directive.ofLine, ofMaskLine_of_undashed kind text undashed, maskDirective, read]
  | acceptKeywords =>
    obtain ⟨subject, ws, cut, solid, ⟨rest, start⟩, split⟩ := splitKeywords_spec arch text
    have first := head_trim entry
    rw [trimmed] at first
    have same : RuleFile.acceptKeywords.subject entry = subject := by
      rw [(words_of_head nonempty first).2, List.cons.injEq] at cut
      exact cut.1
    have undashed : subject.head? ≠ some '-' := by
      obtain ⟨c, cs, rfl⟩ := List.exists_cons_of_ne_nil solid.1
      rwa [← start] at undashed
    rw [same] at unread
    rw [Directive.ofLine, ofKeywordLine_eq text split, if_neg undashed,
      Directive.acceptKeywords_eq_ofAtom (trim_of_solid solid.2), unread]

theorem readLine_of_noise (rules : RuleSet) {line : String} (noise : IsNoise file line) :
    rules.readLine arch (file, line) = rules := by
  cases noise with
  | blank blank => exact rules.readLine_of_none (ruleText?_blank blank)
  | @comment before rest blank =>
    refine rules.readLine_of_none ?_
    rw [String.toList_append, String.toList_append, List.append_assoc]
    exact (ruleText?_comment _ _).trans (ruleText?_blank blank)
  | noAtom text undashed unread =>
    rw [readLine, ofLine_of_unread text undashed unread]
    rfl

/-! ### Texts -/

def readText (arch : String) (file : RuleFile) (rules : RuleSet) (text : String) : RuleSet :=
  (text.toList.splitOn '\n').foldl
    (fun rules line => rules.readLine arch (file, String.ofList line)) rules

theorem readText_append (rules : RuleSet) (first second : String) :
    rules.readText arch file (first ++ "\n" ++ second) =
      (rules.readText arch file first).readText arch file second := by
  have chars : (first ++ "\n" ++ second).toList = first.toList ++ '\n' :: second.toList := by
    rw [String.toList_append, String.toList_append, List.append_assoc]
    rfl
  rw [readText, chars, List.splitOn_append_cons_self, List.foldl_append]
  rfl

theorem readText_line (rules : RuleSet) {line : String} (single : IsLine line) :
    rules.readText arch file line = rules.readLine arch (file, line) := by
  rw [readText, List.splitOn_eq_singleton single, List.foldl_cons, List.foldl_nil,
    String.ofList_toList]

theorem readText_congr (rules : RuleSet) {line other : String} (single : IsLine line)
    (single' : IsLine other) (same : ruleText? line.toList = ruleText? other.toList) :
    rules.readText arch file line = rules.readText arch file other := by
  rw [rules.readText_line single, rules.readText_line single', rules.readLine_congr same]

theorem readText_noise (rules : RuleSet) {line : String} (single : IsLine line)
    (noise : IsNoise file line) : rules.readText arch file line = rules := by
  rw [rules.readText_line single, rules.readLine_of_noise noise]

theorem readText_intercalate (rules : RuleSet) (lines : List String) :
    rules.readText arch file ("\n".intercalate lines) = lines.foldl (readText arch file) rules := by
  induction lines generalizing rules with
  | nil => exact rules.readText_noise (show IsLine "" by decide) (.blank (by simp))
  | cons line lines ih =>
    cases lines with
    | nil => rw [String.intercalate_singleton, List.foldl_cons, List.foldl_nil]
    | cons next lines =>
      rw [String.intercalate_cons_cons, readText_append, List.foldl_cons]
      exact ih _

theorem readText_carriageReturns (rules : RuleSet) {lines : List String}
    (single : ∀ line ∈ lines, IsLine line) :
    rules.readText arch file ("\r\n".intercalate lines) =
      lines.foldl (readText arch file) rules := by
  induction lines generalizing rules with
  | nil => exact rules.readText_intercalate []
  | cons line lines ih =>
    rw [List.forall_mem_cons] at single
    cases lines with
    | nil => rw [String.intercalate_singleton, List.foldl_cons, List.foldl_nil]
    | cons next lines =>
      have white : ∀ c ∈ ['\r'], isBlank c = true := List.forall_mem_singleton.2 (by decide)
      have ended : rules.readText arch file (line ++ "\r") = rules.readText arch file line := by
        refine rules.readText_congr ?_ single.1 ?_
        · simpa [IsLine] using single.1
        · rw [String.toList_append]
          exact ruleText?_surround [] line.toList _ (by simp) white
      have split : line ++ "\r\n" = line ++ "\r" ++ "\n" := by
        rw [String.append_assoc]
        rfl
      rw [String.intercalate_cons_cons, split, readText_append, ended, List.foldl_cons]
      exact ih _ single.2

/-- Line ends and an empty line at the end make no difference. -/
theorem rules_addText (loader : Loader) (file : RuleFile) (text : String) :
    (loader.addText file text).rules = loader.rules.readText loader.arch file text := by
  have byLines : (loader.addText file text).rules = (lines text.toList).foldl
      (fun rules line => rules.readLine loader.arch (file, String.ofList line)) loader.rules := by
    have pairs : (Step.ofText file text).filterMap (Step.directive? loader.arch) =
        ((lines text.toList).map fun line => (file, String.ofList line)).filterMap
          fun line => Directive.ofLine loader.arch line.1 line.2 := by
      rw [Step.ofText, lineList, List.map_map, List.filterMap_map, List.filterMap_map]
      rfl
    rw [Loader.addText, Loader.rules_run, pairs, ← foldl_readLine, List.foldl_map]
  obtain ⟨front, last, pieces⟩ := (List.eq_nil_or_concat' (text.toList.splitOn '\n')).resolve_left
    (List.splitOn_ne_nil _ _)
  have ends (rules : RuleSet) :
      (front.map chomp).foldl (fun rules line =>
        rules.readLine loader.arch (file, String.ofList line)) rules =
      front.foldl (fun rules line =>
        rules.readLine loader.arch (file, String.ofList line)) rules := by
    rw [List.foldl_map]
    refine List.foldl_ext _ _ _ fun rules line _ => rules.readLine_congr ?_
    rw [String.toList_ofList, String.toList_ofList, ruleText?_chomp]
  rw [byLines, readText, lines, pieces, List.dropLast_concat, List.getLast?_concat,
    List.foldl_append, List.foldl_append, ends]
  cases last with
  | nil => exact (readLine_of_none _ rfl).symm
  | cons c cs => rfl

theorem readText_replace (rules : RuleSet) (before after : List String) {line other : String}
    (same : ∀ rules : RuleSet, rules.readText arch file other = rules.readText arch file line) :
    rules.readText arch file ("\n".intercalate (before ++ other :: after)) =
      rules.readText arch file ("\n".intercalate (before ++ line :: after)) := by
  simp only [readText_intercalate, List.foldl_append, List.foldl_cons, same]

/-- One change of a text makes no difference. -/
theorem readText_edit (rules : RuleSet) {text edited : String} (edit : Edit file text edited) :
    rules.readText arch file edited = rules.readText arch file text := by
  cases edit with
  | insert before after single noise =>
    simp only [readText_intercalate, List.foldl_append, List.foldl_cons]
    rw [readText_noise _ single noise]
  | @surround before after left line right single leftBlank rightBlank =>
    refine rules.readText_replace before after fun rules => rules.readText_congr ?_ single ?_
    · rw [IsLine, String.toList_append, String.toList_append, List.mem_append, List.mem_append]
      rintro ((inLeft | inLine) | inRight)
      · exact (leftBlank _ inLeft).2 rfl
      · exact single inLine
      · exact (rightBlank _ inRight).2 rfl
    · rw [String.toList_append, String.toList_append]
      exact ruleText?_surround _ _ _ (fun c mem => (leftBlank c mem).1)
        fun c mem => (rightBlank c mem).1
  | @comment before after line text single free =>
    refine rules.readText_replace before after fun rules => rules.readText_congr ?_ single ?_
    · rw [IsLine, String.toList_append, String.toList_append, List.mem_append, List.mem_append]
      rintro ((inLine | hash) | inText)
      · exact single inLine
      · exact absurd hash (by decide)
      · exact free inText
    · rw [String.toList_append, String.toList_append, List.append_assoc]
      exact ruleText?_comment _ _
  | carriageReturns single =>
    rw [rules.readText_carriageReturns single, rules.readText_intercalate]

end RuleSet

/-- Every text is given by its lines. -/
theorem exists_lines (text : String) :
    ∃ lines, text = "\n".intercalate lines ∧ ∀ line ∈ lines, IsLine line := by
  refine ⟨(text.toList.splitOn '\n').map String.ofList, ?_, fun line mem => ?_⟩
  · apply String.toList_inj.1
    rw [String.toList_intercalate, List.map_map]
    simp [Function.comp_def, List.intercalate_splitOn]
  · obtain ⟨piece, inPieces, rfl⟩ := List.mem_map.1 mem
    rw [IsLine, String.toList_ofList]
    exact not_mem_of_mem_splitOn inPieces

/-- A rule text acts as its lines do one after another, so it can be cut at any line end. Nothing
comes of adding or taking away lines with no rule in them, putting white space around lines or
comments after them, and ending lines with carriage returns, in whatever order and number. -/
theorem reading_by_lines [Glob.Engine] (loader : Loader) (file : RuleFile) :
    (∀ first second, (loader.addText file (first ++ "\n" ++ second)).rules =
      ((loader.addText file first).addText file second).rules) ∧
    (∀ text, ∃ lines, text = "\n".intercalate lines ∧ ∀ line ∈ lines, IsLine line) ∧
    ∀ text edited, Relation.EqvGen (Edit file) text edited →
      (loader.addText file edited).rules = (loader.addText file text).rules := by
  refine ⟨fun first second => ?_, exists_lines, fun text edited edits => ?_⟩
  · have arch : (loader.addText file first).arch = loader.arch := loader.arch_run _
    simp only [RuleSet.rules_addText, RuleSet.readText_append, arch]
  · simp only [RuleSet.rules_addText]
    induction edits with
    | rel text edited edit => exact loader.rules.readText_edit edit
    | refl text => rfl
    | symm text edited _ same => exact same.symm
    | trans text between edited _ _ first second => exact second.trans first

theorem reading_by_lines_with_noise :
    let loader : Loader := { arch := "amd64" }
    let edited := "\r\n".intercalate ["no atom", "\u00a0app-misc/foo\t# all of it"]
    Relation.EqvGen (Edit (.masks .mask)) "app-misc/foo" edited ∧
      (loader.addText (.masks .mask) edited).rules.masks.plain = ["app-misc/foo"] := by
  intro loader edited
  have blank : ∀ c ∈ ['\u00a0'], isBlank c = true ∧ c ≠ '\n' :=
    List.forall_mem_singleton.2 (by decide)
  have tab : ∀ c ∈ ['\t'], isBlank c = true ∧ c ≠ '\n' := List.forall_mem_singleton.2 (by decide)
  have surround : Edit (.masks .mask) ("\n".intercalate ["app-misc/foo"])
      ("\n".intercalate ["\u00a0app-misc/foo\t"]) :=
    @Edit.surround _ _ [] [] "\u00a0" "app-misc/foo" "\t" (by decide +kernel) blank tab
  have comment : Edit (.masks .mask) ("\n".intercalate ["\u00a0app-misc/foo\t"])
      ("\n".intercalate ["\u00a0app-misc/foo\t# all of it"]) :=
    @Edit.comment _ _ [] [] "\u00a0app-misc/foo\t" " all of it" (by decide +kernel)
      (by decide +kernel)
  have insert : Edit (.masks .mask) ("\n".intercalate ["\u00a0app-misc/foo\t# all of it"])
      ("\n".intercalate ["no atom", "\u00a0app-misc/foo\t# all of it"]) := by
    refine .insert [] _ (by decide +kernel) ?_
    have text : ruleText? "no atom".toList = some "no atom".toList := by decide +kernel
    have unread : Atom.parse "no atom" = .error (.invalidAtom "no atom") := by decide +kernel
    exact .noAtom text (by decide +kernel) unread
  have carriageReturns : Edit (.masks .mask)
      ("\n".intercalate ["no atom", "\u00a0app-misc/foo\t# all of it"]) edited :=
    .carriageReturns (by decide +kernel)
  have edits : Relation.EqvGen (Edit (.masks .mask)) "app-misc/foo" edited :=
    .trans _ _ _ (.rel _ _ surround) (.trans _ _ _ (.rel _ _ comment)
      (.trans _ _ _ (.rel _ _ insert) (.rel _ _ carriageReturns)))
  refine ⟨edits, ?_⟩
  rw [(reading_by_lines loader (.masks .mask)).2.2 _ _ edits]
  decide +kernel

end Ebuild
