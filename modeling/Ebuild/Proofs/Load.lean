import Ebuild.Load
import Ebuild.Proofs.Profile
import Ebuild.Proofs.Rules.Files
import Ebuild.Proofs.Rules.PlainMasks
import Ebuild.Proofs.Visibility

/-!
# The rules of a system

Loading by settings feeds the lines of all rule files to the rules, those of the profile folders
first and in depth-first order. `load_last_writer_wins` says what becomes of plain masks on the way:
the last line to touch an entry decides, whichever file it is in, and no other rule depends on the
lines that take something back.
-/

namespace Ebuild

/-- The files read at each path, with their texts. -/
abbrev Reading := String → List (String × String)

namespace Reading

variable (reading : Reading)

def lines (file : RuleFile) (path : String) : List RuleLine :=
  (reading path).flatMap fun (_, text) => (Text.lineList text).map fun line => (file, line)

def profileLines (folder : Place) : List RuleLine :=
  lines reading (.masks .mask) (Path.join folder.path "package.mask") ++
    lines reading (.masks .unmask) (Path.join folder.path "package.unmask") ++
    lines reading .acceptKeywords (Path.join folder.path "package.accept_keywords")

def systemLines (s : Settings) : List RuleLine :=
  lines reading (.masks .mask) (Path.join s.portageDir "package.mask") ++
    lines reading (.masks .unmask) (Path.join s.portageDir "package.unmask") ++
    lines reading .acceptKeywords (Path.join s.portageDir "package.accept_keywords") ++
    lines reading .acceptKeywords (Path.join s.portageDir "package.keywords")

/-- All rule lines of a system with these profile folders, in the order of loading. -/
def systemWide (s : Settings) (folders : List Place) : List RuleLine :=
  folders.flatMap (profileLines reading) ++ systemLines reading s

end Reading

section
variable [Glob.Engine]

namespace FileTree

theorem directives_lines (t : FileTree) (arch : String) (file : RuleFile) (path : String) :
    (t.ruleSteps file path).filterMap (Step.directive? arch) =
      (Reading.lines t.ruleTexts file path).filterMap fun line =>
        Directive.ofLine arch line.1 line.2 := by
  rw [directives_ruleSteps, Reading.lines, List.filterMap_flatMap, List.filterMap_flatMap]
  refine List.flatMap_congr fun found _ => ?_
  rw [Step.ofText, List.filterMap_map, List.filterMap_map]
  rfl

theorem directives_profileSteps (t : FileTree) (arch : String) (folder : Place) :
    (t.profileSteps folder.path).filterMap (Step.directive? arch) =
      (Reading.profileLines t.ruleTexts folder).filterMap fun line =>
        Directive.ofLine arch line.1 line.2 := by
  rw [profileSteps, List.filterMap_cons_none rfl]
  simp only [List.filterMap_append, directives_lines, Reading.profileLines]

/-- Walking through profile folders reads their lines in depth-first order. -/
theorem directives_traverse (t : FileTree) (arch : String) (visited : List Place)
    (todo : List String) :
    ∃ order, t.DepthFirst visited todo order ∧
      (t.traverse visited todo).visited = order.reverse ++ visited ∧
      (t.traverse visited todo).steps.filterMap (Step.directive? arch) =
        (order.flatMap (Reading.profileLines t.ruleTexts)).filterMap fun line =>
          Directive.ofLine arch line.1 line.2 := by
  obtain ⟨order, walk, seen, steps⟩ := t.traverse_spec visited todo
  refine ⟨order, walk, seen, ?_⟩
  rw [← Step.filterMap_directive?_reads, steps, List.filterMap_flatMap, List.filterMap_flatMap]
  exact List.flatMap_congr fun folder _ => t.directives_profileSteps arch folder

end FileTree

namespace Settings

theorem directives_profileWalk (s : Settings) (t : FileTree) (arch : String) :
    ∃ order, t.DepthFirst [] (s.profilePath? t).toList order ∧
      (s.profileWalk t).steps.filterMap (Step.directive? arch) =
        (order.flatMap (Reading.profileLines t.ruleTexts)).filterMap fun line =>
          Directive.ofLine arch line.1 line.2 := by
  unfold profileWalk
  cases s.profilePath? t with
  | none => exact ⟨[], .done, rfl⟩
  | some path =>
    obtain ⟨order, walk, -, directives⟩ := t.directives_traverse arch [] [path]
    exact ⟨order, walk, directives⟩

theorem directives_ruleFiles (s : Settings) (t : FileTree) (arch : String) :
    (ruleFiles.flatMap fun (file, name) =>
      t.ruleSteps file (Path.join s.portageDir name)).filterMap (Step.directive? arch) =
      (Reading.systemLines t.ruleTexts s).filterMap fun line =>
        Directive.ofLine arch line.1 line.2 := by
  simp only [ruleFiles, List.flatMap_cons, List.flatMap_nil, List.append_nil,
    List.filterMap_append, FileTree.directives_lines, Reading.systemLines, List.append_assoc]

/-- Loading gives the rules of all rule lines in order, then those for every package. -/
theorem rules_load (s : Settings) (t : FileTree) :
    ∃ order, t.DepthFirst [] (s.profilePath? t).toList order ∧
      (s.load t).rules =
        rulesOf s.arch (Reading.systemWide t.ruleTexts s order) (some s.acceptKeywords) := by
  obtain ⟨order, walk, profile⟩ := s.directives_profileWalk t s.arch
  refine ⟨order, walk, ?_⟩
  have files := s.directives_ruleFiles t s.arch
  have loaded : (s.load t).rules = (Loader.run { arch := s.arch } (s.steps t)).rules := rfl
  rw [loaded, rulesOf_eq_foldl, Loader.rules_run, steps]
  simp only [directivesOf, List.filterMap_append, profile, files, Reading.systemWide]
  rfl

end Settings

theorem rulesOf_eq_readLine (arch : String) (lines : List RuleLine)
    (everywhere : Option (List String)) :
    rulesOf arch lines everywhere =
      (everywhere.toList.filterMap Directive.ofKeywords).foldl RuleSet.apply
        (lines.foldl (RuleSet.readLine arch) {}) := by
  rw [rulesOf_eq_foldl, directivesOf, List.foldl_append, RuleSet.foldl_readLine]

theorem masks_rulesOf (arch : String) (lines : List RuleLine) (everywhere : Option (List String)) :
    (rulesOf arch lines everywhere).masks = (lines.foldl (RuleSet.readLine arch) {}).masks := by
  obtain ⟨allowed, last⟩ := exists_acceptAll everywhere
  rw [rulesOf_eq_readLine, last]
  cases allowed <;> rfl

theorem withoutPlainMasks_rulesOf (arch : String) {lines others : List RuleLine}
    (same : (lines.foldl (RuleSet.readLine arch) {}).withoutPlainMasks =
      (others.foldl (RuleSet.readLine arch) {}).withoutPlainMasks)
    (everywhere : Option (List String)) :
    (rulesOf arch lines everywhere).withoutPlainMasks =
      (rulesOf arch others everywhere).withoutPlainMasks := by
  obtain ⟨allowed, last⟩ := exists_acceptAll everywhere
  rw [rulesOf_eq_readLine, rulesOf_eq_readLine, last]
  cases allowed with
  | none => exact same
  | some allowed =>
    simp only [Option.toList_some, List.map_cons, List.map_nil, List.foldl_cons, List.foldl_nil]
    rw [RuleSet.withoutPlainMasks_apply, same, ← RuleSet.withoutPlainMasks_apply]

/-- Loading reads the rule files of the profile folders in depth-first order, then the four under
`etc/portage`. After it a text is a plain mask exactly if some mask line adds it and no later line
of any of these files takes it back. All other rules are those of the lines that take nothing back.
-/
theorem load_last_writer_wins {t : FileTree} (wf : t.WellFormed) (s : Settings) :
    ∃ (reading : Reading) (order : List Place),
      (∀ path texts, t.Reads path texts ↔ texts = reading path) ∧
      (∀ other, t.DepthFirst [] (s.profilePath? t).toList other ↔ other = order) ∧
      let lines := reading.systemWide s order
      (∀ entry, entry ∈ (s.load t).rules.masks.plain ↔
        ∃ before line after, lines = before ++ line :: after ∧ line.Masks entry ∧
          ∀ later ∈ after, later.takenBack? ≠ some entry) ∧
      (s.load t).rules.withoutPlainMasks =
        (rulesOf s.arch (lines.filter fun line => (RuleLine.takenBack? line).isNone)
          (some s.acceptKeywords)).withoutPlainMasks := by
  obtain ⟨order, walk, rules⟩ := s.rules_load t
  have reads := FileTree.reads_ruleTexts wf
  refine ⟨t.ruleTexts, order, fun path texts => ⟨fun again => again.unique (reads path), ?_⟩,
    fun other => ⟨walk.unique, fun same => same ▸ walk⟩, fun entry => ?_, ?_⟩
  · rintro rfl
    exact reads path
  · rw [rules, masks_rulesOf, RuleSet.mem_plain_foldl_iff s.arch List.nodup_nil]
    simp
  · rw [rules]
    exact withoutPlainMasks_rulesOf s.arch (RuleSet.withoutPlainMasks_foldl s.arch rfl _) _

end

/-- Of two masks of a profile, one is taken back under `etc/portage` and one stays. -/
theorem load_last_writer_wins_over_profile :
    let tree : FileTree := { table :=
      [(["etc"], .folder), (["etc", "portage"], .folder),
        (["etc", "portage", "make.profile"], .link "../../profile"), (["profile"], .folder),
        (["profile", "package.mask"], .file "app-misc/foo\napp-misc/bar\n".toUTF8),
        (["etc", "portage", "package.unmask"], .file "-app-misc/foo\n".toUTF8)] }
    let s : Settings := {}
    tree.WellFormed ∧ "app-misc/bar" ∈ (s.load tree).rules.masks.plain := by
  intro tree s
  have wf : tree.WellFormed := by decide +kernel
  obtain ⟨reading, order, reads, walk, plain, -⟩ := load_last_writer_wins wf s
  have found : s.profilePath? tree = some "/etc/portage/../../profile" := by decide +kernel
  have walked : [["profile"]] = order := by
    refine (walk _).1 ?_
    rw [found]
    have names : tree.NamesParents "/profile" [] := by
      rw [FileTree.namesParents_iff]
      decide +kernel
    exact .fresh (by decide +kernel) List.not_mem_nil names .done .done
  have read : tree.ruleTexts = reading :=
    funext fun path => (reads path _).1 (FileTree.reads_ruleTexts wf path)
  subst walked read
  have lines : Reading.systemWide tree.ruleTexts s [["profile"]] =
      [(.masks .mask, "app-misc/foo"), (.masks .mask, "app-misc/bar"),
        (.masks .unmask, "-app-misc/foo")] := by
    simp (disch := decide +kernel) only [Reading.systemWide, Reading.profileLines,
      Reading.systemLines, Reading.lines, List.flatMap_cons, List.flatMap_nil,
      FileTree.ruleTexts_of_not_folder]
    decide +kernel
  rw [lines] at plain
  refine ⟨wf, (plain _).2 ⟨[_], _, [_], rfl, ?_, ?_⟩⟩
  · unfold RuleLine.Masks
    decide +kernel
  · decide +kernel

end Ebuild
