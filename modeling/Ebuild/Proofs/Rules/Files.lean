import Mathlib.Data.List.Nodup
import Ebuild.Profile
import Ebuild.Proofs.FileTree.Resolve
import Ebuild.Proofs.Rules.Loading
import Ebuild.Proofs.Text.Bytes

/-!
# Reading rule files

The rule files below a folder are found by name after name, going through links. Each file that its
path opens is found once (`mem_textsFrom_iff`), in the order of the paths by names and bytes
(`pairwise_textsFrom`). So `FileTree.Reads` tells all that reading a path gives.
-/

namespace Ebuild

def IsVisible (name : String) : Prop := IsName name ∧ name.toList.head? ≠ some '.'
deriving Decidable

/-- The order of paths is the one of their names, those by bytes. -/
def Path.key (path : String) : List (List UInt8) := (Path.names path).map Text.bytes

def Found.text? : Found → Option (String × String)
  | .text path content => some (path, content)
  | .unreadable _ | .missing _ => none

namespace FileTree

/-- What reading the rules at a path is to give: the text of the file there, or the texts of all
files below the folder there by visible names, in the order of their paths. -/
structure Reads (t : FileTree) (path : String) (texts : List (String × String)) : Prop where
  alone : t.isFolder path = false →
    texts = (t.readText? path).toList.map fun text => (path, text)
  members : t.isFolder path = true → ∀ file text, (file, text) ∈ texts ↔
    ∃ names, names ≠ [] ∧ (∀ name ∈ names, IsVisible name) ∧ file = Path.below path names ∧
      t.readText? file = some text
  ordered : (texts.map Prod.fst).Pairwise fun a b => Path.key a < Path.key b

variable (t : FileTree)

def textAt? (place : Place) : Option String :=
  match t.node? place with
  | some (.file bytes) => String.fromUTF8? bytes
  | _ => none

theorem readText?_eq (path : String) :
    t.readText? path = (t.lookup path).toOption.bind fun spot => t.textAt? spot.place := by
  rw [readText?, target?]
  cases t.lookup path <;> rfl

theorem readText?_of_ok {path : String} {spot : Spot} (leads : t.lookup path = .ok spot) :
    t.readText? path = t.textAt? spot.place := by
  rw [readText?_eq, leads]
  rfl

theorem exists_lookup_of_readText? {path text : String} (read : t.readText? path = some text) :
    ∃ spot, t.lookup path = .ok spot := by
  rw [readText?_eq] at read
  cases leads : t.lookup path with
  | error reason => simp [leads, Except.toOption] at read
  | ok spot => exact ⟨spot, rfl⟩

def textsFrom (spot : Spot) (path : String) : List (String × String) :=
  (t.foundFrom spot path).filterMap Found.text?

theorem ruleTexts_eq (path : String) : t.ruleTexts path = (t.found path).filterMap Found.text? := by
  unfold ruleTexts
  congr
  funext found
  cases found <;> rfl

def textsBelow (spot : Spot) (path name : String) : List (String × String) :=
  match t.enter spot path name with
  | .ok next => t.textsFrom next (Path.join path name)
  | .error _ => []

theorem mem_textsBelow_iff {spot : Spot} {path name : String} {found : String × String} :
    found ∈ t.textsBelow spot path name ↔ ∃ next, t.enter spot path name = .ok next ∧
      found ∈ t.textsFrom next (Path.join path name) := by
  rw [textsBelow]
  cases t.enter spot path name with
  | error reason => simp
  | ok next => simp

theorem textsFrom_folder {spot : Spot} (folder : t.node? spot.place = some .folder)
    (path : String) :
    t.textsFrom spot path = (t.visibleNames spot.place).flatMap (t.textsBelow spot path) := by
  rw [textsFrom, foundFrom]
  simp only [folder]
  rw [List.filterMap_flatMap]
  conv => rhs; rw [← List.attach_map_subtype_val (t.visibleNames spot.place), List.flatMap_map]
  refine List.flatMap_congr fun name _ => ?_
  rw [textsBelow]
  split
  · rename_i next step
    rw [step]
    rfl
  · rename_i reason step
    rw [step]
    rfl

theorem textsFrom_of_not_folder {spot : Spot} (other : t.node? spot.place ≠ some .folder)
    (path : String) :
    t.textsFrom spot path = (t.textAt? spot.place).toList.map fun text => (path, text) := by
  rw [textsFrom, foundFrom, textAt?]
  cases node : t.node? spot.place with
  | none => rfl
  | some node' =>
    cases node' with
    | folder => exact absurd node other
    | link target => rfl
    | file bytes =>
      dsimp only
      cases String.fromUTF8? bytes <;> rfl

variable {t}

theorem mem_visibleNames_iff (wf : t.WellFormed) {place : Place} {name : String} :
    name ∈ t.visibleNames place ↔ IsVisible name ∧ (t.node? (place ++ [name])).isSome = true := by
  rw [visibleNames, List.mem_filter, mem_childNames_iff, bne_iff_ne, IsVisible]
  constructor
  · rintro ⟨there, shown⟩
    exact ⟨⟨wf.isName there, shown⟩, there⟩
  · rintro ⟨⟨-, shown⟩, there⟩
    exact ⟨there, shown⟩

section
variable {spot : Spot} {path : String}

/-- A name leads from an opened folder to where the two joined lead. -/
theorem enter_eq_ok_iff (leads : t.lookup path = .ok spot) {name : String} (isName : IsName name)
    {next : Spot} :
    t.enter spot path name = .ok next ↔ t.lookup (Path.join path name) = .ok next := by
  have nonempty := t.ne_empty_of_locate (t.lookup_eq_ok_iff.1 leads).2
  rw [t.lookup_join_eq_ok_iff nonempty isName, leads, enter]
  by_cases long : maxPathSize ≤ (Path.join path name).utf8ByteSize
  · simp [long, Nat.not_lt.2 long]
  · simp [long, Nat.not_le.1 long]

theorem exists_lookup_of_below {names : List String} (nonempty : path ≠ "")
    (valid : ∀ name ∈ names, IsName name) (below : t.lookup (Path.below path names) = .ok spot) :
    ∃ folder, t.lookup path = .ok folder := by
  induction names using List.reverseRecOn generalizing spot with
  | nil => exact ⟨spot, below⟩
  | append_singleton front name ih =>
    simp only [List.forall_mem_append, List.forall_mem_singleton] at valid
    obtain ⟨frontValid, last⟩ := valid
    rw [Path.below_concat] at below
    have someFront := Path.below_ne_empty path frontValid nonempty
    obtain ⟨folder, above, -⟩ := (t.lookup_join_eq_ok_iff someFront last).1 below
    exact ih frontValid above

/-- A file below an opened folder is below one of its names. -/
theorem exists_enter_of_readText? (leads : t.lookup path = .ok spot) {name text : String}
    {names : List String} (visible : IsVisible name) (allVisible : ∀ name ∈ names, IsVisible name)
    (read : t.readText? (Path.below path (name :: names)) = some text) :
    ∃ next, t.enter spot path name = .ok next ∧ t.lookup (Path.join path name) = .ok next := by
  have someChild : Path.join path name ≠ "" :=
    Path.join_ne_empty visible.1.isRelative visible.1.nonempty
  obtain ⟨last, opened⟩ := t.exists_lookup_of_readText? read
  obtain ⟨next, below⟩ :=
    exists_lookup_of_below someChild (fun name mem => (allVisible name mem).1) opened
  exact ⟨next, (enter_eq_ok_iff leads visible.1).2 below, below⟩

end

/-- What folders have from what their visible names lead to, every spot has. -/
theorem induction_below {motive : Spot → String → Prop}
    (folder : ∀ spot path, t.node? spot.place = some .folder →
      (∀ name ∈ t.visibleNames spot.place, ∀ next,
        t.enter spot path name = .ok next → motive next (Path.join path name)) →
      motive spot path)
    (other : ∀ spot path, t.node? spot.place ≠ some .folder → motive spot path)
    (spot : Spot) (path : String) : motive spot path := by
  induction spot, path using foundFrom.induct (t := t) with
  | case1 spot path isFolder ih => exact folder spot path isFolder ih
  | case2 spot path bytes file => exact other spot path (by simp [file])
  | case3 spot path bytes file => exact other spot path (by simp [file])
  | case4 spot path notFolder => exact other spot path notFolder

/-- The rule files from a spot on are the files that visible names open. -/
theorem mem_textsFrom_iff (wf : t.WellFormed) {spot : Spot} {path : String}
    (leads : t.lookup path = .ok spot) {found : String × String} :
    found ∈ t.textsFrom spot path ↔ ∃ names, (∀ name ∈ names, IsVisible name) ∧
      found.1 = Path.below path names ∧ t.readText? found.1 = some found.2 := by
  obtain ⟨file, text⟩ := found
  induction spot, path using induction_below (t := t) with
  | folder spot path folder ih =>
    simp only [t.textsFrom_folder folder, List.mem_flatMap, mem_textsBelow_iff]
    constructor
    · rintro ⟨name, listed, next, step, mem⟩
      have visible := ((mem_visibleNames_iff wf).1 listed).1
      have below := (enter_eq_ok_iff leads visible.1).1 step
      obtain ⟨names, allVisible, same, read⟩ := (ih name listed next step below).1 mem
      exact ⟨name :: names, List.forall_mem_cons.2 ⟨visible, allVisible⟩, same, read⟩
    · rintro ⟨names, visible, rfl, read⟩
      cases names with
      | nil =>
        rw [Path.below, List.foldl_nil, t.readText?_of_ok leads, textAt?, folder] at read
        cases read
      | cons name names =>
        rw [List.forall_mem_cons] at visible
        obtain ⟨next, step, below⟩ := exists_enter_of_readText? leads visible.1 visible.2 read
        have there := t.node?_of_follow visible.1.1.notDot visible.1.1.notDots
          (follow_of_enter step)
        have listed : name ∈ t.visibleNames spot.place :=
          (mem_visibleNames_iff wf).2 ⟨visible.1, there⟩
        exact ⟨name, listed, next, step,
          (ih name listed next step below).2 ⟨names, visible.2, rfl, read⟩⟩
  | other spot path other =>
    rw [t.textsFrom_of_not_folder other]
    constructor
    · intro mem
      obtain ⟨rfl, read⟩ : file = path ∧ t.textAt? spot.place = some text := by
        simpa [eq_comm, and_comm] using mem
      exact ⟨[], by simp, rfl, (t.readText?_of_ok leads).trans read⟩
    · rintro ⟨names, visible, rfl, read⟩
      cases names with
      | nil =>
        rw [Path.below, List.foldl_nil] at read ⊢
        simp [← t.readText?_of_ok leads, read]
      | cons name names =>
        rw [List.forall_mem_cons] at visible
        obtain ⟨next, step, -⟩ := exists_enter_of_readText? leads visible.1 visible.2 read
        exact absurd (t.folder_of_follow (follow_of_enter step)) other

/-- The paths of the files to which a name leads go on from the name. -/
theorem key_of_mem_textsBelow (wf : t.WellFormed) {spot : Spot} {path name : String}
    (leads : t.lookup path = .ok spot) (isName : IsName name) {found : String × String}
    (mem : found ∈ t.textsBelow spot path name) :
    ∃ more, Path.key found.1 = Path.key path ++ Text.bytes name :: more := by
  obtain ⟨next, step, mem⟩ := t.mem_textsBelow_iff.1 mem
  have below := (enter_eq_ok_iff leads isName).1 step
  obtain ⟨names, visible, same, -⟩ := (mem_textsFrom_iff wf below).1 mem
  have valid : ∀ name ∈ names, IsName name := fun name mem => (visible name mem).1
  refine ⟨names.map Text.bytes, ?_⟩
  rw [same, Path.key, Path.names_below _ valid, Path.names_join isName.isRelative, isName.names,
    List.append_assoc, List.map_append]
  rfl

/-- The rule files from a spot on come in the order of their paths. -/
theorem pairwise_textsFrom (wf : t.WellFormed) {spot : Spot} {path : String}
    (leads : t.lookup path = .ok spot) :
    (t.textsFrom spot path).Pairwise fun a b => Path.key a.1 < Path.key b.1 := by
  induction spot, path using induction_below (t := t) with
  | other spot path other =>
    rw [t.textsFrom_of_not_folder other]
    cases t.textAt? spot.place <;> simp
  | folder spot path folder ih =>
    rw [t.textsFrom_folder folder, List.pairwise_flatMap]
    constructor
    · intro name listed
      have isName := ((mem_visibleNames_iff wf).1 listed).1.1
      rw [textsBelow]
      cases step : t.enter spot path name with
      | error reason => exact List.Pairwise.nil
      | ok next => exact ih name listed next step ((enter_eq_ok_iff leads isName).1 step)
    · have ordered : (t.visibleNames spot.place).Pairwise (· < ·) :=
        (pairwise_childNames wf spot.place).filter _
      refine ordered.imp_of_mem fun listed listed' less found mem found' mem' => ?_
      obtain ⟨⟨isName, -⟩, -⟩ := (mem_visibleNames_iff wf).1 listed
      obtain ⟨⟨isName', -⟩, -⟩ := (mem_visibleNames_iff wf).1 listed'
      obtain ⟨more, key⟩ := key_of_mem_textsBelow wf leads isName mem
      obtain ⟨more', key'⟩ := key_of_mem_textsBelow wf leads isName' mem'
      rw [key, key']
      exact List.append_left_lt (List.cons_lt_cons_iff.2 (.inl (Text.bytes_lt less)))

/-! ### Paths -/

variable {path : String}

theorem ruleTexts_of_ok {spot : Spot} (leads : t.lookup path = .ok spot) :
    t.ruleTexts path = t.textsFrom spot path := by
  rw [ruleTexts_eq, FileTree.found, leads, textsFrom]

theorem ruleTexts_of_error {reason : PathError} (nowhere : t.lookup path = .error reason) :
    t.ruleTexts path = [] := by
  rw [ruleTexts_eq, FileTree.found, nowhere]
  rfl

theorem ruleTexts_of_not_folder (other : t.isFolder path = false) :
    t.ruleTexts path = (t.readText? path).toList.map fun text => (path, text) := by
  cases leads : t.lookup path with
  | error reason =>
    rw [ruleTexts_of_error leads, readText?_eq, leads]
    rfl
  | ok spot =>
    have notFolder : t.node? spot.place ≠ some .folder := by
      intro folder
      rw [isFolder_eq_true_iff.2 ⟨spot, leads, folder⟩] at other
      cases other
    rw [ruleTexts_of_ok leads, t.textsFrom_of_not_folder notFolder, t.readText?_of_ok leads]

theorem mem_ruleTexts_iff (wf : t.WellFormed) (folder : t.isFolder path = true)
    {file text : String} :
    (file, text) ∈ t.ruleTexts path ↔ ∃ names, names ≠ [] ∧ (∀ name ∈ names, IsVisible name) ∧
      file = Path.below path names ∧ t.readText? file = some text := by
  obtain ⟨spot, leads, isFolder⟩ := isFolder_eq_true_iff.1 folder
  rw [ruleTexts_of_ok leads, mem_textsFrom_iff wf leads]
  refine exists_congr fun names => ⟨?_, fun ⟨_, listed⟩ => listed⟩
  rintro ⟨visible, rfl, read⟩
  refine ⟨?_, visible, rfl, read⟩
  rintro rfl
  rw [Path.below, List.foldl_nil, t.readText?_of_ok leads, textAt?, isFolder] at read
  cases read

theorem pairwise_ruleTexts (wf : t.WellFormed) (path : String) :
    (t.ruleTexts path).Pairwise fun a b => Path.key a.1 < Path.key b.1 := by
  cases leads : t.lookup path with
  | error reason =>
    rw [ruleTexts_of_error leads]
    exact List.Pairwise.nil
  | ok spot =>
    rw [ruleTexts_of_ok leads]
    exact pairwise_textsFrom wf leads

theorem reads_ruleTexts (wf : t.WellFormed) (path : String) : t.Reads path (t.ruleTexts path) where
  alone := ruleTexts_of_not_folder
  members folder _ _ := mem_ruleTexts_iff wf folder
  ordered := List.pairwise_map.2 (pairwise_ruleTexts wf path)

namespace Reads

variable {texts others : List (String × String)}

theorem nodup (reads : t.Reads path texts) : (texts.map Prod.fst).Nodup := by
  refine reads.ordered.imp fun less same => ?_
  rw [same] at less
  exact List.lt_irrefl _ less

/-- There is one way to read a path: the order of the files is told by their paths. -/
theorem unique (reads : t.Reads path texts) (again : t.Reads path others) : texts = others := by
  cases folder : t.isFolder path with
  | false => rw [reads.alone folder, again.alone folder]
  | true =>
    have same : texts.Perm others :=
      (List.perm_ext_iff_of_nodup (.of_map _ reads.nodup) (.of_map _ again.nodup)).2
        fun ⟨file, text⟩ =>
          (reads.members folder file text).trans (again.members folder file text).symm
    have ordered := List.pairwise_map.1 reads.ordered
    have orderedAgain := List.pairwise_map.1 again.ordered
    refine same.eq_of_pairwise (fun a b _ _ less more => ?_) ordered orderedAgain
    exact absurd (List.lt_trans less more) (List.lt_irrefl _)

end Reads

theorem directives_ruleSteps [Glob.Engine] (t : FileTree) (arch : String) (file : RuleFile)
    (path : String) :
    (t.ruleSteps file path).filterMap (Step.directive? arch) =
      ((t.ruleTexts path).flatMap fun found => Step.ofText file found.2).filterMap
        (Step.directive? arch) := by
  have notes (events : List Event) :
      (events.map Step.note).filterMap (Step.directive? arch) = [] := by
    rw [List.filterMap_map, List.filterMap_eq_nil_iff]
    exact fun _ _ => rfl
  rw [ruleSteps, List.filterMap_append, notes, List.nil_append, List.filterMap_flatMap,
    List.filterMap_flatMap]
  exact List.flatMap_congr fun found _ => List.filterMap_cons_none rfl

end FileTree

namespace Loader

variable [Glob.Engine]

theorem visited_run (loader : Loader) (steps : List Step) :
    (loader.run steps).visited = loader.visited := by
  induction steps generalizing loader with
  | nil => rfl
  | cons s steps ih =>
    have step : (loader.step s).visited = loader.visited := by
      cases s with
      | note event => rfl
      | line file text =>
        simp only [Loader.step]
        cases (Step.line file text).directive? loader.arch <;> rfl
      | acceptAll keywords =>
        simp only [Loader.step]
        cases (Step.acceptAll keywords).directive? loader.arch <;> rfl
    rw [run, List.foldl_cons, ← run, ih, step]

/-- Steps with the same directives differ in what they report only. -/
theorem run_eq_of_directives (loader : Loader) {first second : List Step}
    (same : first.filterMap (Step.directive? loader.arch) =
      second.filterMap (Step.directive? loader.arch)) :
    loader.run first = { loader.run second with log := (loader.run first).log } := by
  have arch := (loader.arch_run first).trans (loader.arch_run second).symm
  have visited := (loader.visited_run first).trans (loader.visited_run second).symm
  have rules : (loader.run first).rules = (loader.run second).rules := by
    rw [rules_run, rules_run, same]
  dsimp only
  rw [← arch, ← visited, ← rules]

/-- Loading the rules at a path is adding the texts of its rule files in order. -/
theorem addFile_eq (loader : Loader) (t : FileTree) (file : RuleFile) (path : String) :
    loader.addFile t file path =
      { (t.ruleTexts path).foldl (fun loader found => loader.addText file found.2) loader with
        log := (loader.addFile t file path).log } := by
  have texts : (t.ruleTexts path).foldl (fun loader found => loader.addText file found.2) loader =
      loader.run ((t.ruleTexts path).flatMap fun found => Step.ofText file found.2) :=
    (List.foldl_flatMap ..).symm
  rw [texts]
  exact loader.run_eq_of_directives (t.directives_ruleSteps loader.arch file path)

end Loader

/-- Reading rules at a path reads the file there. Of a folder it reads the files that are below it
by names without a dot in front, each once and in the order of their paths, and loading the rules
is adding these texts in that order. -/
theorem rule_files_complete_in_order [Glob.Engine] {t : FileTree} (wf : t.WellFormed)
    (path : String) :
    (t.isFolder path = false →
      t.ruleTexts path = (t.readText? path).toList.map fun text => (path, text)) ∧
    (t.isFolder path = true → ∀ file text, (file, text) ∈ t.ruleTexts path ↔
      ∃ names, names ≠ [] ∧ (∀ name ∈ names, IsVisible name) ∧ file = Path.below path names ∧
        t.readText? file = some text) ∧
    ((t.ruleTexts path).map Prod.fst).Nodup ∧
    ((t.ruleTexts path).map Prod.fst).Pairwise (fun a b => Path.key a < Path.key b) ∧
    ∀ (loader : Loader) (file : RuleFile), loader.addFile t file path =
      { (t.ruleTexts path).foldl (fun loader found => loader.addText file found.2) loader with
        log := (loader.addFile t file path).log } := by
  have reads := FileTree.reads_ruleTexts wf path
  exact ⟨reads.alone, reads.members, reads.nodup, reads.ordered, fun loader file =>
    loader.addFile_eq t file path⟩

/-- Masks in files of a folder, one of them reached through a link. -/
theorem rule_files_of_linked_folder :
    let masks : FileTree := { table :=
      [(["p"], .folder), (["p", "b"], .file "app-misc/foo\n".toUTF8), (["p", "a"], .folder),
        (["p", "a", "c"], .file "app-misc/bar\n".toUTF8),
        (["p", ".d"], .file "dev-lang/x\n".toUTF8),
        (["p", "e"], .link "a"), (["p", "f"], .link "gone"), (["p", "g"], .file ⟨#[255]⟩)] }
    masks.WellFormed ∧ masks.isFolder "/p" = true ∧
      ("/p/e/c", "app-misc/bar\n") ∈ masks.ruleTexts "/p" ∧
      ("/p/b", "app-misc/foo\n") ∈ masks.ruleTexts "/p" := by
  intro masks
  have wf : masks.WellFormed := by decide +kernel
  have folder : masks.isFolder "/p" = true := by decide +kernel
  obtain ⟨-, members, -⟩ := rule_files_complete_in_order wf "/p"
  refine ⟨wf, folder, (members folder _ _).2 ⟨["e", "c"], ?_⟩, (members folder _ _).2 ⟨["b"], ?_⟩⟩
  · decide +kernel
  · decide +kernel

end Ebuild
