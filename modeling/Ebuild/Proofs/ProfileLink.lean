import Ebuild.Proofs.FileTree.Resolve
import Ebuild.Proofs.Load

/-!
# The link to the profile

Loading reads the link `make.profile` itself and goes on to the path that its target makes with the
folder of the link. This path leads to where the link leads (`locate_join_target`), but it has one
link more to go, so the two differ where the link runs out of links.
-/

namespace Ebuild

namespace FileTree

variable {t : FileTree} {name : String}

/-! ### Files as folders -/

section
variable {place : Place} {bytes : ByteArray}

theorem lookup_below_file (wf : t.WellFormed) (file : t.node? place = some (.file bytes))
    (isName : IsName name) : ∃ reason, t.lookup (Path.join place.path name) = .error reason := by
  have there : (t.node? place).isSome = true := by rw [file]; rfl
  cases way : t.lookup (Path.join place.path name) with
  | error reason => exact ⟨reason, rfl⟩
  | ok spot =>
    obtain ⟨folder, above, -, step⟩ :=
      (t.lookup_join_eq_ok_iff (Path.path_ne_empty place) isName).1 way
    have found := (t.lookup_eq_ok_iff.1 above).2
    rw [locate_path wf there (by simp [file])] at found
    cases found
    have isFolder := t.folder_of_follow step
    rw [file] at isFolder
    cases isFolder

theorem namesParents_of_file (wf : t.WellFormed) (file : t.node? place = some (.file bytes)) :
    t.NamesParents place.path [] := by
  obtain ⟨reason, nowhere⟩ := lookup_below_file wf file (show IsName "parent" by decide)
  have unread : t.readText? (Path.join place.path "parent") = none := by
    rw [readText?_eq, nowhere]
    rfl
  rw [NamesParents, unread]

theorem profileLines_of_file (wf : t.WellFormed) (file : t.node? place = some (.file bytes)) :
    Reading.profileLines t.ruleTexts place = [] := by
  have none (rules : RuleFile) {name : String} (isName : IsName name) :
      Reading.lines t.ruleTexts rules (Path.join place.path name) = [] := by
    obtain ⟨reason, nowhere⟩ := lookup_below_file wf file isName
    rw [Reading.lines, ruleTexts_of_error nowhere]
    rfl
  rw [Reading.profileLines, none _ (by decide), none _ (by decide), none _ (by decide)]
  rfl

end

theorem canonical?_eq (path : String) :
    t.canonical? path = ((t.resolve path).map Spot.place).toOption := by
  rw [canonical?]
  cases t.resolve path <;> rfl

theorem DepthFirst.congr {visited order : List Place} {path other : String}
    (same : t.canonical? path = t.canonical? other) (walk : t.DepthFirst visited [path] order) :
    t.DepthFirst visited [other] order := by
  cases walk with
  | unresolved nowhere rest => exact .unresolved (same ▸ nowhere) rest
  | repeated found old rest => exact .repeated (same ▸ found) old rest
  | fresh found new names parents rest => exact .fresh (same ▸ found) new names parents rest

/-- Only where a path leads counts for loading the profile there. -/
theorem traverse_congr [Glob.Engine] (visited : List Place) {path other : String}
    (same : t.canonical? path = t.canonical? other) (arch : String) :
    (t.traverse visited [path]).visited = (t.traverse visited [other]).visited ∧
      (t.traverse visited [path]).steps.filterMap (Step.directive? arch) =
        (t.traverse visited [other]).steps.filterMap (Step.directive? arch) := by
  obtain ⟨order, walk, seen, steps⟩ := t.directives_traverse arch visited [path]
  obtain ⟨order', walk', seen', steps'⟩ := t.directives_traverse arch visited [other]
  obtain rfl := walk'.unique (walk.congr same)
  exact ⟨seen.trans seen'.symm, steps.trans steps'.symm⟩

end FileTree

namespace Settings

variable {s : Settings} {t : FileTree}

/-- What `make.profile` under `etc/portage` is. If it is a link, it is not followed. -/
def profileNode? (s : Settings) (t : FileTree) : Option Node :=
  (t.lookup s.portageDir).toOption.bind fun spot => t.node? (spot.place ++ ["make.profile"])

def HasProfile (s : Settings) (t : FileTree) : Prop :=
  s.profileNode? t = some .folder ∨ ∃ target, s.profileNode? t = some (.link target)

theorem portageDir_spec (s : Settings) :
    s.portageDir ≠ "" ∧ s.portageDir.toList.getLast? ≠ some '/' := by
  have relative : Path.isAbsolute "etc/portage" = false := by decide
  obtain ⟨glue, -, joined⟩ := Path.exists_glue relative s.configRoot
  refine ⟨Path.join_ne_empty relative (by decide), ?_⟩
  have last : "etc/portage".toList = "etc/portag".toList ++ ['e'] := by decide
  rw [portageDir, joined, String.toList_append, last, ← List.append_assoc, List.getLast?_concat]
  decide

theorem hasProfile_of_target {target : String}
    (link : (s.profileNode? t).bind Node.target? = some target) : s.HasProfile t := by
  obtain ⟨node, entry, isLink⟩ := Option.bind_eq_some_iff.1 link
  exact .inr ⟨target, entry.trans (congrArg some (Node.target?_eq_some_iff.1 isLink))⟩

theorem profileNode?_of_ok {spot : Spot} (found : t.lookup s.portageDir = .ok spot) :
    s.profileNode? t = t.node? (spot.place ++ ["make.profile"]) := by
  rw [profileNode?, found]
  rfl

theorem profileNode?_of_error {reason : PathError}
    (nowhere : t.lookup s.portageDir = .error reason) : s.profileNode? t = none := by
  rw [profileNode?, nowhere]
  rfl

theorem short_portageDir (short : s.profileLink.utf8ByteSize < FileTree.maxPathSize) :
    s.portageDir.utf8ByteSize < FileTree.maxPathSize :=
  Nat.lt_of_le_of_lt (Path.utf8ByteSize_le_join (by decide) s.portageDir) short

/-- If `make.profile` is no link, it leads to itself. -/
theorem lookup_profileLink_iff (wf : t.WellFormed)
    (short : s.profileLink.utf8ByteSize < FileTree.maxPathSize)
    (notLink : ∀ target, s.profileNode? t ≠ some (.link target)) {node : Node} :
    (∃ spot, t.lookup s.profileLink = .ok spot ∧ t.node? spot.place = some node) ↔
      s.profileNode? t = some node := by
  have isName : IsName "make.profile" := by decide
  simp only [profileLink, t.lookup_join_eq_ok_iff s.portageDir_spec.1 isName]
  cases found : t.lookup s.portageDir with
  | error reason => simp [profileNode?_of_error found]
  | ok folder =>
    rw [profileNode?_of_ok found] at notLink ⊢
    constructor
    · rintro ⟨spot, ⟨next, same, -, step⟩, there⟩
      cases same
      have isThere := t.node?_of_follow (by decide) (by decide) step
      rw [FileTree.follow_entry wf isThere notLink] at step
      cases step
      exact there
    · intro there
      exact ⟨_, ⟨folder, rfl, short, FileTree.follow_entry wf (by simp [there]) notLink _⟩, there⟩

def profileAt? (s : Settings) : Node → Option String
  | .link target => some (Path.join s.portageDir target)
  | .folder => some s.profileLink
  | .file _ => none

theorem profilePath?_eq (wf : t.WellFormed) (implicit : s.profile = none)
    (short : s.profileLink.utf8ByteSize < FileTree.maxPathSize) :
    s.profilePath? t = (s.profileNode? t).bind s.profileAt? := by
  obtain ⟨nonempty, noSlash⟩ := s.portageDir_spec
  have read : t.readLink? s.profileLink = (s.profileNode? t).bind Node.target? := by
    rw [profileLink, FileTree.readLink?_join wf (by decide) nonempty noSlash short, profileNode?]
    cases t.lookup s.portageDir <;> rfl
  rw [profilePath?, implicit, read]
  by_cases link : ∃ target, s.profileNode? t = some (.link target)
  · obtain ⟨target, link⟩ := link
    rw [link]
    rfl
  · have folder : t.isFolder s.profileLink = true ↔ s.profileNode? t = some .folder :=
      FileTree.isFolder_eq_true_iff.trans (lookup_profileLink_iff wf short (not_exists.1 link))
    cases node : s.profileNode? t with
    | none => simpa [node] using folder
    | some node' =>
      cases node' with
      | link target => exact absurd ⟨target, node⟩ link
      | folder => simpa [node, Node.target?, profileAt?] using folder
      | file bytes => simpa [node, Node.target?, profileAt?] using folder

theorem hasProfile_iff (wf : t.WellFormed) (implicit : s.profile = none)
    (short : s.profileLink.utf8ByteSize < FileTree.maxPathSize) :
    s.HasProfile t ↔ ∃ path, s.profilePath? t = some path := by
  rw [profilePath?_eq wf implicit short, HasProfile]
  cases s.profileNode? t with
  | none => simp
  | some node => cases node <;> simp [profileAt?]

/-- A folder on the way to a canonical path is opened where that way goes. -/
theorem resolve_portageDir (short : s.profileLink.utf8ByteSize < FileTree.maxPathSize)
    (fit : t.resolve s.profileLink ≠ .error .pathTooLong) :
    t.lookup s.portageDir = t.resolve s.portageDir := by
  obtain ⟨nonempty, noSlash⟩ := s.portageDir_spec
  refine t.lookup_eq_resolve (short_portageDir short) fun refused => fit ?_
  rw [FileTree.resolve] at refused
  rw [FileTree.resolve, profileLink, t.locate_join_name nonempty (by decide) noSlash, refused]
  rfl

/-- The profile is found where `make.profile` leads, if that meets no limit. -/
theorem canonical?_profilePath (wf : t.WellFormed) (implicit : s.profile = none)
    (short : s.profileLink.utf8ByteSize < FileTree.maxPathSize) {path : String}
    (found : s.profilePath? t = some path)
    (enough : t.resolve s.profileLink ≠ .error .tooManyLinks)
    (fit : t.resolve s.profileLink ≠ .error .pathTooLong) :
    t.canonical? path = t.canonical? s.profileLink := by
  rw [profilePath?_eq wf implicit short] at found
  obtain ⟨node, entry, profile⟩ := Option.bind_eq_some_iff.1 found
  cases node with
  | file bytes => cases profile
  | folder =>
    cases profile
    rfl
  | link target =>
    cases profile
    cases folder : t.lookup s.portageDir with
    | error reason =>
      rw [profileNode?_of_error folder] at entry
      cases entry
    | ok spot =>
      rw [profileNode?_of_ok folder] at entry
      rw [resolve_portageDir short fit] at folder
      have same := FileTree.locate_join_target wf folder s.portageDir_spec.2 entry enough fit
      rw [FileTree.canonical?_eq, FileTree.canonical?_eq, profileLink]
      exact congrArg Except.toOption same

/-! ### Loading -/

section
variable [Glob.Engine]

def afterProfile (s : Settings) (t : FileTree) (loader : Loader) : Loader :=
  ((((loader.addFile t (.masks .mask) (Path.join s.portageDir "package.mask")).addFile t
    (.masks .unmask) (Path.join s.portageDir "package.unmask")).addFile t
    .acceptKeywords (Path.join s.portageDir "package.accept_keywords")).addFile t
    .acceptKeywords (Path.join s.portageDir "package.keywords")).acceptAll s.acceptKeywords

theorem afterProfile_eq_run (s : Settings) (t : FileTree) (loader : Loader) :
    s.afterProfile t loader = loader.run
      ((ruleFiles.flatMap fun (file, name) => t.ruleSteps file (Path.join s.portageDir name)) ++
        [.acceptAll s.acceptKeywords]) := by
  simp only [ruleFiles, List.flatMap_cons, List.flatMap_nil, List.append_nil, Loader.run_append]
  rfl

/-- The rules loaded are those of any profile with the same rules and of what follows it. -/
theorem rules_load_of_directives {path : String}
    (same : (s.profileWalk t).steps.filterMap (Step.directive? s.arch) =
      (t.traverse [] [path]).steps.filterMap (Step.directive? s.arch)) :
    (s.load t).rules = (s.afterProfile t (Loader.addProfile { arch := s.arch } t path)).rules := by
  have arch : (Loader.addProfile { arch := s.arch } t path).arch = s.arch := Loader.arch_run _ _
  have rules : (Loader.addProfile { arch := s.arch } t path).rules =
      ((t.traverse [] [path]).steps.filterMap (Step.directive? s.arch)).foldl RuleSet.apply {} :=
    Loader.rules_run _ _
  have loaded : (s.load t).rules = (Loader.run { arch := s.arch } (s.steps t)).rules := rfl
  rw [loaded, afterProfile_eq_run, Loader.rules_run, Loader.rules_run, arch, rules, steps,
    List.append_assoc, List.filterMap_append, List.foldl_append, same]

end

/-- Without a link or a folder, `make.profile` brings nothing. -/
theorem depthFirst_of_not_hasProfile (wf : t.WellFormed)
    (short : s.profileLink.utf8ByteSize < FileTree.maxPathSize) (absent : ¬ s.HasProfile t) :
    ∃ order, t.DepthFirst [] [s.profileLink] order ∧ ∀ place ∈ order,
      t.node? place ≠ some .folder ∧ Reading.profileLines t.ruleTexts place = [] := by
  obtain ⟨notFolder, notLink⟩ := not_or.1 absent
  cases found : t.resolve s.profileLink with
  | error reason =>
    exact ⟨[], .unresolved (FileTree.canonical?_of_error found) .done, fun _ mem => by cases mem⟩
  | ok spot =>
    have opened : t.lookup s.profileLink = .ok spot := by
      rw [t.lookup_eq_resolve short (by simp [found]), found]
    obtain ⟨node, there⟩ := Option.isSome_iff_exists.1 (FileTree.resolve_found found)
    have entry :=
      (lookup_profileLink_iff wf short (not_exists.1 notLink)).1 ⟨spot, opened, there⟩
    cases node with
    | folder => exact absurd entry notFolder
    | link target => exact absurd ⟨target, entry⟩ notLink
    | file bytes =>
      have names := FileTree.namesParents_of_file wf there
      have walk : t.DepthFirst [] [s.profileLink] [spot.place] :=
        .fresh (FileTree.canonical?_of_ok found) List.not_mem_nil names .done .done
      refine ⟨[spot.place], walk, List.forall_mem_singleton.2 ⟨by simp [there], ?_⟩⟩
      exact FileTree.profileLines_of_file wf there

/-- So loading the profile there reads no folder and brings no rules. -/
theorem traverse_of_not_hasProfile [Glob.Engine] (wf : t.WellFormed)
    (short : s.profileLink.utf8ByteSize < FileTree.maxPathSize) (absent : ¬ s.HasProfile t) :
    (∀ place ∈ (t.traverse [] [s.profileLink]).visited, t.node? place ≠ some .folder) ∧
      (t.traverse [] [s.profileLink]).steps.filterMap (Step.directive? s.arch) = [] := by
  obtain ⟨order, walk, nothing⟩ := depthFirst_of_not_hasProfile wf short absent
  obtain ⟨order', walk', visited, directives⟩ := t.directives_traverse s.arch [] [s.profileLink]
  obtain rfl := walk.unique walk'
  have noLines : order'.flatMap (Reading.profileLines t.ruleTexts) = [] :=
    List.flatMap_eq_nil_iff.2 fun place mem => (nothing place mem).2
  rw [visited, directives, noLines, List.append_nil]
  exact ⟨fun place mem => (nothing place (List.mem_reverse.1 mem)).1, rfl⟩

end Settings

/-- If `make.profile` is a link or a folder, the profile is found where it leads and loading reads
the folders that it brings, unless its canonical form runs out of links or asks for a path too long.
Otherwise there is no profile. -/
theorem profile_link_followed [Glob.Engine] {s : Settings} {t : FileTree} (wf : t.WellFormed)
    (implicit : s.profile = none)
    (short : s.profileLink.utf8ByteSize < FileTree.maxPathSize) :
    let direct := Loader.addProfile { arch := s.arch } t s.profileLink
    (s.HasProfile t → ∃ path, s.profilePath? t = some path ∧
      (t.resolve s.profileLink ≠ .error .tooManyLinks →
        t.resolve s.profileLink ≠ .error .pathTooLong →
        t.canonical? path = t.canonical? s.profileLink ∧
          (s.load t).visited = direct.visited ∧
          (s.load t).rules = (s.afterProfile t direct).rules)) ∧
    (¬ s.HasProfile t → s.profilePath? t = none ∧ (s.load t).visited = [] ∧
      (∀ place ∈ direct.visited, t.node? place ≠ some .folder) ∧
      (s.load t).rules = (s.afterProfile t direct).rules) := by
  intro direct
  have loaded : (s.load t).visited = (s.profileWalk t).visited := rfl
  have read : direct.visited = (t.traverse [] [s.profileLink]).visited := rfl
  rw [Settings.hasProfile_iff wf implicit short, loaded, read]
  constructor
  · rintro ⟨path, found⟩
    have walk : s.profileWalk t = t.traverse [] [path] := by rw [Settings.profileWalk, found]
    refine ⟨path, found, fun enough fit => ?_⟩
    have same := Settings.canonical?_profilePath wf implicit short found enough fit
    obtain ⟨visited, directives⟩ := FileTree.traverse_congr [] same s.arch
    rw [walk]
    exact ⟨same, visited, Settings.rules_load_of_directives (by rw [walk, directives])⟩
  · intro absent
    have nowhere : s.profilePath? t = none :=
      Option.eq_none_iff_forall_not_mem.2 (not_exists.1 absent)
    have walk : s.profileWalk t = ⟨[.note (.noProfile s.profileLink)], []⟩ := by
      rw [Settings.profileWalk, nowhere]
    rw [← Settings.hasProfile_iff wf implicit short] at absent
    obtain ⟨noFolder, directives⟩ := Settings.traverse_of_not_hasProfile wf short absent
    rw [walk]
    exact ⟨nowhere, rfl, noFolder,
      Settings.rules_load_of_directives (by rw [walk, directives]; rfl)⟩

/-- A relative link below a folder that is itself reached through a link. -/
theorem profile_link_followed_below_link :
    let linked : FileTree := { table :=
      [(["root"], .link "system/./"), (["system"], .folder), (["system", "etc"], .folder),
        (["system", "etc", "portage"], .folder),
        (["system", "etc", "portage", "make.profile"], .link "../../../profile"),
        (["profile"], .folder), (["profile", "package.mask"], .file "app-misc/foo\n".toUTF8)] }
    let s : Settings := { configRoot := "/root" }
    linked.WellFormed ∧ s.profile = none ∧
      s.profileLink.utf8ByteSize < FileTree.maxPathSize ∧ s.HasProfile linked ∧
      linked.resolve s.profileLink ≠ .error .tooManyLinks ∧
      linked.resolve s.profileLink ≠ .error .pathTooLong ∧
      ∃ path, s.profilePath? linked = some path ∧ linked.canonical? path = some ["profile"] ∧
        (s.load linked).visited =
          (Loader.addProfile { arch := s.arch } linked s.profileLink).visited := by
  intro linked s
  have wf : linked.WellFormed := by decide +kernel
  have link : (s.profileNode? linked).bind Node.target? = some "../../../profile" := by
    decide +kernel
  have present : s.HasProfile linked := Settings.hasProfile_of_target link
  have leads : linked.canonical? s.profileLink = some ["profile"] := by decide +kernel
  have enough : linked.resolve s.profileLink ≠ .error .tooManyLinks := by decide +kernel
  have fit : linked.resolve s.profileLink ≠ .error .pathTooLong := by decide +kernel
  have short : s.profileLink.utf8ByteSize < FileTree.maxPathSize := by decide +kernel
  obtain ⟨path, found, follows⟩ := (profile_link_followed wf rfl short).1 present
  obtain ⟨same, visited, -⟩ := follows enough fit
  exact ⟨wf, rfl, short, present, enough, fit, path, found, same.trans leads, visited⟩

/-! ### Running out of links -/

/-- Whether no link leads back to itself: with enough links to go, none runs out. -/
def FileTree.LoopFree (t : FileTree) : Prop :=
  ∃ links, ∀ place ∈ t.places, FileTree.follow t anywhere links [] place ≠ .error .tooManyLinks

def linkChain (names : List String) : List (Place × Node) :=
  (names.zip names.tail).map fun (name, next) => ([name], .link next)

/-- A tree with the root of the settings behind 20 links and the profile behind 26. -/
def manyLinks : FileTree where
  table := [(["system"], .folder), (["system", "etc"], .folder),
      (["system", "etc", "portage"], .folder),
      (["system", "etc", "portage", "make.profile"], .link "/a"), (["profile"], .folder)] ++
    linkChain ["A", "B", "C", "D", "E", "F", "G", "H", "I", "J", "K", "L", "M", "N", "O", "P", "Q",
      "R", "S", "T", "system"] ++
    linkChain ["a", "b", "c", "d", "e", "f", "g", "h", "i", "j", "k", "l", "m", "n", "o", "p", "q",
      "r", "s", "t", "u", "v", "w", "x", "y", "profile"]

/-- The profile is found behind 25 links, but `make.profile` leads nowhere, being behind 46. -/
theorem profile_found_beyond_links :
    let s : Settings := { configRoot := "/A" }
    manyLinks.WellFormed ∧ manyLinks.LoopFree ∧ Path.isAbsolute s.configRoot = true ∧
      s.profile = none ∧ s.HasProfile manyLinks ∧ s.profilePath? manyLinks = some "/a" ∧
      manyLinks.canonical? "/a" = some ["profile"] ∧
      manyLinks.canonical? s.profileLink = none := by
  intro s
  have wf : manyLinks.WellFormed := by decide +kernel
  have loopFree : manyLinks.LoopFree := ⟨50, by decide +kernel⟩
  have link : (s.profileNode? manyLinks).bind Node.target? = some "/a" := by decide +kernel
  have present : s.HasProfile manyLinks := Settings.hasProfile_of_target link
  refine ⟨wf, loopFree, by decide, rfl, present, ?_, ?_, ?_⟩
  · decide +kernel
  · decide +kernel
  · decide +kernel

end Ebuild
