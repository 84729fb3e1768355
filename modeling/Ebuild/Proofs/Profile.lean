import Mathlib.Data.List.Basic
import Mathlib.Logic.Relation
import Ebuild.Profile
import Ebuild.Proofs.Rules.Collections

/-!
# Profile folders in depth-first order

`DepthFirst` says in which order the folders at some paths and their parents are to be read.
`profile_read_depth_first` says that loading a profile reads them in that order, that they are the
folders to which parents lead past none that was visited before, and that nothing is read twice.
-/

namespace Ebuild

/-- A step of loading but for the reports on paths that are passed over. -/
def Step.reads : Step → Bool
  | note (.unresolvedProfile _ _) | note (.repeatedProfile _) => false
  | _ => true

namespace FileTree

variable {t : FileTree} {visited order : List Place} {todo : List String} {path : String}
  {place : Place}

def canonical? (t : FileTree) (path : String) : Option Place :=
  (t.resolve path).toOption.map Spot.place

theorem canonical?_of_ok {spot : Spot} (found : t.resolve path = .ok spot) :
    t.canonical? path = some spot.place := by
  rw [canonical?, found]
  rfl

theorem canonical?_of_error {reason : PathError} (nowhere : t.resolve path = .error reason) :
    t.canonical? path = none := by
  rw [canonical?, nowhere]
  rfl

/-- The paths that lines name, in their order: a line without the white space around it, counted
from the folder. Empty lines and comments name none. -/
inductive LinesName (folder : String) : (lines paths : List String) → Prop
  | done : LinesName folder [] []
  | passed {line : String} {lines paths : List String}
    (none : Text.trimmed line = "" ∨ (Text.trimmed line).toList.head? = some '#')
    (rest : LinesName folder lines paths) : LinesName folder (line :: lines) paths
  | named {line : String} {lines paths : List String} (nonempty : Text.trimmed line ≠ "")
    (noComment : (Text.trimmed line).toList.head? ≠ some '#')
    (rest : LinesName folder lines paths) :
    LinesName folder (line :: lines) (Path.join folder (Text.trimmed line) :: paths)

/-- Whether the file `parent` of a profile folder names these paths, no such file naming none. -/
def NamesParents (t : FileTree) (folder : String) (paths : List String) : Prop :=
  match t.readText? (Path.join folder "parent") with
  | none => paths = []
  | some text => LinesName folder (Text.lineList text) paths

def IsParent (t : FileTree) (folder parent : Place) : Prop :=
  ∃ paths, t.NamesParents folder.path paths ∧ ∃ path ∈ paths, t.canonical? path = some parent

/-- Whether a path leads to a folder and parents lead on to `place`, all of them not `visited`. -/
def Reaches (t : FileTree) (visited : List Place) (path : String) (place : Place) : Prop :=
  ∃ start ∉ visited, t.canonical? path = some start ∧
    Relation.ReflTransGen (fun folder parent => t.IsParent folder parent ∧ parent ∉ visited)
      start place

/-- The order in which the folders at the paths `todo` are to be read: each before its parents, the
parents in the order of naming, and before the next path. A path to nowhere or to a folder that is
visited by then gives none. -/
inductive DepthFirst (t : FileTree) : List Place → List String → List Place → Prop
  | done {visited : List Place} : DepthFirst t visited [] []
  | unresolved {visited order : List Place} {path : String} {todo : List String}
    (nowhere : t.canonical? path = none) (rest : DepthFirst t visited todo order) :
    DepthFirst t visited (path :: todo) order
  | repeated {visited order : List Place} {path : String} {todo : List String} {place : Place}
    (found : t.canonical? path = some place) (old : place ∈ visited)
    (rest : DepthFirst t visited todo order) : DepthFirst t visited (path :: todo) order
  | fresh {visited above after : List Place} {path : String} {todo named : List String}
    {place : Place} (found : t.canonical? path = some place) (new : place ∉ visited)
    (names : t.NamesParents place.path named)
    (parents : DepthFirst t (place :: visited) named above)
    (rest : DepthFirst t (above.reverse ++ place :: visited) todo after) :
    DepthFirst t visited (path :: todo) (place :: (above ++ after))

theorem LinesName.unique {folder : String} {lines paths others : List String}
    (names : LinesName folder lines paths) (again : LinesName folder lines others) :
    others = paths := by
  induction names generalizing others with
  | done => cases again; rfl
  | passed none _ ih =>
    cases again with
    | passed _ rest => exact ih rest
    | named nonempty noComment => exact (none.elim nonempty noComment).elim
  | named nonempty noComment _ ih =>
    cases again with
    | passed none => exact (none.elim nonempty noComment).elim
    | named _ _ rest => rw [ih rest]

theorem linesName_filter (folder : String) (lines : List (List Char)) :
    LinesName folder (lines.map String.ofList)
      (((lines.map Text.trim).filter fun line => !line.isEmpty && line.head? != some '#').map
        fun line => Path.join folder (String.ofList line)) := by
  induction lines with
  | nil => exact .done
  | cons line lines ih =>
    have trimmed : Text.trimmed (String.ofList line) = String.ofList (Text.trim line) := by
      rw [Text.trimmed, String.toList_ofList]
    rw [List.map_cons, List.map_cons, List.filter_cons]
    split
    · rename_i kept
      rw [Bool.and_eq_true] at kept
      rw [List.map_cons, ← trimmed]
      refine .named ?_ ?_ ih
      · rw [trimmed]
        simpa using kept.1
      · rw [trimmed, String.toList_ofList]
        simpa using kept.2
    · rename_i left
      refine .passed ?_ ih
      rw [trimmed, String.toList_ofList]
      simpa [Decidable.or_iff_not_imp_left] using left

/-- The parents of a folder are what its file `parent` names. -/
theorem namesParents_iff {folder : String} {paths : List String} :
    t.NamesParents folder paths ↔ paths = t.parents folder := by
  cases text : t.readText? (Path.join folder "parent") with
  | none =>
    have none : t.parents folder = [] := by
      rw [parents, text]
      rfl
    rw [NamesParents, text, none]
  | some text' =>
    have names : LinesName folder (Text.lineList text') (t.parents folder) := by
      rw [parents, text]
      exact linesName_filter folder (Text.lines text'.toList)
    rw [NamesParents, text]
    exact ⟨names.unique, fun same => same ▸ names⟩

theorem Reaches.of_subset {less : List Place} (reaches : t.Reaches visited path place)
    (sub : less ⊆ visited) : t.Reaches less path place := by
  obtain ⟨start, new, found, way⟩ := reaches
  refine ⟨start, fun old => new (sub old), found, Relation.ReflTransGen.mono ?_ _ _ way⟩
  rintro folder parent ⟨named, fresh⟩
  exact ⟨named, fun old => fresh (sub old)⟩

namespace DepthFirst

theorem unique (walk : t.DepthFirst visited todo order) {other : List Place}
    (again : t.DepthFirst visited todo other) : other = order := by
  induction walk generalizing other with
  | done => cases again; rfl
  | unresolved nowhere _ ih =>
    cases again with
    | unresolved _ rest => exact ih rest
    | repeated found => simp [found] at nowhere
    | fresh found => simp [found] at nowhere
  | repeated found old _ ih =>
    cases again with
    | unresolved nowhere => simp [found] at nowhere
    | repeated _ _ rest => exact ih rest
    | fresh found' new =>
      obtain rfl := Option.some.inj (found.symm.trans found')
      exact absurd old new
  | fresh found new names _ _ ihParents ihRest =>
    cases again with
    | unresolved nowhere => simp [found] at nowhere
    | repeated found' old =>
      obtain rfl := Option.some.inj (found.symm.trans found')
      exact absurd old new
    | fresh found' _ names' parents rest =>
      obtain rfl := Option.some.inj (found.symm.trans found')
      obtain rfl := (namesParents_iff.1 names').trans (namesParents_iff.1 names).symm
      obtain rfl := ihParents parents
      obtain rfl := ihRest rest
      rfl

/-- Paths after one another give their folders after one another. -/
theorem split {first second : List String} (walk : t.DepthFirst visited (first ++ second) order) :
    ∃ above after, order = above ++ after ∧ t.DepthFirst visited first above ∧
      t.DepthFirst (above.reverse ++ visited) second after := by
  induction first generalizing visited order with
  | nil => exact ⟨[], order, rfl, .done, walk⟩
  | cons path first ih =>
    rw [List.cons_append] at walk
    cases walk with
    | unresolved nowhere rest =>
      obtain ⟨above, after, rfl, front, back⟩ := ih rest
      exact ⟨above, after, rfl, .unresolved nowhere front, back⟩
    | repeated found old rest =>
      obtain ⟨above, after, rfl, front, back⟩ := ih rest
      exact ⟨above, after, rfl, .repeated found old front, back⟩
    | @fresh _ up _ _ _ _ place found new names parents rest =>
      obtain ⟨above, after, rfl, front, back⟩ := ih rest
      refine ⟨place :: (up ++ above), after, by simp, .fresh found new names parents front, ?_⟩
      simpa using back

theorem nodup_disjoint (walk : t.DepthFirst visited todo order) :
    order.Nodup ∧ ∀ place ∈ order, place ∉ visited := by
  induction walk with
  | done => exact ⟨List.nodup_nil, by simp⟩
  | unresolved _ _ ih => exact ih
  | repeated _ _ _ ih => exact ih
  | @fresh visited above after _ _ _ place _ new _ _ _ ihParents ihRest =>
    obtain ⟨aboveNodup, aboveNew⟩ := ihParents
    obtain ⟨afterNodup, afterNew⟩ := ihRest
    simp only [List.mem_append, List.mem_reverse, List.mem_cons, not_or] at aboveNew afterNew
    refine ⟨?_, ?_⟩
    · rw [List.nodup_cons, List.mem_append, List.nodup_append]
      refine ⟨?_, aboveNodup, afterNodup, ?_⟩
      · rintro (mem | mem)
        · exact (aboveNew place mem).1 rfl
        · exact (afterNew place mem).2.1 rfl
      · rintro a inAbove b inAfter rfl
        exact (afterNew a inAfter).1 inAbove
    · intro other mem
      rw [List.mem_cons, List.mem_append] at mem
      rcases mem with rfl | mem | mem
      · exact new
      · exact (aboveNew other mem).2
      · exact (afterNew other mem).2.2

/-- What the paths and the parents of the folders read lead to is visited in the end. -/
theorem closed (walk : t.DepthFirst visited todo order) :
    (∀ path ∈ todo, ∀ place, t.canonical? path = some place → place ∈ visited ∨ place ∈ order) ∧
      ∀ folder ∈ order, ∀ parent, t.IsParent folder parent →
        parent ∈ visited ∨ parent ∈ order := by
  induction walk with
  | done => exact ⟨by simp, by simp⟩
  | unresolved nowhere _ ih =>
    refine ⟨?_, ih.2⟩
    simp only [List.forall_mem_cons]
    exact ⟨fun place found => by simp [found] at nowhere, ih.1⟩
  | repeated found old _ ih =>
    refine ⟨?_, ih.2⟩
    simp only [List.forall_mem_cons]
    refine ⟨fun place found' => ?_, ih.1⟩
    obtain rfl := Option.some.inj (found.symm.trans found')
    exact .inl old
  | @fresh visited above after _ _ _ place found _ names _ _ ihParents ihRest =>
    have inAbove {other : Place} (h : other ∈ place :: visited ∨ other ∈ above) :
        other ∈ visited ∨ other ∈ place :: (above ++ after) := by
      rcases h with h | h
      · rcases List.mem_cons.1 h with rfl | h
        · exact .inr (List.mem_cons_self ..)
        · exact .inl h
      · exact .inr (by simp [h])
    have inAfter {other : Place} (h : other ∈ above.reverse ++ place :: visited ∨ other ∈ after) :
        other ∈ visited ∨ other ∈ place :: (above ++ after) := by
      rcases h with h | h
      · rw [List.mem_append, List.mem_reverse] at h
        exact inAbove h.symm
      · exact .inr (by simp [h])
    constructor
    · simp only [List.forall_mem_cons]
      refine ⟨fun other found' => ?_, fun path mem other found' => ?_⟩
      · obtain rfl := Option.some.inj (found.symm.trans found')
        exact .inr (List.mem_cons_self ..)
      · exact inAfter (ihRest.1 path mem other found')
    · simp only [List.forall_mem_cons, List.forall_mem_append]
      refine ⟨?_, ?_, ?_⟩
      · rintro parent ⟨paths, names', path, mem, found'⟩
        obtain rfl := (namesParents_iff.1 names').trans (namesParents_iff.1 names).symm
        exact inAbove (ihParents.1 path mem parent found')
      · exact fun folder mem parent named => inAbove (ihParents.2 folder mem parent named)
      · exact fun folder mem parent named => inAfter (ihRest.2 folder mem parent named)

theorem reached (walk : t.DepthFirst visited todo order) :
    ∀ place ∈ order, ∃ path ∈ todo, t.Reaches visited path place := by
  induction walk with
  | done => simp
  | unresolved _ _ ih | repeated _ _ _ ih =>
    intro place mem
    obtain ⟨path, inTodo, reaches⟩ := ih place mem
    exact ⟨path, List.mem_cons_of_mem _ inTodo, reaches⟩
  | @fresh visited above after path _ paths place found new names _ _ ihParents ihRest =>
    intro other mem
    rw [List.mem_cons, List.mem_append] at mem
    rcases mem with rfl | mem | mem
    · exact ⟨path, List.mem_cons_self .., other, new, found, .refl⟩
    · obtain ⟨line, named, reaches⟩ := ihParents other mem
      obtain ⟨parent, fresh, found', way⟩ := reaches.of_subset (List.subset_cons_self place visited)
      exact ⟨path, List.mem_cons_self .., place, new, found,
        .head ⟨⟨paths, names, line, named, found'⟩, fresh⟩ way⟩
    · obtain ⟨line, inTodo, reaches⟩ := ihRest other mem
      refine ⟨line, List.mem_cons_of_mem _ inTodo, reaches.of_subset ?_⟩
      intro old mem
      simp [mem]

/-- The folders read are those that are reached. The guard against visited folders cuts no way
short, because the folders read lead nowhere but to visited ones. -/
theorem mem_iff (walk : t.DepthFirst visited todo order) :
    place ∈ order ↔ ∃ path ∈ todo, t.Reaches visited path place := by
  refine ⟨walk.reached place, ?_⟩
  rintro ⟨path, inTodo, start, new, found, way⟩
  obtain ⟨paths, parents⟩ := walk.closed
  induction way with
  | refl => exact (paths path inTodo start found).resolve_left new
  | tail _ step ih => exact (parents _ ih _ step.1).resolve_left step.2

end DepthFirst

/-! ### The walk -/

theorem reads_of_mem_ruleSteps {file : RuleFile} {s : Step} (mem : s ∈ t.ruleSteps file path) :
    s.reads = true := by
  simp only [ruleSteps, readingEvents, List.mem_append, List.mem_map, List.mem_filterMap,
    List.mem_flatMap, List.mem_cons, Step.ofText] at mem
  rcases mem with ⟨event, ⟨found, -, report⟩, rfl⟩ | ⟨text, -, rfl | ⟨line, -, rfl⟩⟩
  · cases found <;> cases report <;> rfl
  · rfl
  · rfl

theorem reads_of_mem_profileSteps {s : Step} (mem : s ∈ t.profileSteps path) : s.reads = true := by
  simp only [profileSteps, List.mem_cons, List.mem_append] at mem
  rcases mem with rfl | (mem | mem) | mem
  · rfl
  all_goals exact reads_of_mem_ruleSteps mem

/-- The walk reads the folders in depth-first order, each once. -/
theorem traverse_spec (t : FileTree) (visited : List Place) (todo : List String) :
    ∃ order, t.DepthFirst visited todo order ∧
      (t.traverse visited todo).visited = order.reverse ++ visited ∧
      (t.traverse visited todo).steps.filter Step.reads =
        order.flatMap fun place => t.profileSteps place.path := by
  fun_induction traverse t visited todo with
  | case1 => exact ⟨[], .done, rfl, rfl⟩
  | case2 visited path rest reason nowhere ih =>
    obtain ⟨order, walk, seen, steps⟩ := ih
    exact ⟨order, .unresolved (canonical?_of_error nowhere) walk, seen, steps⟩
  | case3 visited path rest spot found old ih =>
    obtain ⟨order, walk, seen, steps⟩ := ih
    exact ⟨order, .repeated (canonical?_of_ok found) old walk, seen, steps⟩
  | case4 visited path rest spot found new _ folder ih =>
    obtain ⟨order, walk, seen, steps⟩ := ih
    obtain ⟨above, after, rfl, parents, rest⟩ := walk.split
    refine ⟨_, .fresh (canonical?_of_ok found) new (namesParents_iff.2 rfl) parents rest, ?_, ?_⟩
    · simpa [Traversal.after] using seen
    · have all : (t.profileSteps folder).filter Step.reads = t.profileSteps folder :=
        List.filter_eq_self.2 fun s => reads_of_mem_profileSteps
      rw [Traversal.after, List.filter_append, all, steps, List.flatMap_cons]

end FileTree

/-! ### The rules -/

theorem Step.directive?_of_not_reads [Glob.Engine] {s : Step} (passed : s.reads = false)
    (arch : String) : s.directive? arch = none := by
  cases s with
  | note event => rfl
  | line file text => cases passed
  | acceptAll keywords => cases passed

/-- Reports on paths that are passed over change no rule. -/
theorem Step.filterMap_directive?_reads [Glob.Engine] (arch : String) (steps : List Step) :
    (steps.filter Step.reads).filterMap (Step.directive? arch) =
      steps.filterMap (Step.directive? arch) := by
  rw [List.filterMap_filter]
  refine List.filterMap_congr fun s _ => ?_
  split
  · rfl
  · rename_i passed
    exact (directive?_of_not_reads (by simpa using passed) arch).symm

namespace Loader

variable [Glob.Engine]

def readFolder (t : FileTree) (loader : Loader) (folder : Place) : Loader :=
  ((loader.addFile t (.masks .mask) (Path.join folder.path "package.mask")).addFile t
    (.masks .unmask) (Path.join folder.path "package.unmask")).addFile t
    .acceptKeywords (Path.join folder.path "package.accept_keywords")

/-- The rules that the files of a profile folder give alone. -/
def folderRules (t : FileTree) (arch : String) (folder : Place) : RuleSet :=
  (readFolder t { arch } folder).rules

theorem readFolder_eq (t : FileTree) (loader : Loader) (folder : Place) :
    readFolder t loader folder = loader.run (t.profileSteps folder.path).tail := by
  rw [FileTree.profileSteps, List.tail_cons, run_append, run_append]
  rfl

theorem arch_readFolder (t : FileTree) (loader : Loader) (folder : Place) :
    (readFolder t loader folder).arch = loader.arch := by
  rw [readFolder_eq, arch_run]

theorem rules_run_profileSteps (t : FileTree) (loader : Loader) (order : List Place) :
    (loader.run (order.flatMap fun place => t.profileSteps place.path)).rules =
      (order.foldl (readFolder t) loader).rules := by
  rw [rules_run]
  induction order generalizing loader with
  | nil => rfl
  | cons place order ih =>
    have folder : (readFolder t loader place).rules =
        ((t.profileSteps place.path).filterMap (Step.directive? loader.arch)).foldl
          RuleSet.apply loader.rules := by
      rw [readFolder_eq, rules_run]
      rfl
    rw [List.foldl_cons, ← ih, folder, arch_readFolder, List.flatMap_cons, List.filterMap_append,
      List.foldl_append]

theorem scanned_foldl_readFolder (t : FileTree) (loader : Loader) (order : List Place) :
    (order.foldl (readFolder t) loader).rules.scanned =
      order.foldl (fun rules place => rules ++ (folderRules t loader.arch place).scanned)
        loader.rules.scanned := by
  induction order generalizing loader with
  | nil => rfl
  | cons place order ih =>
    have folder : (readFolder t loader place).rules.scanned =
        loader.rules.scanned ++ (folderRules t loader.arch place).scanned := by
      rw [folderRules, readFolder_eq, readFolder_eq, scanned_run]
    rw [List.foldl_cons, List.foldl_cons, ih, arch_readFolder, folder]

end Loader

/-- Loading a profile ends. It reads, in depth-first order and each once, exactly the folders that
the path and its parents reach past none visited before, and so doubles no rule. -/
theorem profile_read_depth_first [Glob.Engine] (t : FileTree) (loader : Loader) (path : String) :
    let loaded := loader.addProfile t path
    ∃ order : List Place,
      (∀ other, t.DepthFirst loader.visited [path] other ↔ other = order) ∧ order.Nodup ∧
      (∀ place, place ∈ order ↔ t.Reaches loader.visited path place) ∧
      (∀ place, place ∈ loaded.visited ↔ place ∈ loader.visited ∨ place ∈ order) ∧
      (t.traverse loader.visited [path]).steps.filter Step.reads =
        (order.flatMap fun place => t.profileSteps place.path) ∧
      loaded.rules = (order.foldl (Loader.readFolder t) loader).rules ∧
      loaded.rules.scanned =
        order.foldl (fun rules place => rules ++ (Loader.folderRules t loader.arch place).scanned)
          loader.rules.scanned ∧
      ∀ place ∈ loader.visited, t.canonical? path = some place →
        loaded.rules = loader.rules ∧ loaded.visited = loader.visited := by
  intro loaded
  obtain ⟨order, walk, visited, steps⟩ := t.traverse_spec loader.visited [path]
  have rules : loaded.rules = (order.foldl (Loader.readFolder t) loader).rules := by
    rw [← Loader.rules_run_profileSteps, ← steps, Loader.rules_run,
      Step.filterMap_directive?_reads, ← Loader.rules_run]
    rfl
  have visited : loaded.visited = order.reverse ++ loader.visited := visited
  refine ⟨order, fun other => ⟨walk.unique, fun same => same ▸ walk⟩, walk.nodup_disjoint.1,
    fun place => ?_, fun place => ?_, steps, rules, ?_, fun place old found => ?_⟩
  · simpa using walk.mem_iff
  · rw [visited, List.mem_append, List.mem_reverse, or_comm]
  · rw [rules, Loader.scanned_foldl_readFolder]
  · have none : order = [] := (FileTree.DepthFirst.repeated found old .done).unique walk
    rw [rules, visited, none]
    exact ⟨rfl, rfl⟩

end Ebuild
