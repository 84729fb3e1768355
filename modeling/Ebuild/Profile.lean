import Ebuild.Rules.Files

/-!
# Profiles

A profile folder has its own rule files and names its parents in the file `parent`. Loading goes
depth first, a folder before its parents, and reads each folder once.
-/

namespace Ebuild

structure Traversal where
  steps : List Step
  /-- The places of all folders read, those read before included. -/
  visited : List Place
  deriving DecidableEq, Repr

def Traversal.after (walk : Traversal) (steps : List Step) : Traversal :=
  { walk with steps := steps ++ walk.steps }

namespace FileTree

/-- The text at a path, none if there is no UTF-8 file. -/
def readText? (t : FileTree) (path : String) : Option String :=
  match t.target? path with
  | some (.file bytes) => String.fromUTF8? bytes
  | _ => none

def parents (t : FileTree) (folder : String) : List String :=
  let text := (t.readText? (Path.join folder "parent")).getD ""
  let lines := (Text.lines text.toList).map Text.trim
  let names := lines.filter fun line => !line.isEmpty && line.head? != some '#'
  names.map fun line => Path.join folder (String.ofList line)

def profileSteps (t : FileTree) (folder : String) : List Step :=
  .note (.loadingProfile folder) ::
    (t.ruleSteps (.masks .mask) (Path.join folder "package.mask") ++
      t.ruleSteps (.masks .unmask) (Path.join folder "package.unmask") ++
      t.ruleSteps .acceptKeywords (Path.join folder "package.accept_keywords"))

/-- The number of places not visited yet. -/
def unvisited (t : FileTree) (visited : List Place) : Nat :=
  t.places.countP fun place => !visited.contains place

theorem unvisited_lt {t : FileTree} {visited : List Place} {place : Place}
    (mem : place ∈ t.places) (new : place ∉ visited) :
    t.unvisited (place :: visited) < t.unvisited visited := by
  unfold unvisited
  generalize t.places = places at mem
  have le (l : List Place) : l.countP (fun other => !(place :: visited).contains other) ≤
      l.countP (fun other => !visited.contains other) := by
    refine List.countP_mono_left fun other _ h => ?_
    simp only [List.contains_cons, Bool.not_or, Bool.and_eq_true] at h
    exact h.2
  induction places with
  | nil => simp at mem
  | cons first rest ih =>
    rw [List.countP_cons, List.countP_cons]
    rcases List.mem_cons.1 mem with rfl | mem
    · have := le rest
      rw [if_neg (by simp), if_pos (by simpa using new)]
      omega
    · have := ih mem
      have := le [first]
      simp only [List.countP_cons, List.countP_nil, Nat.zero_add] at this
      omega

/-- Loads the profile folders at the paths `todo` and their parents. -/
def traverse (t : FileTree) (visited : List Place) : (todo : List String) → Traversal
  | [] => ⟨[], visited⟩
  | path :: rest =>
    match h : t.resolve path with
    | .error reason => (traverse t visited rest).after [.note (.unresolvedProfile path reason)]
    | .ok spot =>
      if new : spot.place ∈ visited then
        (traverse t visited rest).after [.note (.repeatedProfile spot.place.path)]
      else
        have : t.unvisited (spot.place :: visited) < t.unvisited visited :=
          unvisited_lt (mem_places_of_node? (resolve_found h)) new
        let folder := spot.place.path
        (traverse t (spot.place :: visited) (t.parents folder ++ rest)).after
          (t.profileSteps folder)
termination_by todo => (t.unvisited visited, todo.length)

end FileTree

namespace Loader

def addProfile [Glob.Engine] (loader : Loader) (t : FileTree) (path : String) : Loader :=
  let walk := t.traverse loader.visited [path]
  { loader.run walk.steps with visited := walk.visited }

end Loader

end Ebuild
