import Ebuild.Rules.Loader

/-!
# Rule files

The rules at a path are those of the file there, or of all files below the folder there. Names
that start with a dot are passed over and folders are read in the order of the names.
-/

namespace Ebuild

inductive Found
  | text (path text : String)
  /-- A file that is not UTF-8. -/
  | unreadable (path : String)
  | missing (path : String)
  deriving DecidableEq, Repr

namespace FileTree

/-- The names right below a place that do not start with a dot, in order. -/
def visibleNames (t : FileTree) (place : Place) : List String :=
  (t.childNames place).filter fun name => name.toList.head? != some '.'

/-- What bounds the folders below a spot: each lies deeper, or past one more link. -/
def reach (t : FileTree) (spot : Spot) : Nat :=
  spot.links * (t.depth + 1) + (t.depth - spot.place.length)

/-- Where a name below the folder at `path` leads, which is opened by its path. -/
def enter (t : FileTree) (spot : Spot) (path name : String) : Except PathError Spot :=
  if maxPathSize ≤ (Path.join path name).utf8ByteSize then .error .pathTooLong
  else follow t anywhere spot.links spot.place [name]

theorem follow_of_enter {t : FileTree} {spot next : Spot} {path name : String}
    (h : t.enter spot path name = .ok next) :
    follow t anywhere spot.links spot.place [name] = .ok next := by
  unfold enter at h
  split at h
  · cases h
  · exact h

theorem reach_lt {t : FileTree} {spot next : Spot} {path name : String}
    (h : t.enter spot path name = .ok next) (visible : name.toList.head? ≠ some '.') :
    t.reach next < t.reach spot := by
  have h := follow_of_enter h
  have found := length_le_depth (mem_places_of_node? (follow_found h).1)
  unfold reach
  rcases follow_name h (by rintro rfl; exact visible rfl) (by rintro rfl; exact visible rfl) with
    rfl | fewer
  · simp only [List.length_append, List.length_singleton] at found ⊢
    omega
  · have : (next.links + 1) * (t.depth + 1) ≤ spot.links * (t.depth + 1) :=
      Nat.mul_le_mul_right _ fewer
    rw [Nat.add_mul] at this
    omega

/-- Everything that reading the rules from a spot on comes upon; `path` is its name. -/
def foundFrom (t : FileTree) (spot : Spot) (path : String) : List Found :=
  match t.node? spot.place with
  | some .folder =>
    (t.visibleNames spot.place).attach.flatMap fun ⟨name, mem⟩ =>
      match h : t.enter spot path name with
      | .ok next =>
        have : t.reach next < t.reach spot :=
          reach_lt h (by simpa [visibleNames] using (List.mem_filter.1 mem).2)
        foundFrom t next (Path.join path name)
      | .error _ => [.missing (Path.join path name)]
  | some (.file bytes) =>
    match String.fromUTF8? bytes with
    | some text => [.text path text]
    | none => [.unreadable path]
  | _ => [.missing path]
termination_by t.reach spot

def found (t : FileTree) (path : String) : List Found :=
  match t.lookup path with
  | .ok spot => t.foundFrom spot path
  | .error _ => [.missing path]

def ruleTexts (t : FileTree) (path : String) : List (String × String) :=
  (t.found path).filterMap fun
    | .text path text => some (path, text)
    | _ => none

/-- What reading a path reports before any line is looked at. -/
def readingEvents (t : FileTree) (path : String) : List Event :=
  (t.found path).filterMap fun
    | .text _ _ => none
    | .unreadable path => some (.unreadable path)
    | .missing path => some (.noRules path)

def ruleSteps (t : FileTree) (file : RuleFile) (path : String) : List Step :=
  (t.readingEvents path).map .note ++ (t.ruleTexts path).flatMap fun (path, text) =>
    .note (.loadingRules file path) :: Step.ofText file text

end FileTree

namespace Loader

def addFile [Glob.Engine] (loader : Loader) (t : FileTree) (file : RuleFile) (path : String) :
    Loader :=
  loader.run (t.ruleSteps file path)

end Loader

end Ebuild
