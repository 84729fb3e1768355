import Ebuild.FileTree.Path

/-!
# File trees

A file system as it stands at one moment. A place is a chain of names from the root; the table
gives what is at each place, and the root is always a folder. Names and the targets of links are
texts. A system may also hold such that are not UTF-8; file systems with those are left out.
-/

namespace Ebuild

/-- The names from the root to a file, folder or link. -/
abbrev Place := List String

def Place.path (place : Place) : String := "/" ++ "/".intercalate place

inductive Node
  | file (bytes : ByteArray)
  | folder
  /-- A symbolic link with its target as written. -/
  | link (target : String)

structure FileTree where
  table : List (Place × Node) := []
  /-- Where relative paths start. -/
  current : Place := []

namespace FileTree

def empty : FileTree := {}

def node? (t : FileTree) (place : Place) : Option Node :=
  if place.isEmpty then some .folder else t.table.lookup place

def places (t : FileTree) : List Place := [] :: t.table.map Prod.fst

theorem mem_places_of_node? {t : FileTree} {place : Place} (h : (t.node? place).isSome) :
    place ∈ t.places := by
  unfold node? at h
  split at h
  · simp_all [places]
  · rw [Option.isSome_iff_exists] at h
    obtain ⟨node, found⟩ := h
    obtain ⟨_, _, same, _⟩ := List.lookup_eq_some_iff.1 found
    simp [places, same]

def depth (t : FileTree) : Nat := (t.places.map List.length).foldr max 0

theorem length_le_depth {t : FileTree} {place : Place} (h : place ∈ t.places) :
    place.length ≤ t.depth := by
  unfold depth
  generalize t.places = places at h
  induction places with
  | nil => simp at h
  | cons first rest ih =>
    simp only [List.map_cons, List.foldr_cons]
    rcases List.mem_cons.1 h with rfl | h
    · exact Nat.le_max_left _ _
    · exact Nat.le_trans (ih h) (Nat.le_max_right _ _)

/-- The names right below a place, in order. -/
def childNames (t : FileTree) (place : Place) : List String :=
  let below := t.table.filterMap fun (other, _) =>
    if other.dropLast = place then other.getLast? else none
  below.mergeSort fun a b => decide (a ≤ b)

/-! ### Changes -/

/-- Removes a place and all places below it. -/
def remove (t : FileTree) (place : Place) : FileTree :=
  { t with table := t.table.filter fun (other, _) => !place.isPrefixOf other }

/-- Makes a folder of a place that is nothing yet. -/
def ensureFolder (t : FileTree) (place : Place) : FileTree :=
  if (t.node? place).isSome then t else { t with table := t.table ++ [(place, .folder)] }

def put (t : FileTree) (place : Place) (node : Node) : FileTree :=
  { t with table := (t.table.filter fun (other, _) => other != place) ++ [(place, node)] }

end FileTree

end Ebuild
