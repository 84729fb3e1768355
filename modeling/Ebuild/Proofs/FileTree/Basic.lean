import Mathlib.Data.List.Basic
import Mathlib.Data.List.Nodup
import Ebuild.FileTree.Basic

/-!
# Well-formed file trees

A table of places is a file tree if each place is there once, folders hold all places below the
root, and names and link targets are such as a file system takes. `mem_childNames_iff` and
`pairwise_childNames` say what listing a folder gives.
-/

namespace Ebuild

structure IsName (name : String) : Prop where
  nonempty : name ≠ ""
  notDot : name ≠ "."
  notDots : name ≠ ".."
  noSlash : '/' ∉ name.toList
  noNul : '\x00' ∉ name.toList

instance : DecidablePred IsName := fun name =>
  decidable_of_iff (name ≠ "" ∧ name ≠ "." ∧ name ≠ ".." ∧ '/' ∉ name.toList ∧
      '\x00' ∉ name.toList)
    ⟨fun ⟨nonempty, notDot, notDots, noSlash, noNul⟩ =>
        ⟨nonempty, notDot, notDots, noSlash, noNul⟩,
      fun ⟨nonempty, notDot, notDots, noSlash, noNul⟩ =>
        ⟨nonempty, notDot, notDots, noSlash, noNul⟩⟩

def Node.isFolder : Node → Bool
  | folder => true
  | _ => false

def Node.target? : Node → Option String
  | link target => some target
  | file _ | folder => none

theorem Node.target?_eq_some_iff {node : Node} {target : String} :
    node.target? = some target ↔ node = link target := by
  cases node <;> simp [target?]

/-- Whether a link has a target, one that is a path. -/
def Node.WellFormed : Node → Prop
  | link target => target ≠ "" ∧ '\x00' ∉ target.toList
  | file _ | folder => True

instance : DecidablePred Node.WellFormed
  | .link target => inferInstanceAs (Decidable (target ≠ "" ∧ '\x00' ∉ target.toList))
  | .file _ | .folder => inferInstanceAs (Decidable True)

namespace FileTree

structure WellFormed (t : FileTree) : Prop where
  nodup : (t.table.map Prod.fst).Nodup
  names : ∀ place ∈ t.places, ∀ name ∈ place, IsName name
  nodes : ∀ entry ∈ t.table, entry.2.WellFormed
  parents : ∀ place ∈ t.places, (t.node? place.dropLast).any Node.isFolder = true

instance (t : FileTree) : Decidable t.WellFormed :=
  decidable_of_iff ((t.table.map Prod.fst).Nodup ∧
      (∀ place ∈ t.places, ∀ name ∈ place, IsName name) ∧
      (∀ entry ∈ t.table, entry.2.WellFormed) ∧
      ∀ place ∈ t.places, (t.node? place.dropLast).any Node.isFolder = true)
    ⟨fun ⟨nodup, names, nodes, parents⟩ => ⟨nodup, names, nodes, parents⟩,
      fun ⟨nodup, names, nodes, parents⟩ => ⟨nodup, names, nodes, parents⟩⟩

variable {t : FileTree} {place : Place} {name : String}

theorem node?_concat_isSome_iff :
    (t.node? (place ++ [name])).isSome = true ↔ ∃ entry ∈ t.table, entry.1 = place ++ [name] := by
  have below : (place ++ [name]).isEmpty = false := by simp
  rw [node?, below, if_neg Bool.false_ne_true, List.lookup_isSome_iff]
  simp only [beq_iff_eq]
  exact exists_congr fun entry => and_congr_right fun _ => eq_comm

theorem WellFormed.isName (wf : t.WellFormed) (there : (t.node? (place ++ [name])).isSome = true) :
    IsName name :=
  wf.names _ (mem_places_of_node? there) name (by simp)

theorem WellFormed.folder (wf : t.WellFormed) (there : (t.node? (place ++ [name])).isSome = true) :
    t.node? place = some .folder := by
  have parent := wf.parents _ (mem_places_of_node? there)
  rw [List.dropLast_concat] at parent
  cases node : t.node? place with
  | none => simp [node] at parent
  | some node' =>
    rw [node] at parent
    cases node' with
    | folder => rfl
    | file bytes => cases parent
    | link target => cases parent

theorem WellFormed.node (wf : t.WellFormed) {node : Node} (there : t.node? place = some node) :
    node.WellFormed := by
  by_cases root : place = []
  · rw [node?, root] at there
    cases there
    trivial
  · rw [node?, if_neg (by simpa using root)] at there
    obtain ⟨before, after, table, -⟩ := List.lookup_eq_some_iff.1 there
    exact wf.nodes (place, node) (by simp [table])

theorem childName_eq_some_iff {other : Place} :
    (if other.dropLast = place then other.getLast? else none) = some name ↔
      other = place ++ [name] := by
  constructor
  · intro found
    by_cases parent : other.dropLast = place
    · rw [if_pos parent] at found
      obtain ⟨front, rfl⟩ := List.getLast?_eq_some_iff.1 found
      rw [List.dropLast_concat] at parent
      rw [parent]
    · rw [if_neg parent] at found
      cases found
  · rintro rfl
    rw [List.dropLast_concat, if_pos rfl, List.getLast?_concat]

theorem mem_childNames_iff :
    name ∈ t.childNames place ↔ (t.node? (place ++ [name])).isSome = true := by
  rw [node?_concat_isSome_iff, childNames, List.mem_mergeSort, List.mem_filterMap]
  exact exists_congr fun entry => and_congr_right fun _ => childName_eq_some_iff

theorem nodup_childNames (wf : t.WellFormed) (place : Place) : (t.childNames place).Nodup := by
  have distinct : t.table.Pairwise fun first second => first.1 ≠ second.1 :=
    List.pairwise_map.1 wf.nodup
  rw [childNames, List.nodup_mergeSort, List.Nodup, List.pairwise_filterMap]
  refine distinct.imp fun {first second} other name inFirst name' inSecond => ?_
  rintro rfl
  exact other ((childName_eq_some_iff.1 inFirst).trans (childName_eq_some_iff.1 inSecond).symm)

/-- The names in a folder are listed in order, each once. -/
theorem pairwise_childNames (wf : t.WellFormed) (place : Place) :
    (t.childNames place).Pairwise (· < ·) := by
  have sorted : (t.childNames place).Pairwise fun a b => decide (a ≤ b) = true :=
    List.pairwise_mergeSort (by simpa using fun a b c => String.le_trans)
      (by simpa using String.le_total) _
  refine (sorted.and (nodup_childNames wf place)).imp fun {a b} both => ?_
  exact Std.lt_of_le_of_ne (by simpa using both.1) both.2

end FileTree

end Ebuild
