import Mathlib.Data.List.Induction
import Ebuild.Proofs.FileTree.Basic
import Ebuild.Proofs.Text.Blank

/-!
# Paths by their names

`names` lists what stands between the slashes of a path. Joining two paths puts their names after
one another (`names_join`), so paths below a path and paths of places are told by their names.
-/

namespace Ebuild

section
variable {s : String} (nonempty : s ≠ "")
include nonempty

theorem Text.exists_cons : ∃ c cs, s.toList = c :: cs :=
  List.exists_cons_of_ne_nil fun empty => nonempty (String.toList_eq_nil_iff.1 empty)

theorem Text.exists_concat : ∃ cs c, s.toList = cs ++ [c] :=
  (List.eq_nil_or_concat' s.toList).resolve_left fun empty =>
    nonempty (String.toList_eq_nil_iff.1 empty)

end

namespace Path

/-- The names in a path, a slash at its end left out. -/
def names (path : String) : List String :=
  ((path.toList.splitOn '/').filter (!·.isEmpty)).map String.ofList

theorem components_eq (path : String) :
    components path = names path ++ if path.toList.getLast? = some '/' then ["."] else [] := rfl

theorem components_of_no_slash {path : String} (noSlash : path.toList.getLast? ≠ some '/') :
    components path = names path := by
  rw [components_eq, if_neg noSlash, List.append_nil]

theorem names_slash (first second : String) :
    names (first ++ "/" ++ second) = names first ++ names second := by
  have chars : (first ++ "/" ++ second).toList = first.toList ++ '/' :: second.toList := by
    rw [String.toList_append, String.toList_append, List.append_assoc]
    rfl
  unfold names
  rw [chars, List.splitOn_append_cons_self, List.filter_append, List.map_append]

theorem mem_splitOn_of_mem {c : Char} {cs : List Char} (mem : c ∈ cs) (notSlash : c ≠ '/') :
    ∃ piece ∈ cs.splitOn '/', c ∈ piece := by
  induction cs with
  | nil => cases mem
  | cons first cs ih =>
    obtain ⟨piece, pieces, cut⟩ := List.exists_cons_of_ne_nil (List.splitOn_ne_nil '/' cs)
    rw [List.splitOn_cons_eq_if_modifyHead, cut]
    rw [cut] at ih
    rcases List.mem_cons.1 mem with rfl | later
    · rw [if_neg (by simpa using notSlash)]
      exact ⟨c :: piece, List.mem_cons_self .., List.mem_cons_self ..⟩
    · obtain ⟨found, listed, inside⟩ := ih later
      by_cases slash : first = '/'
      · rw [if_pos (by simpa using slash)]
        exact ⟨found, List.mem_cons_of_mem _ listed, inside⟩
      · rw [if_neg (by simpa using slash), List.modifyHead_cons]
        rcases List.mem_cons.1 listed with rfl | listed
        · exact ⟨first :: found, List.mem_cons_self .., List.mem_cons_of_mem _ inside⟩
        · exact ⟨found, List.mem_cons_of_mem _ listed, inside⟩

/-- Every character of a path but the slashes is in one of its names. -/
theorem mem_names_of_mem {path : String} {c : Char} (mem : c ∈ path.toList) (notSlash : c ≠ '/') :
    ∃ name ∈ names path, c ∈ name.toList := by
  obtain ⟨piece, listed, mem⟩ := mem_splitOn_of_mem mem notSlash
  refine ⟨String.ofList piece, List.mem_map_of_mem (List.mem_filter.2 ⟨listed, ?_⟩), ?_⟩
  · cases piece with
    | nil => cases mem
    | cons => rfl
  · rwa [String.toList_ofList]

theorem exists_of_endsInSlash {path : String} (slash : path.toList.getLast? = some '/') :
    ∃ front, path = front ++ "/" := by
  obtain ⟨front, split⟩ := List.getLast?_eq_some_iff.1 slash
  refine ⟨String.ofList front, String.toList_inj.1 ?_⟩
  rw [split, String.toList_append, String.toList_ofList]
  rfl

section
variable {path more : String} (relative : isAbsolute more = false)
include relative

theorem exists_glue (path : String) :
    ∃ glue, (glue = "" ∨ glue = "/") ∧ join path more = path ++ glue ++ more := by
  unfold join
  rw [relative, Bool.false_or]
  by_cases empty : path = ""
  · exact ⟨"", .inl rfl, by simp [empty]⟩
  · by_cases slash : path.toList.getLast? = some '/'
    · exact ⟨"", .inl rfl, by simp [empty, slash]⟩
    · exact ⟨"/", .inr rfl, by simp [empty, slash]⟩

theorem utf8ByteSize_le_join (path : String) :
    path.utf8ByteSize ≤ (join path more).utf8ByteSize := by
  obtain ⟨glue, -, joined⟩ := exists_glue relative path
  rw [joined, String.utf8ByteSize_append, String.utf8ByteSize_append, Nat.add_assoc]
  exact Nat.le_add_right _ _

theorem names_join : names (join path more) = names path ++ names more := by
  unfold join
  rw [relative, Bool.false_or]
  by_cases empty : path = ""
  · rw [if_pos (by simpa using empty), empty]
    rfl
  · rw [if_neg (by simpa using empty)]
    by_cases slash : path.toList.getLast? = some '/'
    · obtain ⟨front, rfl⟩ := exists_of_endsInSlash slash
      have alone : names (front ++ "/") = names front := by
        have split := names_slash front ""
        rwa [String.append_empty, show names "" = [] from rfl, List.append_nil] at split
      rw [if_pos slash, names_slash, alone]
    · rw [if_neg slash, names_slash]

theorem components_join (nonempty : more ≠ "") :
    components (join path more) = names path ++ components more := by
  obtain ⟨glue, -, joined⟩ := exists_glue relative path
  have last : (join path more).toList.getLast? = more.toList.getLast? := by
    obtain ⟨front, final, split⟩ := Text.exists_concat nonempty
    rw [joined, String.toList_append, split, ← List.append_assoc, List.getLast?_concat,
      List.getLast?_concat]
  rw [components_eq, components_eq, names_join relative, last, List.append_assoc]

theorem isAbsolute_join (nonempty : path ≠ "") : isAbsolute (join path more) = isAbsolute path := by
  obtain ⟨glue, -, joined⟩ := exists_glue relative path
  obtain ⟨c, cs, split⟩ := Text.exists_cons nonempty
  simp [isAbsolute, joined, split]

theorem join_ne_empty (nonempty : more ≠ "") : join path more ≠ "" := by
  obtain ⟨glue, -, joined⟩ := exists_glue relative path
  rw [joined]
  simp [nonempty]

theorem nul_mem_join_iff :
    '\x00' ∈ (join path more).toList ↔ '\x00' ∈ path.toList ∨ '\x00' ∈ more.toList := by
  obtain ⟨glue, rfl | rfl, joined⟩ := exists_glue relative path <;> simp [joined]

theorem names_ne_nil (nonempty : more ≠ "") : names more ≠ [] := by
  obtain ⟨c, cs, split⟩ := Text.exists_cons nonempty
  have first : c ≠ '/' := by
    rintro rfl
    simp [isAbsolute, split] at relative
  obtain ⟨piece, pieces, cut⟩ := List.exists_cons_of_ne_nil (List.splitOn_ne_nil '/' cs)
  simp [names, split, List.splitOn_cons_eq_if_modifyHead, first, cut]

end

end Path

/-! ### Names below a path -/

namespace IsName

variable {name : String} (isName : IsName name)
include isName

theorem isRelative : Path.isAbsolute name = false := by
  rw [Path.isAbsolute, decide_eq_false_iff_not]
  exact fun first => isName.noSlash (List.mem_of_head? first)

theorem names : Path.names name = [name] := by
  simp [Path.names, List.splitOn_eq_singleton isName.noSlash, isName.nonempty]

theorem components : Path.components name = [name] := by
  have last : name.toList.getLast? ≠ some '/' :=
    fun last => isName.noSlash (List.mem_of_getLast? last)
  rw [Path.components_of_no_slash last, isName.names]

end IsName

namespace Path

def below (path : String) (names : List String) : String := names.foldl join path

theorem below_concat (path name : String) (names : List String) :
    below path (names ++ [name]) = join (below path names) name := by
  rw [below, List.foldl_append]
  rfl

section
variable (path : String) {steps : List String} (valid : ∀ name ∈ steps, IsName name)
include valid

theorem names_below : names (below path steps) = names path ++ steps := by
  induction steps generalizing path with
  | nil => exact (List.append_nil _).symm
  | cons name rest ih =>
    rw [List.forall_mem_cons] at valid
    rw [below, List.foldl_cons, ← below, ih (join path name) valid.2,
      names_join valid.1.isRelative, valid.1.names, List.append_assoc, List.singleton_append]

theorem below_ne_empty (nonempty : path ≠ "") : below path steps ≠ "" := by
  induction steps generalizing path with
  | nil => exact nonempty
  | cons name rest ih =>
    rw [List.forall_mem_cons] at valid
    exact ih (join path name) valid.2 (join_ne_empty valid.1.isRelative valid.1.nonempty)

end

/-! ### Paths of places -/

theorem path_ne_empty (place : Place) : place.path ≠ "" := by
  simp [Place.path]

theorem toList_path {place : Place} (nonempty : place ≠ []) :
    place.path.toList = place.flatMap fun name => '/' :: name.toList := by
  rw [Place.path, String.toList_append]
  induction place with
  | nil => exact absurd rfl nonempty
  | cons first rest ih =>
    cases rest with
    | nil => simp
    | cons second rest =>
      have further := ih (List.cons_ne_nil _ _)
      rw [String.intercalate_cons_cons, List.flatMap_cons, ← further]
      simp

theorem utf8ByteSize_dropLast_le (place : Place) :
    (Place.path place.dropLast).utf8ByteSize ≤ place.path.utf8ByteSize := by
  rcases List.eq_nil_or_concat' place with rfl | ⟨front, name, rfl⟩
  · exact Nat.le_refl _
  rw [List.dropLast_concat]
  by_cases root : front = []
  · rw [root, Place.path, Place.path, String.utf8ByteSize_append, String.utf8ByteSize_append]
    exact Nat.add_le_add_left (Nat.zero_le _) _
  · have split : Place.path (front ++ [name]) = Place.path front ++ ("/" ++ name) := by
      refine String.toList_inj.1 ?_
      rw [toList_path (by simp), String.toList_append, toList_path root, List.flatMap_append,
        List.flatMap_singleton, String.toList_append]
      rfl
    rw [split, String.utf8ByteSize_append]
    exact Nat.le_add_right _ _

theorem getLast?_path {place : Place} {name : String} (isName : IsName name) :
    (Place.path (place ++ [name])).toList.getLast? ≠ some '/' := by
  rw [toList_path (by simp), List.flatMap_append, List.flatMap_singleton]
  obtain ⟨front, last, split⟩ := Text.exists_concat isName.nonempty
  rw [split, ← List.cons_append, ← List.append_assoc, List.getLast?_concat]
  rintro ⟨⟩
  exact isName.noSlash (by simp [split])

theorem names_place {place : Place} (valid : ∀ name ∈ place, IsName name) :
    names place.path = place := by
  have inner : names ("/".intercalate place) = place := by
    induction place with
    | nil => rfl
    | cons first rest ih =>
      rw [List.forall_mem_cons] at valid
      cases rest with
      | nil => exact valid.1.names
      | cons second rest =>
        rw [String.intercalate_cons_cons, names_slash, valid.1.names, ih valid.2,
          List.singleton_append]
  have split := names_slash "" ("/".intercalate place)
  rw [String.empty_append] at split
  rw [Place.path, split, inner]
  rfl

end Path

end Ebuild
