import Mathlib.Data.List.Basic
import Ebuild.Proofs.Atom.Grammar

/-!
# What each reader accepts

The readers of the atom grammar, each with the exact set of texts that it accepts. A name and a
version with a dash between them part in one way only, since what follows a dash inside a version
is no version. The four shapes tell themselves apart by an operator at the start and a colon.
-/

namespace Ebuild
open Text

namespace Grammar

/-! ### Versions -/

inductive VersionText : List Char → Prop
  | plain {first : Char} {chars : List Char} (start : first.isDigit = true ∨ first = '*')
    (body : ∀ c ∈ chars, isVersionChar c = true) : VersionText (first :: chars)
  | revised {first : Char} {chars digits : List Char} (start : first.isDigit = true ∨ first = '*')
    (body : ∀ c ∈ chars, isVersionChar c = true) (number : isNumber digits = true) :
    VersionText (first :: chars ++ '-' :: 'r' :: digits)

theorem isRevision_iff {cs : List Char} :
    isRevision cs = true ↔ ∃ digits, cs = '-' :: 'r' :: digits ∧ isNumber digits = true := by
  unfold isRevision
  split
  · simp
  · rename_i other
    constructor
    · intro revision
      cases revision
    · rintro ⟨digits, rfl, -⟩
      exact absurd rfl (other digits)

theorem isVersionChar_of_isDigit {c : Char} (digit : c.isDigit = true) :
    isVersionChar c = true := by
  simp [isVersionChar, Char.isAlphanum, digit]

theorem versionChars_of_start {first : Char} {chars : List Char}
    (start : first.isDigit = true ∨ first = '*') (body : ∀ c ∈ chars, isVersionChar c = true) :
    ∀ c ∈ first :: chars, isVersionChar c = true := by
  refine List.forall_mem_cons.2 ⟨?_, body⟩
  rcases start with digit | rfl
  · exact isVersionChar_of_isDigit digit
  · rfl

theorem versionChars_of_number {digits : List Char} (number : isNumber digits = true) :
    ∀ c ∈ 'r' :: digits, isVersionChar c = true := by
  rw [isNumber, Bool.and_eq_true] at number
  refine List.forall_mem_cons.2 ⟨by decide, fun c mem => ?_⟩
  exact isVersionChar_of_isDigit (List.all_eq_true.1 number.2 c mem)

theorem dash_not_mem {cs : List Char} (chars : ∀ c ∈ cs, isVersionChar c = true) : '-' ∉ cs := by
  intro mem
  exact absurd (chars '-' mem) (by decide)

theorem isVersion_iff {cs : List Char} : isVersion cs = true ↔ VersionText cs := by
  constructor
  · intro version
    unfold isVersion at version
    split at version
    · cases version
    · rename_i first rest
      simp only [Bool.and_eq_true, Bool.or_eq_true, beq_iff_eq, List.isEmpty_iff] at version
      obtain ⟨start, tail⟩ := version
      have body := List.all_eq_true.1 (List.all_takeWhile (p := isVersionChar) (l := rest))
      rw [← List.takeWhile_append_dropWhile (p := isVersionChar) (l := rest)]
      rcases tail with none | revision
      · rw [none, List.append_nil]
        exact .plain start body
      · obtain ⟨digits, same, number⟩ := isRevision_iff.1 revision
        rw [same]
        exact .revised start body number
  · rintro (⟨start, body⟩ | @⟨first, chars, digits, start, body, number⟩)
    · have split := span_append body (show ∀ c ∈ [].head?, isVersionChar c = false by simp)
      rw [List.append_nil] at split
      simp [isVersion, start, split.2]
    · have stop : ∀ c ∈ ('-' :: 'r' :: digits).head?, isVersionChar c = false := by simp; decide
      simp only [List.cons_append, isVersion, (span_append body stop).2]
      simp [start, isRevision, number]

theorem colon_not_mem_version {cs : List Char} (version : isVersion cs = true) : ':' ∉ cs := by
  intro mem
  cases isVersion_iff.1 version with
  | plain start body => exact absurd (versionChars_of_start start body _ mem) (by decide)
  | revised start body number =>
    rcases List.mem_append.1 mem with mem | mem
    · exact absurd (versionChars_of_start start body _ mem) (by decide)
    · rcases List.mem_cons.1 mem with dash | mem
      · cases dash
      · exact absurd (versionChars_of_number number _ mem) (by decide)

/-- Inside a version no dash has a version after it. -/
theorem lastVersion?_of_isVersion {version : List Char} (isVersion : isVersion version = true) :
    lastVersion? version = none := by
  rw [Option.eq_none_iff_forall_not_mem]
  rintro ⟨front, rest⟩ read
  obtain ⟨split, after⟩ := lastVersion?_eq_some read
  cases isVersion_iff.1 isVersion with
  | plain start body =>
    have dash : '-' ∈ front ++ '-' :: rest := by simp
    rw [← split] at dash
    exact dash_not_mem (versionChars_of_start start body) dash
  | revised start body number =>
    -- the only dash is the one of the revision, and no version starts with `r`
    have before := dash_not_mem (versionChars_of_start start body)
    have inside := dash_not_mem (versionChars_of_number number)
    obtain ⟨-, -, rfl⟩ := (List.append_cons_inj_of_notMem before inside).1 split
    revert after
    simp [Grammar.isVersion]

theorem lastVersion?_append {name version : List Char} (isVersion : isVersion version = true) :
    lastVersion? (name ++ '-' :: version) = some (name, version) := by
  induction name with
  | nil => simp [lastVersion?, lastVersion?_of_isVersion isVersion, isVersion]
  | cons c name ih => rw [List.cons_append, lastVersion?, ih]

theorem head_of_isName {name rest : List Char} (isName : isName name = true) :
    ∀ c ∈ (name ++ rest).head?, isNameChar c = true := by
  obtain ⟨nonempty, chars⟩ := isName_iff.1 isName
  obtain ⟨c, cs, rfl⟩ := List.exists_cons_of_ne_nil nonempty
  simpa using chars c (by simp)

theorem cpv?_eq_some_iff {cs category name version : List Char} :
    cpv? cs = some (category, name, version) ↔
      cs = category ++ '/' :: (name ++ '-' :: version) ∧ isName category = true ∧
        isName name = true ∧ isVersion version = true := by
  refine ⟨cpv?_eq_some, ?_⟩
  rintro ⟨rfl, isCategory, isName, isVersion⟩
  have front : category? (category ++ '/' :: (name ++ '-' :: version)) = some (category, _) :=
    category?_eq_some_iff.2 ⟨rfl, isCategory⟩
  have back : nameVersion? (name ++ '-' :: version) = some (name, version) := by
    rw [nameVersion?, lastVersion?_append isVersion, Option.filter_some, if_pos isName]
  rw [cpv?, front]
  simp [back]

/-! ### Operators -/

theorem operator?_eq_some {cs rest : List Char} {operator : Operator}
    (read : operator? cs = some (operator, rest)) : cs = operator.text.toList ++ rest := by
  unfold operator? at read
  split at read <;> cases read <;> rfl

theorem operator?_append {operator : Operator} {cs : List Char}
    (name : ∀ c ∈ cs.head?, isNameChar c = true) :
    operator? (operator.text.toList ++ cs) = some (operator, cs) := by
  have single : cs.head? ≠ some '=' := fun head => absurd (name _ head) (by decide)
  cases operator <;> cases cs <;> simp_all [Operator.text, operator?]

/-! ### Repositories -/

def repositoryMarks : List (List Char) := [[':'], [':', ':']]

theorem mem_repositoryMarks {mark : List Char} :
    mark ∈ repositoryMarks ↔ mark = [':'] ∨ mark = [':', ':'] := by
  simp [repositoryMarks]

theorem exists_label {cs : List Char} (label : isLabel cs = true) :
    ∃ c rest, cs = c :: rest ∧ c ≠ ':' := by
  cases cs with
  | nil => cases label
  | cons c rest =>
    refine ⟨c, rest, rfl, ?_⟩
    rintro rfl
    cases label

theorem repository?_eq_some_iff {cs repository : List Char} :
    repository? cs = some repository ↔ (cs = [] ∧ repository = []) ∨
      (isLabel repository = true ∧ ∃ mark ∈ repositoryMarks, cs = mark ++ repository) := by
  constructor
  · intro read
    unfold repository? at read
    split at read
    · cases read
      exact .inl ⟨rfl, rfl⟩
    · obtain ⟨label, same⟩ := Option.ite_none_right_eq_some.1 read
      cases same
      exact .inr ⟨label, [':', ':'], by decide, rfl⟩
    · obtain ⟨label, same⟩ := Option.ite_none_right_eq_some.1 read
      cases same
      exact .inr ⟨label, [':'], by decide, rfl⟩
    · cases read
  · rintro (⟨rfl, rfl⟩ | ⟨label, mark, mem, rfl⟩)
    · rfl
    · rcases mem_repositoryMarks.1 mem with rfl | rfl
      · obtain ⟨c, rest, rfl, colonless⟩ := exists_label label
        unfold repository?
        split <;> simp_all
      · exact if_pos label

end Grammar

namespace Shape
open Grammar

/-! ### Shapes -/

theorem versioned?_text_iff {cs : List Char} {shape : Shape} :
    versioned? cs = some shape ↔ ∃ operator category name version,
      shape = versioned operator category name version ∧ cs = shape.render ∧
      isName category = true ∧ isName name = true ∧ isVersion version = true := by
  rw [versioned?_eq_some_iff]
  constructor
  · rintro ⟨operator, rest, category, name, version, rfl, start, names⟩
    obtain ⟨rfl, parts⟩ := cpv?_eq_some_iff.1 names
    exact ⟨operator, category, name, version, rfl, by simp [render, operator?_eq_some start], parts⟩
  · rintro ⟨operator, category, name, version, rfl, rfl, parts⟩
    refine ⟨operator, category ++ '/' :: (name ++ '-' :: version), category, name, version, rfl,
      ?_, cpv?_eq_some_iff.2 ⟨rfl, parts⟩⟩
    rw [← operator?_append (head_of_isName parts.1)]
    simp [render]

theorem colon_not_mem_render {operator : Operator} {category name version : List Char}
    (isCategory : isName category = true) (isName : isName name = true)
    (isVersion : isVersion version = true) :
    ':' ∉ (versioned operator category name version).render := by
  have fromCategory : ':' ∉ category := not_mem_of_isName isCategory (by decide)
  have fromName : ':' ∉ name := not_mem_of_isName isName (by decide)
  have fromVersion := colon_not_mem_version isVersion
  cases operator <;> simp [render, Operator.text, fromCategory, fromName, fromVersion]

theorem qualified?_text_iff {cs : List Char} {shape : Shape} :
    qualified? cs = some shape ↔ ∃ operator category name version slot repository tail,
      shape = qualified operator category name version slot repository ∧
      cs = (versioned operator category name version).render ++ ':' :: (slot ++ tail) ∧
      isName category = true ∧ isName name = true ∧ isVersion version = true ∧
      (∀ c ∈ slot, isLabelChar c = true) ∧ repository? tail = some repository := by
  rw [qualified?_eq_some_iff]
  constructor
  · rintro ⟨front, back, operator, rest, category, name, version, repository, rfl, cut, start,
      names, tail⟩
    obtain ⟨rfl, -⟩ := cut?_eq_some_iff.1 cut
    have front := versioned?_eq_some_iff.2 ⟨_, _, _, _, _, rfl, start, names⟩
    obtain ⟨_, _, _, _, same, rfl, isCategory, isName, isVersion⟩ := versioned?_text_iff.1 front
    cases same
    exact ⟨operator, category, name, version, _, repository, _, rfl,
      by rw [List.takeWhile_append_dropWhile], isCategory, isName, isVersion,
      List.all_eq_true.1 List.all_takeWhile, tail⟩
  · rintro ⟨operator, category, name, version, slot, repository, tail, rfl, rfl, isCategory, isName,
      isVersion, label, read⟩
    have front := versioned?_text_iff.2 ⟨operator, category, name, version, rfl, rfl, isCategory,
      isName, isVersion⟩
    obtain ⟨_, rest, _, _, _, same, start, names⟩ := versioned?_eq_some_iff.1 front
    cases same
    have stop : ∀ c ∈ tail.head?, isLabelChar c = false := by
      rcases repository?_eq_some_iff.1 read with ⟨rfl, -⟩ | ⟨-, mark, mem, rfl⟩
      · simp
      · rcases mem_repositoryMarks.1 mem with rfl | rfl <;> simp <;> decide
    have split := span_append label stop
    refine ⟨_, _, operator, rest, category, name, version, repository, ?_,
      cut?_eq_some_iff.2 ⟨rfl, colon_not_mem_render isCategory isName isVersion⟩, start, names, ?_⟩
    · rw [split.1]
    · rw [split.2, read]

/-! ### One reader for each text -/

/-- Whether a text starts with an operator, and whether it has a colon. -/
def signature (cs : List Char) : Bool × Bool := ((operator? cs).isSome, cs.contains ':')

theorem operator?_of_isName {name rest : List Char} (isName : isName name = true) :
    operator? (name ++ rest) = none := by
  obtain ⟨nonempty, chars⟩ := isName_iff.1 isName
  obtain ⟨c, cs, rfl⟩ := List.exists_cons_of_ne_nil nonempty
  exact operator?_of_isNameChar (chars c (by simp))

theorem signature_versioned {cs : List Char} {shape : Shape} (read : versioned? cs = some shape) :
    signature cs = (true, false) := by
  obtain ⟨operator, rest, _, _, _, -, start, -⟩ := versioned?_eq_some_iff.1 read
  obtain ⟨_, _, _, _, rfl, rfl, isCategory, isName, isVersion⟩ := versioned?_text_iff.1 read
  simp [signature, start, colon_not_mem_render isCategory isName isVersion]

theorem signature_basic {cs : List Char} {shape : Shape} (read : basic? cs = some shape) :
    signature cs = (false, false) := by
  obtain ⟨category, name, -, rfl, isCategory, isName⟩ := basic?_eq_some_iff.1 read
  have fromCategory : ':' ∉ category := not_mem_of_isName isCategory (by decide)
  have fromName : ':' ∉ name := not_mem_of_isName isName (by decide)
  simp [signature, operator?_of_isName isCategory, fromCategory, fromName]

theorem signature_slotted {cs : List Char} {shape : Shape} (read : slotted? cs = some shape) :
    signature cs = (false, true) := by
  obtain ⟨category, name, slot, -, rfl, isCategory, -, -⟩ := slotted?_eq_some_iff.1 read
  simp [signature, operator?_of_isName isCategory]

theorem signature_qualified {cs : List Char} {shape : Shape} (read : qualified? cs = some shape) :
    signature cs = (true, true) := by
  obtain ⟨operator, category, name, version, _, _, _, -, rfl, isCategory, -⟩ :=
    qualified?_text_iff.1 read
  have start (rest : List Char) :
      operator? (operator.text.toList ++ (category ++ rest)) = some (operator, category ++ rest) :=
    operator?_append (head_of_isName isCategory)
  simp [signature, render, start]

/-- No text is accepted by both. -/
def Exclusive (reader other : List Char → Option Shape) : Prop :=
  ∀ cs, reader cs = none ∨ other cs = none

theorem Exclusive.symm {reader other : List Char → Option Shape}
    (exclusive : Exclusive reader other) : Exclusive other reader := fun cs => (exclusive cs).symm

theorem exclusive_of_signature {reader other : List Char → Option Shape} {x y : Bool × Bool}
    (first : ∀ {cs shape}, reader cs = some shape → signature cs = x)
    (second : ∀ {cs shape}, other cs = some shape → signature cs = y) (different : x ≠ y) :
    Exclusive reader other := by
  intro cs
  cases read : reader cs with
  | none => exact .inl rfl
  | some shape =>
    cases read' : other cs with
    | none => exact .inr rfl
    | some shape' => exact absurd ((first read).symm.trans (second read')) different

theorem pairwise_readers : readers.Pairwise Exclusive := by
  simp only [readers, List.pairwise_cons, List.forall_mem_cons, List.not_mem_nil, false_imp_iff,
    implies_true, and_true, List.Pairwise.nil]
  exact ⟨⟨exclusive_of_signature signature_versioned signature_basic (by decide),
      exclusive_of_signature signature_versioned signature_slotted (by decide),
      exclusive_of_signature signature_versioned signature_qualified (by decide)⟩,
    ⟨exclusive_of_signature signature_basic signature_slotted (by decide),
      exclusive_of_signature signature_basic signature_qualified (by decide)⟩,
    exclusive_of_signature signature_slotted signature_qualified (by decide)⟩

section
variable {rs : List (List Char → Option Shape)} (exclusive : rs.Pairwise Exclusive)
include exclusive

theorem countP_le_one (cs : List Char) : rs.countP (fun reader => (reader cs).isSome) ≤ 1 := by
  induction exclusive with
  | nil => simp
  | @cons reader rs others _ ih =>
    cases read : reader cs with
    | none => simpa [List.countP_cons, read] using ih
    | some shape =>
      have silent : rs.countP (fun reader => (reader cs).isSome) = 0 := by
        rw [List.countP_eq_zero]
        intro other mem
        rcases others other mem cs with none | none
        · rw [read] at none
          cases none
        · simp [none]
      simp [read, silent]

theorem findSome?_eq_some_iff_exists {cs : List Char} {shape : Shape} :
    rs.findSome? (fun reader => reader cs) = some shape ↔
      ∃ reader ∈ rs, reader cs = some shape := by
  refine ⟨List.exists_of_findSome?_eq_some, ?_⟩
  rintro ⟨reader, mem, read⟩
  induction exclusive with
  | nil => cases mem
  | @cons first rs others _ ih =>
    rcases List.mem_cons.1 mem with rfl | later
    · rw [List.findSome?_cons, read]
    · rcases others reader later cs with none | none
      · rw [List.findSome?_cons, none]
        exact ih later
      · rw [read] at none
        cases none

end

theorem read?_eq_some_iff_exists {cs : List Char} {shape : Shape} :
    read? cs = some shape ↔ ∃ reader ∈ readers, reader cs = some shape :=
  findSome?_eq_some_iff_exists pairwise_readers

theorem findSome?_perm {rs : List (List Char → Option Shape)} (perm : rs.Perm readers)
    (cs : List Char) : rs.findSome? (fun reader => reader cs) = read? cs := by
  have exclusive : rs.Pairwise Exclusive :=
    (perm.pairwise_iff fun exclusive => exclusive.symm).2 pairwise_readers
  apply Option.ext
  intro shape
  rw [findSome?_eq_some_iff_exists exclusive, read?_eq_some_iff_exists]
  simp only [perm.mem_iff]

end Shape

end Ebuild
