import Ebuild.Atom.Grammar
import Ebuild.Proofs.Text.Blank
import Ebuild.Proofs.Text.Char

/-!
# What the readers of the atom grammar accept

Each reader that succeeds gives the text back as its parts with their separators between them, and
each part is a word of its own kind.
-/

namespace Ebuild
open Text

namespace Grammar

theorem cut?_eq_some_iff {sep : Char} {cs a b : List Char} :
    cut? sep cs = some (a, b) ↔ cs = a ++ sep :: b ∧ sep ∉ a := by
  induction cs generalizing a with
  | nil => simp [cut?]
  | cons c cs ih =>
    rw [cut?]
    by_cases first : c = sep
    · subst first
      cases a with
      | nil => simp
      | cons d a =>
        simp only [if_pos, Option.some.injEq, Prod.mk.injEq, List.cons_append, List.cons.injEq,
          List.mem_cons, not_or]
        constructor
        · rintro ⟨nil, -⟩
          cases nil
        · rintro ⟨⟨same, -⟩, other, -⟩
          exact absurd same other
    · rw [if_neg first, Option.map_eq_some_iff]
      cases a with
      | nil => simp [first]
      | cons d a =>
        constructor
        · rintro ⟨⟨x, y⟩, read, same⟩
          simp only [Prod.mk.injEq, List.cons.injEq] at same
          obtain ⟨⟨rfl, rfl⟩, rfl⟩ := same
          obtain ⟨rfl, absent⟩ := ih.1 read
          exact ⟨rfl, by simp [absent, Ne.symm first]⟩
        · rintro ⟨same, absent⟩
          simp only [List.cons_append, List.cons.injEq] at same
          obtain ⟨rfl, rest⟩ := same
          exact ⟨(a, b), ih.2 ⟨rest, fun mem => absent (by simp [mem])⟩, rfl⟩

/-! ### Names and versions -/

theorem isName_iff {cs : List Char} :
    isName cs = true ↔ cs ≠ [] ∧ ∀ c ∈ cs, isNameChar c = true := by
  simp [isName]

theorem not_mem_of_isName {cs : List Char} {sep : Char} (name : isName cs = true)
    (outside : isNameChar sep = false) : sep ∉ cs := by
  intro mem
  rw [(isName_iff.1 name).2 sep mem] at outside
  cases outside

theorem category?_eq_some_iff {cs category rest : List Char} :
    category? cs = some (category, rest) ↔
      cs = category ++ '/' :: rest ∧ isName category = true := by
  rw [category?, Option.filter_eq_some_iff, cut?_eq_some_iff]
  constructor
  · rintro ⟨⟨split, -⟩, name⟩
    exact ⟨split, name⟩
  · rintro ⟨split, name⟩
    exact ⟨⟨split, not_mem_of_isName name (by decide)⟩, name⟩

theorem lastVersion?_eq_some {cs name version : List Char}
    (read : lastVersion? cs = some (name, version)) :
    cs = name ++ '-' :: version ∧ isVersion version = true := by
  induction cs generalizing name with
  | nil => cases read
  | cons c cs ih =>
    rw [lastVersion?] at read
    split at read
    · rename_i later
      simp only [Option.some.injEq, Prod.mk.injEq] at read
      obtain ⟨rfl, rfl⟩ := read
      obtain ⟨rfl, isVersion⟩ := ih later
      exact ⟨rfl, isVersion⟩
    · split at read
      · rename_i here
        simp only [Bool.and_eq_true, beq_iff_eq] at here
        cases read
        exact ⟨by rw [here.1]; rfl, here.2⟩
      · cases read

theorem cpv?_eq_some {cs category name version : List Char}
    (read : cpv? cs = some (category, name, version)) :
    cs = category ++ '/' :: (name ++ '-' :: version) ∧ isName category = true ∧
      isName name = true ∧ isVersion version = true := by
  rw [cpv?, Option.bind_eq_bind, Option.bind_eq_some_iff] at read
  obtain ⟨⟨category', rest⟩, front, read⟩ := read
  dsimp only at read
  rw [Option.bind_eq_some_iff] at read
  obtain ⟨⟨name', version'⟩, back, same⟩ := read
  cases same
  rw [nameVersion?, Option.filter_eq_some_iff] at back
  obtain ⟨rfl, isCategory⟩ := category?_eq_some_iff.1 front
  obtain ⟨rfl, isVersion⟩ := lastVersion?_eq_some back.1
  exact ⟨rfl, isCategory, back.2, isVersion⟩

theorem bounds_of_alphanum {c : Char} (alphanum : c.isAlphanum = true) :
    48 ≤ c.toNat ∧ c.toNat ≤ 122 := by
  rw [Char.isAlphanum, Bool.or_eq_true, isAlpha_iff, isDigit_iff] at alphanum
  omega

theorem bounds_of_isVersionChar {c : Char} (version : isVersionChar c = true) :
    42 ≤ c.toNat ∧ c.toNat ≤ 122 := by
  simp only [isVersionChar, Bool.or_eq_true, beq_iff_eq] at version
  rcases version with (((alphanum | rfl) | rfl) | rfl) | rfl
  · have := bounds_of_alphanum alphanum
    omega
  all_goals decide

theorem bounds_of_isRevision {cs : List Char} (revision : isRevision cs = true) :
    ∀ c ∈ cs, 42 ≤ c.toNat ∧ c.toNat ≤ 122 := by
  unfold isRevision at revision
  split at revision
  · rename_i digits
    rw [isNumber, Bool.and_eq_true] at revision
    intro c mem
    simp only [List.mem_cons] at mem
    rcases mem with rfl | rfl | mem
    · decide
    · decide
    · have := bounds_of_digits revision.2 c mem
      omega
  · cases revision

theorem bounds_of_isVersion {version : List Char} (isVersion : isVersion version = true) :
    ∀ c ∈ version, 42 ≤ c.toNat ∧ c.toNat ≤ 122 := by
  unfold Grammar.isVersion at isVersion
  split at isVersion
  · cases isVersion
  · rename_i first cs
    simp only [Bool.and_eq_true, Bool.or_eq_true, beq_iff_eq, List.isEmpty_iff] at isVersion
    obtain ⟨start, revision⟩ := isVersion
    intro c mem
    rw [List.mem_cons, ← List.takeWhile_append_dropWhile (p := isVersionChar) (l := cs),
      List.mem_append] at mem
    rcases mem with rfl | mem | mem
    · rcases start with digit | rfl
      · have := isDigit_iff.1 digit
        omega
      · decide
    · exact bounds_of_isVersionChar (List.all_eq_true.1 List.all_takeWhile c mem)
    · rcases revision with none | revision
      · rw [none] at mem
        cases mem
      · exact bounds_of_isRevision revision c mem

theorem isBlank_of_isVersion {version : List Char} (isVersion : isVersion version = true) :
    ∀ c ∈ version, isBlank c = false := by
  intro c mem
  have := bounds_of_isVersion isVersion c mem
  exact isBlank_of_ascii (by omega) (by omega)

theorem parse_of_isVersion {version : List Char} (isVersion : isVersion version = true) :
    Version.parse (String.ofList version) = ⟨String.ofList version⟩ :=
  congrArg Version.mk (trimmed_eq_self (trim_of_solid (isBlank_of_isVersion isVersion)))

theorem operator?_of_isNameChar {c : Char} {cs : List Char} (name : isNameChar c = true) :
    operator? (c :: cs) = none := by
  have outside {d : Char} (excluded : isNameChar d = false) : c ≠ d := by
    rintro rfl
    rw [name] at excluded
    cases excluded
  have less := outside (show isNameChar '<' = false by decide)
  have greater := outside (show isNameChar '>' = false by decide)
  have equal := outside (show isNameChar '=' = false by decide)
  have tilde := outside (show isNameChar '~' = false by decide)
  unfold operator?
  split <;> simp_all

theorem operator?_eq_equal {cs rest : List Char} (read : operator? cs = some (.equal, rest)) :
    cs = '=' :: rest := by
  unfold operator? at read
  split at read <;> simp_all

end Grammar

namespace Shape
open Grammar

theorem basic?_eq_some_iff {cs : List Char} {shape : Shape} :
    basic? cs = some shape ↔ ∃ category name, shape = basic category name ∧
      cs = category ++ '/' :: name ∧ isName category = true ∧ isName name = true := by
  rw [basic?, Option.bind_eq_bind, Option.bind_eq_some_iff]
  constructor
  · rintro ⟨⟨category, name⟩, front, read⟩
    dsimp only at read
    split at read
    · rename_i isName
      obtain ⟨rfl, isCategory⟩ := category?_eq_some_iff.1 front
      cases read
      exact ⟨category, name, rfl, rfl, isCategory, isName⟩
    · cases read
  · rintro ⟨category, name, rfl, rfl, isCategory, isName⟩
    exact ⟨(category, name), category?_eq_some_iff.2 ⟨rfl, isCategory⟩, if_pos isName⟩

theorem versioned?_eq_some_iff {cs : List Char} {shape : Shape} :
    versioned? cs = some shape ↔ ∃ operator rest category name version,
      shape = versioned operator category name version ∧
      operator? cs = some (operator, rest) ∧ cpv? rest = some (category, name, version) := by
  rw [versioned?, Option.bind_eq_bind, Option.bind_eq_some_iff]
  constructor
  · rintro ⟨⟨operator, rest⟩, start, read⟩
    obtain ⟨⟨category, name, version⟩, names, same⟩ := Option.bind_eq_some_iff.1 read
    cases same
    exact ⟨operator, rest, category, name, version, rfl, start, names⟩
  · rintro ⟨operator, rest, category, name, version, rfl, start, names⟩
    exact ⟨(operator, rest), start, Option.bind_eq_some_iff.2 ⟨_, names, rfl⟩⟩

theorem slotted?_eq_some_iff {cs : List Char} {shape : Shape} :
    slotted? cs = some shape ↔ ∃ category name slot, shape = slotted category name slot ∧
      cs = category ++ '/' :: name ++ ':' :: slot ∧ isName category = true ∧
      isName name = true ∧ isLabel slot = true := by
  rw [slotted?, Option.bind_eq_bind, Option.bind_eq_some_iff]
  constructor
  · rintro ⟨⟨front, slot⟩, cut, read⟩
    obtain ⟨⟨category, name⟩, names, read⟩ := Option.bind_eq_some_iff.1 read
    obtain ⟨good, same⟩ := Option.ite_none_right_eq_some.1 read
    obtain ⟨isName, isLabel⟩ := Bool.and_eq_true_iff.1 good
    obtain ⟨rfl, -⟩ := cut?_eq_some_iff.1 cut
    obtain ⟨rfl, isCategory⟩ := category?_eq_some_iff.1 names
    cases same
    exact ⟨category, name, slot, rfl, rfl, isCategory, isName, isLabel⟩
  · rintro ⟨category, name, slot, rfl, rfl, isCategory, isName, isLabel⟩
    have colonless : ':' ∉ category ++ '/' :: name := by
      simp only [List.mem_append, List.mem_cons, not_or]
      exact ⟨not_mem_of_isName isCategory (by decide), by decide,
        not_mem_of_isName isName (by decide)⟩
    refine ⟨(_, slot), cut?_eq_some_iff.2 ⟨rfl, colonless⟩, Option.bind_eq_some_iff.2
      ⟨(category, name), category?_eq_some_iff.2 ⟨rfl, isCategory⟩, ?_⟩⟩
    simp [isName, isLabel]

theorem qualified?_eq_some_iff {cs : List Char} {shape : Shape} :
    qualified? cs = some shape ↔ ∃ front back operator rest category name version repository,
      shape = qualified operator category name version (back.takeWhile isLabelChar) repository ∧
      cut? ':' cs = some (front, back) ∧ operator? front = some (operator, rest) ∧
      cpv? rest = some (category, name, version) ∧
      repository? (back.dropWhile isLabelChar) = some repository := by
  rw [qualified?, Option.bind_eq_bind, Option.bind_eq_some_iff]
  constructor
  · rintro ⟨⟨front, back⟩, cut, read⟩
    obtain ⟨⟨operator, rest⟩, start, read⟩ := Option.bind_eq_some_iff.1 read
    obtain ⟨⟨category, name, version⟩, names, read⟩ := Option.bind_eq_some_iff.1 read
    obtain ⟨repository, tail, same⟩ := Option.bind_eq_some_iff.1 read
    cases same
    exact ⟨front, back, operator, rest, category, name, version, repository, rfl, cut, start,
      names, tail⟩
  · rintro ⟨front, back, operator, rest, category, name, version, repository, rfl, cut, start,
      names, tail⟩
    exact ⟨(front, back), cut, Option.bind_eq_some_iff.2 ⟨(operator, rest), start,
      Option.bind_eq_some_iff.2 ⟨(category, name, version), names,
        Option.bind_eq_some_iff.2 ⟨repository, tail, rfl⟩⟩⟩⟩

theorem versioned?_of_basic {cs : List Char} (basic : (basic? cs).isSome = true) :
    versioned? cs = none := by
  obtain ⟨shape, read⟩ := Option.isSome_iff_exists.1 basic
  obtain ⟨category, name, -, rfl, isCategory, -⟩ := basic?_eq_some_iff.1 read
  obtain ⟨nonempty, chars⟩ := isName_iff.1 isCategory
  obtain ⟨c, rest, rfl⟩ := List.exists_cons_of_ne_nil nonempty
  rw [versioned?, List.cons_append, operator?_of_isNameChar (chars c (by simp))]
  rfl

theorem versioned?_eq_equal {cs category name version : List Char}
    (read : versioned? cs = some (versioned .equal category name version)) :
    ∃ rest, cs = '=' :: rest ∧ cpv? rest = some (category, name, version) := by
  obtain ⟨operator, rest, _, _, _, same, start, names⟩ := versioned?_eq_some_iff.1 read
  cases same
  exact ⟨rest, operator?_eq_equal start, names⟩

theorem read?_of_versioned {cs : List Char} {shape : Shape} (read : versioned? cs = some shape) :
    read? cs = some shape := by
  simp only [read?, readers, List.findSome?_cons, read]

theorem read?_of_basic {cs : List Char} {shape : Shape} (read : basic? cs = some shape) :
    read? cs = some shape := by
  have unversioned := versioned?_of_basic (Option.isSome_of_eq_some read)
  simp only [read?, readers, List.findSome?_cons, unversioned, read]

theorem exists_reader_of_read? {cs : List Char} {shape : Shape} (read : read? cs = some shape) :
    versioned? cs = some shape ∨ basic? cs = some shape ∨ slotted? cs = some shape ∨
      qualified? cs = some shape := by
  obtain ⟨reader, mem, read⟩ := List.exists_of_findSome?_eq_some read
  simp only [readers, List.mem_cons, List.not_mem_nil, or_false] at mem
  rcases mem with rfl | rfl | rfl | rfl
  · exact .inl read
  · exact .inr (.inl read)
  · exact .inr (.inr (.inl read))
  · exact .inr (.inr (.inr read))

end Shape

end Ebuild
