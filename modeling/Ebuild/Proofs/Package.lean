import Ebuild.Proofs.Atom.Literal
import Ebuild.Proofs.Atom.Spelling

/-!
# Packages and their text

`category/name-version` reads alike alone and after an operator: a package has the parts that an
atom with that version has. `package_reads_as_atom` says so, and that the text of a package and its
parts determine each other.
-/

namespace Ebuild
open Text Grammar

/-! ### Alone -/

namespace Package

theorem raw_ofParts {version : List Char} (isVersion : isVersion version = true)
    (category name : String) :
    (ofParts category name (String.ofList version)).version.raw = String.ofList version :=
  congrArg Version.raw (parse_of_isVersion isVersion)

theorem cpv_ofParts {category name version : List Char} (isVersion : isVersion version = true) :
    (ofParts (String.ofList category) (String.ofList name) (String.ofList version)).cpv =
      String.ofList (category ++ '/' :: (name ++ '-' :: version)) := by
  apply String.toList_inj.1
  rw [cpv, cpn, raw_ofParts isVersion]
  simp [ofParts]

theorem cpv_of_parse {s : String} (trimmed : Text.trimmed s = s) {p : Package}
    (read : parse s = .ok p) : p.cpv = s := by
  obtain ⟨category, name, version, parts, rfl⟩ := parse_eq_ok_iff.1 read
  rw [trimmed] at parts
  obtain ⟨whole, -, -, isVersion⟩ := cpv?_eq_some parts
  rw [cpv_ofParts isVersion, ← whole, String.ofList_toList]

theorem parse_cpv {category name version : List Char} (isCategory : isName category = true)
    (isName : isName name = true) (isVersion : isVersion version = true) :
    parse (ofParts (String.ofList category) (String.ofList name) (String.ofList version)).cpv =
      .ok (ofParts (String.ofList category) (String.ofList name) (String.ofList version)) := by
  have solid := isBlank_of_cpv isCategory isName isVersion
  rw [cpv_ofParts isVersion, parse_eq_ok_iff, trimmed_eq_self (trim_of_solid solid),
    String.toList_ofList]
  exact ⟨category, name, version,
    cpv?_eq_some_iff.2 ⟨rfl, isCategory, isName, isVersion⟩, rfl⟩

end Package

/-! ### After an operator -/

theorem trim_operator_append (op : Operator) {s : List Char} (trimmed : trim s = s) :
    trim (op.text.toList ++ s) = op.text.toList ++ s := by
  have sign := isBlank_of_operator op
  refine trim_eq_self ?_ ?_
  · intro c mem
    cases op <;> exact sign c (List.mem_of_mem_head? (by simpa [Operator.text] using mem))
  · intro c mem
    rw [List.getLast?_append] at mem
    cases last : s.getLast? with
    | none =>
      rw [last, Option.none_or] at mem
      exact sign c (List.mem_of_getLast? mem)
    | some d =>
      rw [last] at mem
      have stop := getLast_trim s
      rw [trimmed, last] at stop
      exact stop c mem

theorem Shape.spells_versioned_iff (op : Operator) {s category name version : List Char} :
    (versioned op category name version).Spells (op.text.toList ++ s) ↔
      cpv? s = some (category, name, version) := by
  have mark : ∃ mark, mark ∈ repositoryMarks := ⟨[':'], by decide⟩
  rw [cpv?_eq_some_iff, isVersion_iff, Spells, WellFormed, and_comm]
  simp [renderWith, render_versioned, mark]

namespace Atom

section
variable [Glob.Engine] {s : String} (trimmed : Text.trimmed s = s) (op : Operator)
include trimmed

theorem exists_cpv_of_parse {atom : Atom} {version : Version}
    (read : parse (op.text ++ s) = .ok atom) (kind : atom.constraint = .versioned op version) :
    ∃ category name, cpv? s.toList = some (category, name, version.raw.toList) ∧
      Glob.parse (String.ofList category) = .ok atom.category ∧
      Glob.parse (String.ofList name) = .ok atom.package := by
  obtain ⟨shape, spells, madeOf⟩ := exists_spelling read
  rw [String.toList_append, trim_operator_append op (trim_toList trimmed)] at spells
  have constraint := madeOf.constraint
  rw [kind] at constraint
  cases shape with
  | versioned op' category name text =>
    obtain ⟨rfl, rfl⟩ := constraint
    exact ⟨category, name, (Shape.spells_versioned_iff op').1 spells, madeOf.category,
      madeOf.package⟩
  | _ => cases constraint

theorem exists_parse_of_cpv {category name version : List Char}
    (parts : cpv? s.toList = some (category, name, version))
    (compiled : ∃ glob, Glob.parse (String.ofList category) = .ok glob)
    (compiled' : ∃ glob, Glob.parse (String.ofList name) = .ok glob) :
    ∃ atom version, parse (op.text ++ s) = .ok atom ∧
      atom.constraint = .versioned op version := by
  have spells := (Shape.spells_versioned_iff op).2 parts
  obtain ⟨atom, made, -⟩ := exists_madeOf spells.1
    (by simp [globTexts, namesOf, compiled, compiled']) (op.text ++ s)
  have whole : Text.trimmed (op.text ++ s) = op.text ++ s := by
    rw [Text.trimmed, String.toList_append, trim_operator_append op (trim_toList trimmed),
      String.ofList_append, String.ofList_toList, String.ofList_toList]
  have read : Shape.read? (op.text ++ s).toList = some (.versioned op category name version) := by
    rw [String.toList_append, Shape.read?_eq_some_iff]
    exact spells
  have kind := (ofShape_eq_ok_iff.1 made).2.2.2
  refine ⟨atom, Version.parse (String.ofList version), ?_, (Except.ok.inj kind).symm⟩
  rw [parse_eq_ok_iff, whole]
  exact ⟨_, read, made⟩

theorem parts_of_package {atom : Atom} {version : Version} {p : Package}
    (read : parse (op.text ++ s) = .ok atom) (kind : atom.constraint = .versioned op version)
    (package : Package.parse s = .ok p) :
    atom.category.text = p.category ∧ atom.package.text = p.name ∧ version.raw = p.version.raw := by
  obtain ⟨category, name, parts, readCategory, readName⟩ := exists_cpv_of_parse trimmed op read kind
  obtain ⟨_, _, _, parts', rfl⟩ := Package.parse_eq_ok_iff.1 package
  rw [trimmed, parts] at parts'
  cases parts'
  have isVersion := (cpv?_eq_some parts).2.2.2
  refine ⟨(Glob.parse_spec readCategory).1, (Glob.parse_spec readName).1, ?_⟩
  rw [Package.raw_ofParts isVersion, String.ofList_toList]

end

end Atom

/-! ### Both -/

/-- A text is read as a package exactly if it is read, after an operator, as an atom with that
operator and a version, and both have the same parts. The package has that text, and a package with
the parts of an atom is read from its text again. -/
theorem package_reads_as_atom [Glob.Engine] :
    (∀ (s : String) (op : Operator), Text.trimmed s = s →
      (∀ p, Package.parse s = .ok p →
        (∃ glob, Glob.parse p.category = .ok glob) ∧ ∃ glob, Glob.parse p.name = .ok glob) →
      ((∃ p, Package.parse s = .ok p) ↔ ∃ atom version, Atom.parse (op.text ++ s) = .ok atom ∧
        atom.constraint = .versioned op version) ∧
      ∀ p atom version, Package.parse s = .ok p → Atom.parse (op.text ++ s) = .ok atom →
        atom.constraint = .versioned op version →
        atom.category.text = p.category ∧ atom.package.text = p.name ∧
          version.raw = p.version.raw) ∧
    (∀ (s : String) (p : Package), Text.trimmed s = s → Package.parse s = .ok p → p.cpv = s) ∧
    ∀ category name version : String, isName category.toList = true → isName name.toList = true →
      VersionText version.toList →
      let p := Package.ofParts category name version
      Package.parse p.cpv = .ok p ∧
        p.category = category ∧ p.name = name ∧ p.version.raw = version := by
  refine ⟨?_, ?_, ?_⟩
  · intro s op trimmed compiled
    refine ⟨⟨?_, ?_⟩, fun p atom version package read kind =>
      Atom.parts_of_package trimmed op read kind package⟩
    · rintro ⟨p, read⟩
      obtain ⟨category, name⟩ := compiled p read
      obtain ⟨_, _, _, parts, rfl⟩ := Package.parse_eq_ok_iff.1 read
      rw [trimmed] at parts
      exact Atom.exists_parse_of_cpv trimmed op parts category name
    · rintro ⟨atom, version, read, kind⟩
      obtain ⟨category, name, parts, -⟩ := Atom.exists_cpv_of_parse trimmed op read kind
      rw [← trimmed] at parts
      exact ⟨_, Package.parse_eq_ok_iff.2 ⟨_, _, _, parts, rfl⟩⟩
  · exact fun s p trimmed read => Package.cpv_of_parse trimmed read
  · intro category name version isCategory isName isVersion
    have isVersion := isVersion_iff.2 isVersion
    have read := Package.parse_cpv isCategory isName isVersion
    have raw := Package.raw_ofParts isVersion category name
    simp only [String.ofList_toList] at read raw
    exact ⟨read, rfl, rfl, raw⟩

/-- A name that ends in a version itself, and a version with a revision. -/
theorem package_reads_as_atom_after_less :
    let p := Package.ofParts "dev-libs" "foo-1" "2.0-r1"
    Text.trimmed "dev-libs/foo-1-2.0-r1" = "dev-libs/foo-1-2.0-r1" ∧
      Package.parse "dev-libs/foo-1-2.0-r1" = .ok p ∧ Package.parse p.cpv = .ok p ∧
      (∃ glob, Glob.parse p.category = .ok glob) ∧ (∃ glob, Glob.parse p.name = .ok glob) ∧
      ∃ atom version, Atom.parse "<dev-libs/foo-1-2.0-r1" = .ok atom ∧
        atom.constraint = .versioned .less version ∧ atom.package.text = "foo-1" ∧
        version.raw = "2.0-r1" := by
  intro p
  have trimmed : Text.trimmed "dev-libs/foo-1-2.0-r1" = "dev-libs/foo-1-2.0-r1" := by
    decide +kernel
  have read : Package.parse "dev-libs/foo-1-2.0-r1" = .ok p := by decide +kernel
  have compiled : (∃ glob, Glob.parse p.category = .ok glob) ∧
      ∃ glob, Glob.parse p.name = .ok glob :=
    ⟨⟨.exact "dev-libs", by decide +kernel⟩, .exact "foo-1", by decide +kernel⟩
  obtain ⟨agree, -, again⟩ := package_reads_as_atom
  obtain ⟨both, parts⟩ := agree "dev-libs/foo-1-2.0-r1" .less trimmed (by
    intro q read'
    rw [read] at read'
    cases read'
    exact compiled)
  obtain ⟨atom, version, parsed, kind⟩ := both.1 ⟨p, read⟩
  obtain ⟨-, name, raw⟩ := parts p atom version read parsed kind
  obtain ⟨read', -⟩ := again "dev-libs" "foo-1" "2.0-r1" (by decide +kernel) (by decide +kernel)
    (isVersion_iff.1 (by decide +kernel))
  exact ⟨trimmed, read, read', compiled.1, compiled.2, atom, version, parsed, kind, name, raw⟩

end Ebuild
