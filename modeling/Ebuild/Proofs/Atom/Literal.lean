import Ebuild.Atom.Basic
import Ebuild.Proofs.Atom.Grammar
import Ebuild.Proofs.Version.Slot

/-!
# Atoms without wildcards

An expression `names` the packages that its atom accepts. Without a wildcard, `category/name` names
by the text of both, and `=category/name-version` by that and by a version that compares equal.
-/

namespace Ebuild
open Text

theorem Glob.parse_literal [Glob.Engine] {cs : List Char}
    (literal : cs.any Glob.isWildcard = false) :
    Glob.parse (String.ofList cs) = .ok (.exact (String.ofList cs)) := by
  have notStar : String.ofList cs ≠ "*" := by
    intro same
    have : cs = ['*'] := by simpa using congrArg String.toList same
    rw [this] at literal
    revert literal
    decide
  rw [Glob.parse, if_neg notStar, Glob.hasWildcard, String.toList_ofList, literal]
  rfl

theorem Version.acceptsEqual_literal {v candidate : Version} (starless : '*' ∉ v.raw.toList) :
    v.acceptsEqual candidate = (v.compare candidate == .eq) := by
  rw [acceptsEqual, wildcard_of_not_mem starless]

theorem Package.parse_eq_ok_iff {text : String} {p : Package} :
    parse text = .ok p ↔ ∃ category name version,
      Grammar.cpv? (Text.trimmed text).toList = some (category, name, version) ∧
        p = ofParts (String.ofList category) (String.ofList name) (String.ofList version) := by
  rw [parse]
  cases read : Grammar.cpv? (Text.trimmed text).toList with
  | none => simp
  | some parts =>
    obtain ⟨category, name, version⟩ := parts
    constructor
    · intro same
      cases same
      exact ⟨category, name, version, rfl, rfl⟩
    · rintro ⟨_, _, _, same, rfl⟩
      cases same
      rfl

theorem Package.cpn_eq_iff {p : Package} {category name : List Char} (slashless : '/' ∉ category)
    (slashless' : '/' ∉ name) :
    String.ofList (category ++ '/' :: name) = p.cpn ↔
      String.ofList category = p.category ∧ String.ofList name = p.name := by
  constructor
  · intro same
    have texts : category ++ '/' :: name = p.category.toList ++ '/' :: p.name.toList := by
      simpa [Package.cpn] using congrArg String.toList same
    have counts := congrArg (List.count '/') texts
    simp only [List.count_append, List.count_cons_self, List.count_eq_zero_of_not_mem slashless,
      List.count_eq_zero_of_not_mem slashless'] at counts
    have front : '/' ∉ p.category.toList := List.count_eq_zero.1 (by omega)
    have read : Grammar.cut? '/' (category ++ '/' :: name) = some (category, name) :=
      Grammar.cut?_eq_some_iff.2 ⟨rfl, slashless⟩
    rw [Grammar.cut?_eq_some_iff.2 ⟨texts, front⟩] at read
    cases read
    exact ⟨String.ofList_toList, String.ofList_toList⟩
  · rintro ⟨category, name⟩
    rw [Package.cpn, ← category, ← name]
    apply String.toList_inj.1
    simp

namespace Atom

variable [Glob.Engine]

/-- Whether an expression can be read, and its atom accepts the package. -/
def Names (text : String) (p : Package) : Prop :=
  ∃ atom, parse text = .ok atom ∧ atom.acceptsPackage p = true

theorem parse_of_read {entry : List Char} {shape : Shape} (trimmed : trim entry = entry)
    (read : Shape.read? entry = some shape) :
    parse (String.ofList entry) = ofShape (String.ofList entry) shape := by
  simp only [parse, trimmed_eq_self trimmed, String.toList_ofList, read]

theorem ofShape_literal {entry : String} {shape : Shape} {constraint : Constraint}
    (constrained : constraintOf shape = .ok constraint)
    (category : (namesOf shape).1.any Glob.isWildcard = false)
    (name : (namesOf shape).2.any Glob.isWildcard = false) :
    ofShape entry shape = .ok ⟨entry, .exact (String.ofList (namesOf shape).1),
      .exact (String.ofList (namesOf shape).2), constraint⟩ := by
  rw [ofShape, constrained, Glob.parse_literal category, Glob.parse_literal name]
  rfl

theorem names_iff {entry : List Char} {shape : Shape} {constraint : Constraint} {p : Package}
    (trimmed : trim entry = entry) (read : Shape.read? entry = some shape)
    (constrained : constraintOf shape = .ok constraint)
    (category : (namesOf shape).1.any Glob.isWildcard = false)
    (name : (namesOf shape).2.any Glob.isWildcard = false) :
    Names (String.ofList entry) p ↔ String.ofList (namesOf shape).1 = p.category ∧
      String.ofList (namesOf shape).2 = p.name ∧ constraint.accepts p = true := by
  rw [Names, parse_of_read trimmed read, ofShape_literal constrained category name]
  constructor
  · rintro ⟨atom, same, accepts⟩
    cases same
    simpa [acceptsPackage, Glob.accepts, Atom.accepts, and_assoc] using accepts
  · intro accepts
    refine ⟨_, rfl, ?_⟩
    simpa [acceptsPackage, Glob.accepts, Atom.accepts, and_assoc] using accepts

theorem names_basic_iff {entry : List Char} {p : Package} (trimmed : trim entry = entry)
    (literal : entry.any Glob.isWildcard = false) (basic : (Shape.basic? entry).isSome = true) :
    Names (String.ofList entry) p ↔ String.ofList entry = p.cpn := by
  obtain ⟨shape, read⟩ := Option.isSome_iff_exists.1 basic
  obtain ⟨category, name, rfl, rfl, isCategory, isName⟩ := Shape.basic?_eq_some_iff.1 read
  have parts := literal
  rw [List.any_append, List.any_cons, Bool.or_eq_false_iff, Bool.or_eq_false_iff] at parts
  rw [names_iff trimmed (Shape.read?_of_basic read) rfl parts.1 parts.2.2,
    Package.cpn_eq_iff (Grammar.not_mem_of_isName isCategory (by decide))
      (Grammar.not_mem_of_isName isName (by decide))]
  simp [namesOf, Constraint.accepts]

/-- An exact entry names a package by a version that compares equal. -/
theorem names_versioned_iff {entry category name version : List Char} {p : Package}
    (trimmed : trim entry = entry) (literal : entry.any Glob.isWildcard = false)
    (read : Shape.versioned? entry = some (.versioned .equal category name version)) :
    Names (String.ofList entry) p ↔ String.ofList category = p.category ∧
      String.ofList name = p.name ∧
      ((Version.parse (String.ofList version)).compare p.version) = .eq := by
  obtain ⟨rest, rfl, parts⟩ := Shape.versioned?_eq_equal read
  obtain ⟨rfl, -, -, isVersion⟩ := Grammar.cpv?_eq_some parts
  simp only [List.any_cons, List.any_append, Bool.or_eq_false_iff] at literal
  obtain ⟨-, wild_category, -, wild_name, -, wild_version⟩ := literal
  have raw : (Version.parse (String.ofList version)).raw.toList = version := by
    rw [Grammar.parse_of_isVersion isVersion, String.toList_ofList]
  have starless : '*' ∉ (Version.parse (String.ofList version)).raw.toList := by
    rw [raw]
    intro mem
    exact absurd (List.any_eq_false.1 wild_version _ mem) (by decide)
  rw [names_iff trimmed (Shape.read?_of_versioned read) rfl wild_category wild_name]
  simp [namesOf, Constraint.accepts, Version.accepts, Version.acceptsEqual_literal starless]

end Atom

end Ebuild
