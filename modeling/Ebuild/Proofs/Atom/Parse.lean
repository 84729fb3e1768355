import Ebuild.Atom.Basic
import Ebuild.Proofs.Atom.Grammar

/-!
# What an atom is read from

The parts of an atom that could be read are those of its expression: the text of each glob is the
text that stood there, and category and name are names of the grammar.
-/

namespace Ebuild
open Grammar

/-! ### Globs -/

namespace Glob

theorem stem?_eq_some_iff {cs front : List Char} :
    stem? cs = some front ↔ cs = front ++ ['*'] ∧ front.any isWildcard = false := by
  rw [stem?, Option.ite_none_right_eq_some, Option.some.injEq, Bool.and_eq_true, decide_eq_true_iff,
    Bool.not_eq_true', List.getLast?_eq_some_iff]
  constructor
  · rintro ⟨⟨⟨front', rfl⟩, literal⟩, rfl⟩
    rw [List.dropLast_concat] at literal ⊢
    exact ⟨rfl, literal⟩
  · rintro ⟨rfl, literal⟩
    rw [List.dropLast_concat]
    exact ⟨⟨⟨front, rfl⟩, literal⟩, rfl⟩

/-- A glob keeps the text that it was read from, and is literal when this has no wildcard. -/
theorem parse_spec [Engine] {text : String} {glob : Glob} (read : parse text = .ok glob) :
    glob.text = text ∧ glob.isLiteral = !hasWildcard text := by
  unfold parse at read
  split at read
  · rename_i star
    cases read
    subst star
    exact ⟨rfl, by decide⟩
  · split at read
    · rename_i literal
      cases read
      exact ⟨rfl, literal.symm⟩
    · rename_i wild
      have wild : false = !hasWildcard text := by simpa using wild
      split at read
      · rename_i front cut
        cases read
        refine ⟨String.toList_inj.1 ?_, wild⟩
        rw [(stem?_eq_some_iff.1 cut).1]
        simp [Glob.text]
      · split at read
        · cases read
          exact ⟨rfl, wild⟩
        · cases read

theorem accepts_of_isLiteral {glob : Glob} (literal : glob.isLiteral = true) (value : String) :
    glob.accepts value = decide (glob.text = value) := by
  cases glob with
  | exact text => rfl
  | any | stem | pattern => cases literal

end Glob

/-! ### Names -/

theorem Shape.isName_of_read? {cs : List Char} {shape : Shape} (read : read? cs = some shape) :
    isName (Atom.namesOf shape).1 = true ∧ isName (Atom.namesOf shape).2 = true := by
  rcases exists_reader_of_read? read with read | read | read | read
  · obtain ⟨_, _, _, _, _, rfl, -, names⟩ := versioned?_eq_some_iff.1 read
    exact ⟨(cpv?_eq_some names).2.1, (cpv?_eq_some names).2.2.1⟩
  · obtain ⟨_, _, rfl, -, isCategory, isName⟩ := basic?_eq_some_iff.1 read
    exact ⟨isCategory, isName⟩
  · obtain ⟨_, _, _, rfl, -, isCategory, isName, -⟩ := slotted?_eq_some_iff.1 read
    exact ⟨isCategory, isName⟩
  · obtain ⟨_, _, _, _, _, _, _, _, rfl, -, -, names, -⟩ := qualified?_eq_some_iff.1 read
    exact ⟨(cpv?_eq_some names).2.1, (cpv?_eq_some names).2.2.1⟩

namespace Atom

variable [Glob.Engine]

theorem ofShape_eq_ok_iff {expression : String} {shape : Shape} {atom : Atom} :
    ofShape expression shape = .ok atom ↔ expression = atom.expression ∧
      Glob.parse (String.ofList (namesOf shape).1) = .ok atom.category ∧
      Glob.parse (String.ofList (namesOf shape).2) = .ok atom.package ∧
      constraintOf shape = .ok atom.constraint := by
  obtain ⟨text, category, package, constraint⟩ := atom
  rw [ofShape]
  cases constraintOf shape with
  | error e => simp [Bind.bind, Except.bind]
  | ok c =>
    cases Glob.parse (String.ofList (namesOf shape).1) with
    | error e => simp [Bind.bind, Except.bind]
    | ok a =>
      cases Glob.parse (String.ofList (namesOf shape).2) with
      | error e => simp [Bind.bind, Except.bind]
      | ok b => simp [Bind.bind, Except.bind, Pure.pure, Except.pure]

theorem parse_eq_ok_iff {text : String} {atom : Atom} :
    parse text = .ok atom ↔ ∃ shape, Shape.read? (Text.trimmed text).toList = some shape ∧
      ofShape (Text.trimmed text) shape = .ok atom := by
  cases read : Shape.read? (Text.trimmed text).toList <;> simp [parse, read]

/-- Whether the atom could be read from some expression. -/
def Readable (atom : Atom) : Prop := ∃ text, parse text = .ok atom

theorem Readable.names {atom : Atom} (readable : atom.Readable) :
    ∃ category name, isName category = true ∧ isName name = true ∧
      Glob.parse (String.ofList category) = .ok atom.category ∧
      Glob.parse (String.ofList name) = .ok atom.package := by
  obtain ⟨text, read⟩ := readable
  obtain ⟨shape, read, made⟩ := parse_eq_ok_iff.1 read
  obtain ⟨isCategory, isName⟩ := Shape.isName_of_read? read
  obtain ⟨-, category, name, -⟩ := ofShape_eq_ok_iff.1 made
  exact ⟨_, _, isCategory, isName, category, name⟩

end Atom

end Ebuild
