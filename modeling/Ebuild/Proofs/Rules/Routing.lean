import Ebuild.Proofs.Atom.Literal
import Ebuild.Proofs.Atom.Spelling
import Ebuild.Proofs.Rules.Keywords

/-!
# Rules by the kind of their atoms

No text is accepted by two readers of the grammar, so the order of the readers is of no account, and
the tests by which rule lines are sorted agree with the kind of the atom that the line would be read
as. `routing_follows_kind` puts this together.
-/

namespace Ebuild
open Text

namespace Shape

theorem basic?_iff_read? {cs : List Char} {shape : Shape} :
    basic? cs = some shape ↔
      read? cs = some shape ∧ ∃ category name, shape = basic category name := by
  constructor
  · intro read
    obtain ⟨category, name, same, -⟩ := basic?_eq_some_iff.1 read
    exact ⟨read?_of_basic read, category, name, same⟩
  · rintro ⟨read, category, name, rfl⟩
    obtain ⟨⟨isCategory, isName⟩, mark, -, rfl⟩ := read?_eq_some_iff.1 read
    exact basic?_eq_some_iff.2 ⟨category, name, rfl, rfl, isCategory, isName⟩

theorem versioned?_iff_read? {cs : List Char} {shape : Shape} :
    versioned? cs = some shape ↔ read? cs = some shape ∧
      ∃ operator category name version, shape = versioned operator category name version := by
  constructor
  · intro read
    obtain ⟨operator, category, name, version, same, -⟩ := versioned?_text_iff.1 read
    exact ⟨read?_of_versioned read, operator, category, name, version, same⟩
  · rintro ⟨read, operator, category, name, version, rfl⟩
    obtain ⟨⟨isCategory, isName, isVersion⟩, mark, -, rfl⟩ := read?_eq_some_iff.1 read
    exact versioned?_text_iff.2 ⟨operator, category, name, version, rfl, rfl, isCategory, isName,
      Grammar.isVersion_iff.2 isVersion⟩

end Shape

namespace Atom

variable [Glob.Engine]

/-- `parse` with some readers in some order. -/
def parseWith (readers : List (List Char → Option Shape)) (text : String) : Except Error Atom :=
  let text := Text.trimmed text
  match readers.findSome? fun reader => reader text.toList with
  | some shape => ofShape text shape
  | none => .error (.invalidAtom text)

theorem parseWith_perm {readers : List (List Char → Option Shape)}
    (perm : readers.Perm Shape.readers) (text : String) : parseWith readers text = parse text :=
  congrArg
    (fun read? : Option Shape => match read? with
      | some shape => ofShape (Text.trimmed text) shape
      | none => .error (.invalidAtom (Text.trimmed text)))
    (Shape.findSome?_perm perm (Text.trimmed text).toList)

section
variable {entry : List Char} {atom : Atom} (trimmed : trim entry = entry)
  (read : parse (String.ofList entry) = .ok atom)
include trimmed read

theorem exists_shape : ∃ shape, Shape.read? entry = some shape ∧ atom.constraint.MadeOf shape := by
  obtain ⟨shape, spells, madeOf⟩ := exists_spelling read
  rw [String.toList_ofList, trimmed] at spells
  exact ⟨shape, Shape.read?_eq_some_iff.2 spells, madeOf.constraint⟩

theorem basic?_isSome_iff : (Shape.basic? entry).isSome = true ↔ atom.constraint = .basic := by
  obtain ⟨shape, spells, madeOf⟩ := exists_shape trimmed read
  rw [Option.isSome_iff_exists]
  simp only [Shape.basic?_iff_read?, spells, Option.some.injEq]
  constructor
  · rintro ⟨_, rfl, category, name, rfl⟩
    cases kind : atom.constraint <;> simp_all [Constraint.MadeOf]
  · intro kind
    rw [kind] at madeOf
    cases shape with
    | basic category name => exact ⟨_, rfl, category, name, rfl⟩
    | _ => cases madeOf

theorem versioned?_iff (operator : Operator) :
    (∃ category name version,
      Shape.versioned? entry = some (.versioned operator category name version)) ↔
      ∃ version, atom.constraint = .versioned operator version := by
  obtain ⟨shape, spells, madeOf⟩ := exists_shape trimmed read
  simp only [Shape.versioned?_iff_read?, spells, Option.some.injEq]
  constructor
  · rintro ⟨category, name, version, rfl, -⟩
    cases kind : atom.constraint <;> simp_all [Constraint.MadeOf]
  · rintro ⟨version, kind⟩
    rw [kind] at madeOf
    cases shape with
    | versioned operator' category name text =>
      obtain ⟨rfl, -⟩ := madeOf
      exact ⟨category, name, text, rfl, _, _, _, _, rfl⟩
    | _ => cases madeOf

end

end Atom

/-! ### Rule lines -/

/-- The form of a mask rule, by its atom alone. -/
def MaskRule.ofAtom (entry : List Char) (a : Atom) : MaskRule :=
  if entry.any Glob.isWildcard then atom a
  else match a.constraint with
    | .basic => plain (String.ofList entry)
    | .versioned .equal version => exact (a.cpn ++ "-" ++ version.raw)
    | _ => atom a

/-- What an accept-keywords line asks for, by its atom alone. -/
def Directive.ofAtom (subject : List Char) (allowed : String) (a : Atom) : Directive :=
  if subject.any Glob.isWildcard then acceptAtom ⟨a, allowed⟩
  else match a.constraint with
    | .basic => acceptPlain ⟨String.ofList subject, allowed⟩
    | _ => acceptAtom ⟨a, allowed⟩

section
variable [Glob.Engine] {entry : List Char} (trimmed : trim entry = entry)
include trimmed

theorem Atom.parse_basic_literal (literal : entry.any Glob.isWildcard = false)
    (basic : (Shape.basic? entry).isSome = true) :
    ∃ a, parse (String.ofList entry) = .ok a ∧ a.constraint = .basic := by
  obtain ⟨shape, read⟩ := Option.isSome_iff_exists.1 basic
  obtain ⟨category, name, rfl, rfl, -⟩ := Shape.basic?_eq_some_iff.1 read
  rw [List.any_append, List.any_cons, Bool.or_eq_false_iff, Bool.or_eq_false_iff] at literal
  exact ⟨_, (parse_of_read trimmed (Shape.read?_of_basic read)).trans
    (ofShape_literal rfl literal.1 literal.2.2), rfl⟩

theorem Atom.parse_exact_literal (literal : entry.any Glob.isWildcard = false)
    {category name version : List Char}
    (read : Shape.versioned? entry = some (.versioned .equal category name version)) :
    ∃ a v, parse (String.ofList entry) = .ok a ∧ a.constraint = .versioned .equal v ∧
      a.cpn ++ "-" ++ v.raw = String.ofList (category ++ '/' :: name ++ '-' :: version) := by
  obtain ⟨_, _, _, _, same, rfl, -, -, isVersion⟩ := Shape.versioned?_text_iff.1 read
  cases same
  have raw := (parse_eq_iff (Grammar.isVersion_iff.1 isVersion)).1 rfl
  simp only [Shape.render, List.any_append, List.any_cons, Bool.or_eq_false_iff] at literal
  obtain ⟨⟨⟨-, fromCategory⟩, -, fromName⟩, -⟩ := literal
  refine ⟨_, _, (parse_of_read trimmed (Shape.read?_of_versioned read)).trans
    (ofShape_literal rfl fromCategory fromName), rfl, String.toList_inj.1 ?_⟩
  simp [cpn, namesOf, Glob.text, raw]

theorem MaskRule.read_eq_ofAtom :
    MaskRule.read entry = MaskRule.ofAtom entry <$> Atom.parse (String.ofList entry) := by
  unfold MaskRule.read
  by_cases wild : entry.any Glob.isWildcard = true
  · have same : MaskRule.ofAtom entry = MaskRule.atom := funext fun a => if_pos wild
    rw [if_pos wild, same]
  · have literal := Bool.eq_false_iff.2 wild
    rw [if_neg wild]
    split
    · rename_i basic
      obtain ⟨a, read, kind⟩ := Atom.parse_basic_literal trimmed literal basic
      rw [read]
      simp [MaskRule.ofAtom, kind, wild, Functor.map, Except.map]
    · rename_i notBasic
      split
      · rename_i category name version exact
        obtain ⟨a, v, read, kind, same⟩ := Atom.parse_exact_literal trimmed literal exact
        rw [read]
        simp [MaskRule.ofAtom, kind, wild, same, Functor.map, Except.map]
      · rename_i notExact
        cases read : Atom.parse (String.ofList entry) with
        | error e => rfl
        | ok a =>
          -- the atom is neither basic nor exact, so its kind keeps it as it is
          have kept : MaskRule.ofAtom entry a = .atom a := by
            rw [MaskRule.ofAtom, if_neg wild]
            split
            · rename_i kind
              exact absurd ((Atom.basic?_isSome_iff trimmed read).2 kind) notBasic
            · rename_i version kind
              obtain ⟨category, name, text, exact⟩ :=
                (Atom.versioned?_iff trimmed read .equal).2 ⟨version, kind⟩
              exact absurd exact (notExact category name text)
            · rfl
          exact congrArg Except.ok kept.symm

theorem Directive.acceptKeywords_eq_ofAtom (allowed : String) :
    Directive.acceptKeywords entry allowed =
      match Atom.parse (String.ofList entry) with
      | .ok a => Directive.ofAtom entry allowed a
      | .error reason => .skip .acceptKeywords reason := by
  unfold Directive.acceptKeywords
  split
  · rename_i plain
    rw [Bool.and_eq_true, Bool.not_eq_true'] at plain
    obtain ⟨a, read, kind⟩ := Atom.parse_basic_literal trimmed plain.1 plain.2
    rw [read]
    simp [Directive.ofAtom, kind, plain.1]
  · rename_i notPlain
    rw [Bool.and_eq_true, Bool.not_eq_true', not_and] at notPlain
    cases read : Atom.parse (String.ofList entry) with
    | error e => rfl
    | ok a =>
      dsimp only [Directive.ofAtom]
      split
      · rfl
      · rename_i literal
        split
        · rename_i kind
          exact absurd ((Atom.basic?_isSome_iff trimmed read).2 kind)
            (notPlain (Bool.eq_false_iff.2 literal))
        · rfl

end

theorem trim_splitKeywords {line entry : List Char} (text : ruleText? line = some entry)
    (arch : String) :
    trim (Directive.splitKeywords arch entry).1 = (Directive.splitKeywords arch entry).1 := by
  obtain ⟨subject, ws, -, solid, -, split⟩ := splitKeywords_spec arch text
  rw [split]
  exact trim_of_solid solid.2

/-- At most one reader accepts a text, so their order changes neither an atom nor an error. The
readers that the rule lines are tried with accept what is read as an atom of their kind, and the
lines, from which white space is taken off, are sorted as these kinds say. -/
theorem routing_follows_kind [Glob.Engine] :
    (∀ cs, Shape.readers.countP (fun reader => (reader cs).isSome) ≤ 1) ∧
    (∀ readers : List (List Char → Option Shape), readers.Perm Shape.readers →
      ∀ text, Atom.parseWith readers text = Atom.parse text) ∧
    (∀ cs shape,
      (Shape.basic? cs = some shape ↔
        Shape.read? cs = some shape ∧ ∃ category name, shape = .basic category name) ∧
      (Shape.versioned? cs = some shape ↔ Shape.read? cs = some shape ∧
        ∃ operator category name version, shape = .versioned operator category name version)) ∧
    (∀ line entry, ruleText? line = some entry → trim entry = entry ∧
      ∀ arch, trim (Directive.splitKeywords arch entry).1 =
        (Directive.splitKeywords arch entry).1) ∧
    ∀ entry, trim entry = entry →
      (∀ atom, Atom.parse (String.ofList entry) = .ok atom →
        ((Shape.basic? entry).isSome = true ↔ atom.constraint = .basic) ∧
        ∀ operator, (∃ category name version,
          Shape.versioned? entry = some (.versioned operator category name version)) ↔
            ∃ version, atom.constraint = .versioned operator version) ∧
      MaskRule.read entry = MaskRule.ofAtom entry <$> Atom.parse (String.ofList entry) ∧
      ∀ allowed, Directive.acceptKeywords entry allowed =
        match Atom.parse (String.ofList entry) with
        | .ok atom => Directive.ofAtom entry allowed atom
        | .error reason => .skip .acceptKeywords reason := by
  refine ⟨Shape.countP_le_one Shape.pairwise_readers, fun _ => Atom.parseWith_perm,
    fun cs shape => ⟨Shape.basic?_iff_read?, Shape.versioned?_iff_read?⟩,
    fun line entry text => ⟨(ruleText?_spec text).1, trim_splitKeywords text⟩, ?_⟩
  intro entry trimmed
  refine ⟨fun atom read => ?_, MaskRule.read_eq_ofAtom trimmed,
    Directive.acceptKeywords_eq_ofAtom trimmed⟩
  exact ⟨Atom.basic?_isSome_iff trimmed read, Atom.versioned?_iff trimmed read⟩

/-- The text of a line that asks for one version. -/
theorem routing_of_exact_line :
    Atom.parseWith Shape.readers.reverse "=app-misc/foo-1.0" = Atom.parse "=app-misc/foo-1.0" ∧
      MaskRule.read "=app-misc/foo-1.0".toList = .ok (.exact "app-misc/foo-1.0") ∧
      (MaskRule.ofAtom "=app-misc/foo-1.0".toList <$> Atom.parse "=app-misc/foo-1.0") =
        .ok (.exact "app-misc/foo-1.0") ∧
      ∃ atom version, Atom.parse "=app-misc/foo-1.0" = .ok atom ∧
        atom.constraint = .versioned .equal version := by
  obtain ⟨-, reordered, -, lines, kinds⟩ := routing_follows_kind
  have text : ruleText? "  =app-misc/foo-1.0 # old".toList = some "=app-misc/foo-1.0".toList := by
    decide +kernel
  have trimmed := (lines _ _ text).1
  obtain ⟨kind, sorted, -⟩ := kinds "=app-misc/foo-1.0".toList trimmed
  rw [String.ofList_toList] at kind sorted
  have exact : MaskRule.read "=app-misc/foo-1.0".toList = .ok (.exact "app-misc/foo-1.0") := by
    decide +kernel
  have direct := sorted.symm.trans exact
  refine ⟨reordered _ (List.reverse_perm _) _, exact, direct, ?_⟩
  cases read : Atom.parse "=app-misc/foo-1.0" with
  | error e =>
    rw [read] at direct
    cases direct
  | ok atom =>
    obtain ⟨version, same⟩ := ((kind atom read).2 .equal).1
      ⟨"app-misc".toList, "foo".toList, "1.0".toList, by decide +kernel⟩
    exact ⟨atom, version, rfl, same⟩

end Ebuild
