import Ebuild.Proofs.Atom.Parse
import Ebuild.Proofs.Atom.Readers

/-!
# Expressions and their parts

A shape is spelled by its parts with their separators between them, and by one or two colons before
a repository. `Shape.read?` reads exactly what is spelled, so every expression has its parts in one
way only, and `Atom.parse_spelled` says that an atom is made of the parts of its expression.
-/

namespace Ebuild
open Text

/-! ### White space around an expression -/

namespace Text

theorem isWordChar_of_isBlank {c : Char} (blank : isBlank c = true) : isWordChar c = false := by
  -- outside ASCII the blanks are few enough to look each of them up in the table
  have absent : ∀ n ∈ [0x85, 0xa0, 0x1680, 0x2028, 0x2029, 0x202f, 0x205f, 0x3000] ++
      List.range' 0x2000 11, (wordRanges.any fun range => range.1 ≤ n && n ≤ range.2) = false := by
    decide +kernel
  simp only [isBlank, Bool.or_eq_true, Bool.and_eq_true, decide_eq_true_eq, beq_iff_eq] at blank
  rw [isWordChar]
  split
  · rename_i ascii
    rw [asciiWord, Bool.or_eq_false_iff, beq_eq_false_iff_ne, Bool.eq_false_iff]
    refine ⟨fun alphanum => ?_, ?_⟩
    · have := Grammar.bounds_of_alphanum alphanum
      omega
    · rintro rfl
      revert blank
      decide
  · rename_i wide
    refine absent _ ?_
    simp only [List.mem_append, List.mem_cons, List.mem_range'_1, List.not_mem_nil, or_false]
    omega

theorem solid_of_all {cs : List Char} (all : cs.all (fun c => !isBlank c) = true) :
    ∀ c ∈ cs, isBlank c = false := by
  simpa using all

theorem trim_surrounded {before cs after : List Char} (start : ∀ c ∈ before, isBlank c = true)
    (solid : ∀ c ∈ cs, isBlank c = false) (stop : ∀ c ∈ after, isBlank c = true) :
    trim (before ++ cs ++ after) = cs := by
  rw [trim_append_blank _ stop, trim_blank_append _ start, trim_of_solid solid]

end Text

/-! ### Spelling a shape -/

namespace Grammar

theorem isLabel_iff {cs : List Char} :
    isLabel cs = true ↔ cs ≠ [] ∧ ∀ c ∈ cs, isLabelChar c = true := by
  simp [isLabel]

theorem isBlank_of_isLabelChar {c : Char} (label : isLabelChar c = true) : isBlank c = false := by
  rw [isLabelChar, Bool.and_eq_true, Bool.not_eq_true'] at label
  exact label.1

theorem isBlank_of_operator (operator : Operator) :
    ∀ c ∈ operator.text.toList, isBlank c = false :=
  solid_of_all (by cases operator <;> decide)

theorem isBlank_of_isName {name : List Char} (isName : isName name = true) :
    ∀ c ∈ name, isBlank c = false := by
  intro c mem
  have char := (isName_iff.1 isName).2 c mem
  rw [Bool.eq_false_iff]
  intro blank
  simp only [isNameChar, isWordChar_of_isBlank blank, Bool.false_or, Bool.or_eq_true,
    beq_iff_eq] at char
  rcases char with (((rfl | rfl) | rfl) | rfl) | rfl <;> revert blank <;> decide

theorem isBlank_of_cpv {category name version : List Char} (isCategory : isName category = true)
    (isName : isName name = true) (isVersion : isVersion version = true) :
    ∀ c ∈ category ++ '/' :: (name ++ '-' :: version), isBlank c = false := by
  simp only [List.forall_mem_append, List.forall_mem_cons]
  exact ⟨isBlank_of_isName isCategory, by decide, isBlank_of_isName isName, by decide,
    isBlank_of_isVersion isVersion⟩

end Grammar

namespace Shape
open Grammar

theorem render_versioned (operator : Operator) (category name version : List Char) :
    (versioned operator category name version).render =
      operator.text.toList ++ (category ++ '/' :: (name ++ '-' :: version)) := by
  simp [render]

def renderWith (mark : List Char) : Shape → List Char
  | qualified operator category name version slot repository =>
    (versioned operator category name version).render ++ ':' :: (slot ++
      if repository = [] then [] else mark ++ repository)
  | shape => shape.render

theorem renderWith_two_colons (shape : Shape) : shape.renderWith [':', ':'] = shape.render := by
  cases shape with
  | qualified operator category name version slot repository =>
    simp [renderWith, render]
  | _ => rfl

/-- Each part is a word of its own kind. Slot and repository of a qualified shape may be empty. -/
def WellFormed : Shape → Prop
  | basic category name => isName category = true ∧ isName name = true
  | versioned _ category name version =>
    isName category = true ∧ isName name = true ∧ VersionText version
  | slotted category name slot =>
    isName category = true ∧ isName name = true ∧ slot ≠ [] ∧ ∀ c ∈ slot, isLabelChar c = true
  | qualified _ category name version slot repository =>
    isName category = true ∧ isName name = true ∧ VersionText version ∧
      (∀ c ∈ slot, isLabelChar c = true) ∧ ∀ c ∈ repository, isLabelChar c = true

/-- Whether a text is an expression of the shape. -/
def Spells (shape : Shape) (cs : List Char) : Prop :=
  shape.WellFormed ∧ ∃ mark ∈ repositoryMarks, cs = shape.renderWith mark

theorem repository?_tail_iff {tail repository : List Char} :
    repository? tail = some repository ↔ (∀ c ∈ repository, isLabelChar c = true) ∧
      ∃ mark ∈ repositoryMarks,
        tail = if repository = [] then [] else mark ++ repository := by
  rw [repository?_eq_some_iff]
  by_cases absent : repository = []
  · subst absent
    have : ∃ mark, mark ∈ repositoryMarks := ⟨[':'], by decide⟩
    simp [isLabel, this]
  · simp [absent, isLabel_iff]

theorem read?_eq_some_iff {cs : List Char} {shape : Shape} :
    read? cs = some shape ↔ shape.Spells cs := by
  rw [read?_eq_some_iff_exists]
  simp only [readers, List.mem_cons, List.not_mem_nil, or_false, exists_eq_or_imp,
    exists_eq_left, versioned?_text_iff, basic?_eq_some_iff, slotted?_eq_some_iff,
    qualified?_text_iff, repository?_tail_iff, isVersion_iff, isLabel_iff]
  constructor
  · rintro (⟨operator, category, name, version, rfl, rfl, parts⟩ |
      ⟨category, name, rfl, rfl, parts⟩ |
      ⟨category, name, slot, rfl, rfl, parts⟩ |
      ⟨operator, category, name, version, slot, repository, tail, rfl, rfl, isCategory, isName,
        isVersion, label, isRepository, mark, mem, rfl⟩)
    · exact ⟨parts, [':'], by decide, rfl⟩
    · exact ⟨parts, [':'], by decide, rfl⟩
    · exact ⟨parts, [':'], by decide, rfl⟩
    · exact ⟨⟨isCategory, isName, isVersion, label, isRepository⟩, mark, mem, rfl⟩
  · rintro ⟨parts, mark, mem, rfl⟩
    cases shape with
    | versioned operator category name version =>
      exact .inl ⟨operator, category, name, version, rfl, rfl, parts⟩
    | basic category name => exact .inr (.inl ⟨category, name, rfl, rfl, parts⟩)
    | slotted category name slot =>
      exact .inr (.inr (.inl ⟨category, name, slot, rfl, rfl, parts⟩))
    | qualified operator category name version slot repository =>
      obtain ⟨isCategory, isName, isVersion, label, isRepository⟩ := parts
      exact .inr (.inr (.inr ⟨operator, category, name, version, slot, repository, _, rfl, rfl,
        isCategory, isName, isVersion, label, isRepository, mark, mem, rfl⟩))

theorem Spells.unique {shape other : Shape} {cs : List Char} (spells : shape.Spells cs)
    (otherwise : other.Spells cs) : other = shape := by
  have read := read?_eq_some_iff.2 spells
  rw [read?_eq_some_iff.2 otherwise] at read
  exact Option.some.inj read

/-- An expression that is put together from its parts is read as them. -/
theorem read?_render {shape : Shape} (parts : shape.WellFormed) :
    read? shape.render = some shape :=
  read?_eq_some_iff.2 ⟨parts, [':', ':'], by decide, (renderWith_two_colons shape).symm⟩

theorem isBlank_of_render_versioned {operator : Operator} {category name version : List Char}
    (isCategory : isName category = true) (isName : isName name = true)
    (isVersion : VersionText version) :
    ∀ c ∈ (versioned operator category name version).render, isBlank c = false := by
  rw [render_versioned, List.forall_mem_append]
  exact ⟨isBlank_of_operator operator,
    isBlank_of_cpv isCategory isName (isVersion_iff.2 isVersion)⟩

theorem isBlank_of_spells {shape : Shape} {cs : List Char} (spells : shape.Spells cs) :
    ∀ c ∈ cs, isBlank c = false := by
  obtain ⟨parts, mark, mem, rfl⟩ := spells
  cases shape with
  | basic category name =>
    simp only [renderWith, render, List.forall_mem_append, List.forall_mem_cons]
    exact ⟨isBlank_of_isName parts.1, by decide, isBlank_of_isName parts.2⟩
  | versioned operator category name version =>
    obtain ⟨isCategory, isName, isVersion⟩ := parts
    exact isBlank_of_render_versioned isCategory isName isVersion
  | slotted category name slot =>
    obtain ⟨isCategory, isName, -, label⟩ := parts
    simp only [renderWith, render, List.forall_mem_append, List.forall_mem_cons]
    exact ⟨⟨isBlank_of_isName isCategory, by decide, isBlank_of_isName isName⟩, by decide,
      fun c mem => isBlank_of_isLabelChar (label c mem)⟩
  | qualified operator category name version slot repository =>
    obtain ⟨isCategory, isName, isVersion, label, isRepository⟩ := parts
    have tail : ∀ c ∈ if repository = [] then [] else mark ++ repository, isBlank c = false := by
      split
      · simp
      · rw [List.forall_mem_append]
        refine ⟨?_, fun c mem => isBlank_of_isLabelChar (isRepository c mem)⟩
        rcases mem_repositoryMarks.1 mem with rfl | rfl <;> exact solid_of_all (by decide)
    rw [renderWith, List.forall_mem_append, List.forall_mem_cons, List.forall_mem_append]
    exact ⟨isBlank_of_render_versioned isCategory isName isVersion, by decide,
      fun c mem => isBlank_of_isLabelChar (label c mem), tail⟩

end Shape

/-! ### Atoms and their parts -/

/-- A glob read from a text that may be left out. -/
def Glob.MadeOf [Glob.Engine] (glob : Option Glob) (text : List Char) : Prop :=
  if text = [] then glob = none
  else ∃ g, glob = some g ∧ Glob.parse (String.ofList text) = .ok g

theorem Glob.exists_madeOf [Glob.Engine] {text : List Char}
    (compiled : ∃ glob, Glob.parse (String.ofList text) = .ok glob) :
    ∃ glob, Glob.MadeOf glob text := by
  by_cases empty : text = []
  · exact ⟨none, by simp [Glob.MadeOf, empty]⟩
  · obtain ⟨glob, read⟩ := compiled
    exact ⟨some glob, by simp [Glob.MadeOf, empty, read]⟩

theorem bind_eq_ok_iff {α β : Type} {x : Except Error α} {f : α → Except Error β} {b : β} :
    (x >>= f) = .ok b ↔ ∃ a, x = .ok a ∧ f a = .ok b := by
  cases x <;> simp [Bind.bind, Except.bind]

theorem map_eq_ok_iff {α β : Type} {x : Except Error α} {f : α → β} {b : β} :
    f <$> x = .ok b ↔ ∃ a, x = .ok a ∧ f a = b := by
  cases x <;> simp [Functor.map, Except.map]

theorem Atom.repoOf_eq_ok_iff [Glob.Engine] {text : List Char} {glob : Option Glob} :
    repoOf text = .ok glob ↔ Glob.MadeOf glob text := by
  unfold repoOf Glob.MadeOf
  by_cases empty : text = []
  · simp [empty, pure, Except.pure, eq_comm]
  · rw [if_neg (by simpa using empty), if_neg empty]
    cases Glob.parse (String.ofList text) <;> simp [Functor.map, Except.map, eq_comm]

namespace SlotPattern

def slotPart (text : List Char) : List Char := text.takeWhile (· != '/')

def subslotPart (text : List Char) : List Char := (text.dropWhile (· != '/')).tail

/-- Whether a pattern has the slot and subslot of a text. Every slot will do where none is given. -/
structure MadeOf [Glob.Engine] (p : SlotPattern) (text : List Char) : Prop where
  slot : ∃ glob, Glob.MadeOf glob (slotPart text) ∧ p.slot = glob.getD .any
  subslot : Glob.MadeOf p.subslot (subslotPart text)

theorem cut?_getD (text : List Char) :
    (Grammar.cut? '/' text).getD (text, []) = (slotPart text, subslotPart text) := by
  induction text with
  | nil => rfl
  | cons c text ih =>
    rw [Grammar.cut?]
    by_cases slash : c = '/'
    · simp [slash, slotPart, subslotPart]
    · have slot : slotPart (c :: text) = c :: slotPart text :=
        List.takeWhile_cons_of_pos (by simpa using slash)
      have subslot : subslotPart (c :: text) = subslotPart text := by
        rw [subslotPart, List.dropWhile_cons_of_pos (by simpa using slash), subslotPart]
      rw [if_neg slash, slot, subslot]
      cases cut : Grammar.cut? '/' text with
      | none =>
        rw [cut] at ih
        obtain ⟨front, back⟩ := Prod.mk.inj ih
        rw [← front, ← back]
        rfl
      | some parts =>
        rw [cut] at ih
        cases ih
        rfl

variable [Glob.Engine]

def slotOf (text : List Char) : Except Error Glob :=
  if text.isEmpty then pure .any else Glob.parse (String.ofList text)

theorem slotOf_eq_ok_iff {text : List Char} {glob : Glob} :
    slotOf text = .ok glob ↔ ∃ part, Glob.MadeOf part text ∧ glob = part.getD .any := by
  unfold slotOf Glob.MadeOf
  by_cases empty : text = []
  · simp [empty, pure, Except.pure, eq_comm]
  · simp only [List.isEmpty_iff, empty, if_false]
    constructor
    · intro read
      exact ⟨some glob, ⟨glob, rfl, read⟩, rfl⟩
    · rintro ⟨_, ⟨_, rfl, read⟩, rfl⟩
      exact read

theorem parse_eq_bind (text : List Char) :
    parse text = slotOf (slotPart text) >>= fun slot =>
      Atom.repoOf (subslotPart text) >>= fun subslot => pure { slot, subslot } := by
  rw [parse, cut?_getD]
  dsimp only [slotOf, Atom.repoOf]
  cases (slotPart text).isEmpty <;> cases (subslotPart text).isEmpty <;> rfl

theorem parse_eq_ok_iff {text : List Char} {p : SlotPattern} :
    parse text = .ok p ↔ p.MadeOf text := by
  rw [parse_eq_bind, bind_eq_ok_iff]
  simp only [bind_eq_ok_iff, slotOf_eq_ok_iff, Atom.repoOf_eq_ok_iff]
  constructor
  · rintro ⟨_, slot, _, subslot, same⟩
    cases same
    exact ⟨slot, subslot⟩
  · rintro ⟨slot, subslot⟩
    exact ⟨_, slot, _, subslot, rfl⟩

theorem exists_madeOf (text : List Char)
    (slot : ∃ glob, Glob.parse (String.ofList (slotPart text)) = .ok glob)
    (subslot : ∃ glob, Glob.parse (String.ofList (subslotPart text)) = .ok glob) :
    ∃ p : SlotPattern, p.MadeOf text := by
  obtain ⟨slot, madeOf⟩ := Glob.exists_madeOf slot
  obtain ⟨subslot, madeOf'⟩ := Glob.exists_madeOf subslot
  exact ⟨⟨slot.getD .any, subslot⟩, ⟨slot, madeOf, rfl⟩, madeOf'⟩

end SlotPattern

namespace Constraint

/-- Whether a constraint is of the kind of a shape, with its operator, version, slot and
repository. -/
def MadeOf [Glob.Engine] : Constraint → Shape → Prop
  | basic, .basic _ _ => True
  | versioned operator version, .versioned operator' _ _ text =>
    operator' = operator ∧ version.raw.toList = text
  | slotted slot, .slotted _ _ text => slot.MadeOf text
  | qualified operator version slot repo, .qualified operator' _ _ text slotText repository =>
    operator' = operator ∧ version.raw.toList = text ∧ slot.MadeOf slotText ∧
      Glob.MadeOf repo repository
  | _, _ => False

end Constraint

namespace Atom

theorem parse_eq_iff {version : List Char} (isVersion : Grammar.VersionText version) {v : Version} :
    Version.parse (String.ofList version) = v ↔ v.raw.toList = version := by
  obtain ⟨raw⟩ := v
  rw [Grammar.parse_of_isVersion (Grammar.isVersion_iff.2 isVersion), Version.mk.injEq,
    ← String.toList_inj, String.toList_ofList, eq_comm]

section
variable [Glob.Engine]

/-- Whether an atom has exactly the parts of a shape. -/
structure MadeOf (atom : Atom) (shape : Shape) : Prop where
  category : Glob.parse (String.ofList (namesOf shape).1) = .ok atom.category
  package : Glob.parse (String.ofList (namesOf shape).2) = .ok atom.package
  constraint : atom.constraint.MadeOf shape

theorem constraintOf_eq_ok_iff {shape : Shape} (parts : shape.WellFormed) {c : Constraint} :
    constraintOf shape = .ok c ↔ c.MadeOf shape := by
  cases shape with
  | basic category name =>
    cases c <;> simp [constraintOf, Constraint.MadeOf, pure, Except.pure]
  | versioned operator category name version =>
    cases c <;>
      simp [constraintOf, Constraint.MadeOf, pure, Except.pure, parse_eq_iff parts.2.2]
  | slotted category name slot =>
    rw [constraintOf, map_eq_ok_iff]
    cases c <;> simp [Constraint.MadeOf, SlotPattern.parse_eq_ok_iff]
  | qualified operator category name version slot repository =>
    have isVersion := parts.2.2.1
    simp only [constraintOf, bind_eq_ok_iff, SlotPattern.parse_eq_ok_iff, repoOf_eq_ok_iff]
    constructor
    · rintro ⟨slot, madeOf, repo, madeOf', same⟩
      cases same
      exact ⟨rfl, (parse_eq_iff isVersion).1 rfl, madeOf, madeOf'⟩
    · intro madeOf
      cases c with
      | qualified operator' v slot repo =>
        obtain ⟨rfl, raw, madeOf, madeOf'⟩ := madeOf
        refine ⟨slot, madeOf, repo, madeOf', ?_⟩
        rw [(parse_eq_iff isVersion).2 raw]
        rfl
      | _ => cases madeOf

def globTexts (shape : Shape) : List (List Char) :=
  (namesOf shape).1 :: (namesOf shape).2 :: match shape with
    | .slotted _ _ slot => [SlotPattern.slotPart slot, SlotPattern.subslotPart slot]
    | .qualified _ _ _ _ slot repository =>
      [SlotPattern.slotPart slot, SlotPattern.subslotPart slot, repository]
    | _ => []

section
variable {shape : Shape} (parts : shape.WellFormed)
  (compiled : ∀ text ∈ globTexts shape, ∃ glob, Glob.parse (String.ofList text) = .ok glob)
include parts compiled

theorem exists_constraint_madeOf : ∃ c : Constraint, c.MadeOf shape := by
  cases shape with
  | basic category name => exact ⟨.basic, trivial⟩
  | versioned operator category name version =>
    exact ⟨.versioned operator _, rfl, (parse_eq_iff parts.2.2).1 rfl⟩
  | slotted category name slot =>
    obtain ⟨p, madeOf⟩ := SlotPattern.exists_madeOf slot (compiled _ (by simp [globTexts]))
      (compiled _ (by simp [globTexts]))
    exact ⟨.slotted p, madeOf⟩
  | qualified operator category name version slot repository =>
    obtain ⟨p, madeOf⟩ := SlotPattern.exists_madeOf slot (compiled _ (by simp [globTexts]))
      (compiled _ (by simp [globTexts]))
    obtain ⟨repo, madeOf'⟩ := Glob.exists_madeOf (compiled repository (by simp [globTexts]))
    exact ⟨.qualified operator _ p repo, rfl, (parse_eq_iff parts.2.2.1).1 rfl, madeOf, madeOf'⟩

theorem exists_madeOf (expression : String) :
    ∃ atom, ofShape expression shape = .ok atom ∧ atom.expression = expression ∧
      atom.MadeOf shape := by
  obtain ⟨category, readCategory⟩ := compiled _ (List.mem_cons_self ..)
  obtain ⟨package, readPackage⟩ := compiled _ (List.mem_cons_of_mem _ (List.mem_cons_self ..))
  obtain ⟨c, madeOf⟩ := exists_constraint_madeOf parts compiled
  exact ⟨⟨expression, category, package, c⟩, ofShape_eq_ok_iff.2 ⟨rfl, readCategory, readPackage,
    (constraintOf_eq_ok_iff parts).2 madeOf⟩, rfl, readCategory, readPackage, madeOf⟩

end

theorem exists_spelling {text : String} {atom : Atom} (read : parse text = .ok atom) :
    ∃ shape : Shape, shape.Spells (trim text.toList) ∧ atom.MadeOf shape := by
  obtain ⟨shape, spells, made⟩ := parse_eq_ok_iff.1 read
  rw [Text.trimmed, String.toList_ofList, Shape.read?_eq_some_iff] at spells
  obtain ⟨-, category, package, constraint⟩ := ofShape_eq_ok_iff.1 made
  exact ⟨shape, spells, category, package, (constraintOf_eq_ok_iff spells.1).1 constraint⟩

/-- An expression with white space around it is read as an atom of exactly its parts, and every
atom that is read has the parts of its expression, which has no other ones. -/
theorem parse_spelled :
    (∀ (shape : Shape) (before cs after : List Char), shape.Spells cs →
      (∀ c ∈ before, isBlank c = true) → (∀ c ∈ after, isBlank c = true) →
      (∀ text ∈ globTexts shape, ∃ glob, Glob.parse (String.ofList text) = .ok glob) →
      ∃ atom, parse (String.ofList (before ++ cs ++ after)) = .ok atom ∧
        atom.expression = String.ofList cs ∧ atom.MadeOf shape) ∧
    ∀ (text : String) (atom : Atom), parse text = .ok atom →
      ∃ shape : Shape, shape.Spells (trim text.toList) ∧ atom.MadeOf shape ∧
        ∀ other : Shape, other.Spells (trim text.toList) → other = shape := by
  refine ⟨?_, ?_⟩
  · intro shape before cs after spells start stop compiled
    have trimmed : Text.trimmed (String.ofList (before ++ cs ++ after)) = String.ofList cs := by
      rw [Text.trimmed, String.toList_ofList, trim_surrounded start (Shape.isBlank_of_spells spells)
        stop]
    obtain ⟨atom, made, expression, madeOf⟩ := exists_madeOf spells.1 compiled (String.ofList cs)
    refine ⟨atom, parse_eq_ok_iff.2 ⟨shape, ?_, ?_⟩, expression, madeOf⟩
    · rw [trimmed, String.toList_ofList, Shape.read?_eq_some_iff]
      exact spells
    · rw [trimmed, made]
  · intro text atom read
    obtain ⟨shape, spells, madeOf⟩ := exists_spelling read
    exact ⟨shape, spells, madeOf, fun other otherwise => spells.unique otherwise⟩

end

/-- A qualified expression with a single colon before its repository. -/
theorem parse_spelled_python :
    let shape := Shape.qualified .greaterEqual "dev-lang".toList "py*".toList "3.10-r1".toList
      "3/3.10".toList "gentoo".toList
    shape.Spells ">=dev-lang/py*-3.10-r1:3/3.10:gentoo".toList ∧
      ∃ atom, parse "\t>=dev-lang/py*-3.10-r1:3/3.10:gentoo \n" = .ok atom ∧ atom.MadeOf shape ∧
        ∀ other : Shape, other.Spells ">=dev-lang/py*-3.10-r1:3/3.10:gentoo".toList →
          other = shape := by
  intro shape
  have spells : shape.Spells ">=dev-lang/py*-3.10-r1:3/3.10:gentoo".toList :=
    ⟨⟨by decide +kernel, by decide +kernel, Grammar.isVersion_iff.1 (by decide +kernel),
      List.all_eq_true.1 (by decide +kernel), List.all_eq_true.1 (by decide +kernel)⟩,
      [':'], by decide, by decide +kernel⟩
  have compiled : ∀ text ∈ globTexts shape, ∃ glob, Glob.parse (String.ofList text) = .ok glob := by
    intro text mem
    simp only [globTexts, namesOf, shape, List.mem_cons, List.not_mem_nil, or_false] at mem
    rcases mem with rfl | rfl | rfl | rfl | rfl <;> exact ⟨_, rfl⟩
  obtain ⟨atom, read, -, madeOf⟩ := parse_spelled.1 shape ['\t'] _ [' ', '\n'] spells
    (List.all_eq_true.1 (by decide)) (List.all_eq_true.1 (by decide)) compiled
  obtain ⟨found, -, -, only⟩ :=
    parse_spelled.2 "\t>=dev-lang/py*-3.10-r1:3/3.10:gentoo \n" atom read
  have trimmed : trim "\t>=dev-lang/py*-3.10-r1:3/3.10:gentoo \n".toList =
      ">=dev-lang/py*-3.10-r1:3/3.10:gentoo".toList := by
    decide +kernel
  rw [trimmed] at only
  exact ⟨spells, atom, read, madeOf, fun other otherwise =>
    (only other otherwise).trans (only shape spells).symm⟩

end Atom

end Ebuild
