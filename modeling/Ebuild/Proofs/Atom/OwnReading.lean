import Ebuild.Proofs.Atom.Spelling
import Ebuild.Proofs.Glob.Expression
import Ebuild.Proofs.Version.Operator

/-!
# Atoms and their own reading

An expression taken literally, wildcards and all, is the text of a package. A glob spells its own
text, a slot pattern is cut where the slot of a package is cut, and a version satisfies the bounds
that it sets itself. `accepts_ownReading` puts this together: only strict bounds keep an atom from
accepting its own reading.
-/

namespace Ebuild
open Text

/-! ### Globs -/

namespace Glob

theorem spells_self {takes : Char → Prop} {cs : List Char} (taken : ∀ c ∈ cs, takes c) :
    Spells takes cs cs := by
  induction cs with
  | nil => exact spells_nil.2 rfl
  | cons c cs ih =>
    rw [List.forall_mem_cons] at taken
    have piece : Piece takes c [c] := by
      cases wild : isWildcard c with
      | false => exact .same wild
      | true =>
        rw [isWildcard, Bool.or_eq_true, beq_iff_eq, beq_iff_eq] at wild
        rcases wild with rfl | rfl
        · exact .run (by simpa using taken.1)
        · exact .one taken.1
    exact spells_cons.2 ⟨[c], cs, rfl, piece, ih taken.2⟩

section
variable [Glob.Engine] {text : List Char} (solid : ∀ c ∈ text, isBlank c = false)
include solid

theorem accepts_self {glob : Glob} (read : parse (String.ofList text) = .ok glob) :
    glob.accepts (String.ofList text) = true := by
  rw [(formOf_parse read).accepts_iff]
  refine spells_self fun c mem _ feed => ?_
  rw [String.toList_ofList] at mem
  have blank := solid c mem
  rw [feed] at blank
  revert blank
  decide

theorem MadeOf.accepts_self {glob : Option Glob} (madeOf : MadeOf glob text) :
    (glob.all fun g => g.accepts (String.ofList text)) = true ∧
      (glob.getD .any).accepts (String.ofList text) = true := by
  unfold MadeOf at madeOf
  split at madeOf
  · rw [madeOf]
    exact ⟨rfl, rfl⟩
  · obtain ⟨g, rfl, read⟩ := madeOf
    have self := Glob.accepts_self solid read
    exact ⟨self, self⟩

end

end Glob

/-! ### Slots -/

/-- A slot and a slot pattern of the same text are cut at the same slash. -/
theorem SlotPattern.MadeOf.accepts_withSlot [Glob.Engine] {s : SlotPattern} {text : List Char}
    (madeOf : s.MadeOf text) (solid : ∀ c ∈ text, isBlank c = false) (p : Package) :
    s.accepts (p.withSlot (String.ofList text)).slot
      (p.withSlot (String.ofList text)).subslot = true := by
  obtain ⟨⟨glob, slot, whole⟩, subslot⟩ := madeOf
  have parts := cut?_getD text
  have front : ∀ c ∈ slotPart text, isBlank c = false :=
    fun c mem => solid c (List.takeWhile_prefix _ |>.subset mem)
  have back : ∀ c ∈ subslotPart text, isBlank c = false :=
    fun c mem => solid c (List.dropWhile_suffix _ |>.subset (List.mem_of_mem_tail mem))
  rw [accepts, Bool.and_eq_true, whole]
  cases cut : Grammar.cut? '/' text with
  | some halves =>
    obtain ⟨a, b⟩ := halves
    rw [cut] at parts
    obtain ⟨rfl, rfl⟩ := Prod.mk.inj parts
    simp only [Package.withSlot, String.toList_ofList, cut]
    exact ⟨(slot.accepts_self front).2, (subslot.accepts_self back).1⟩
  | none =>
    rw [cut] at parts
    obtain ⟨same, none⟩ := Prod.mk.inj parts
    rw [← none] at subslot
    simp only [Package.withSlot, String.toList_ofList, cut]
    refine ⟨?_, ?_⟩
    · have self := (slot.accepts_self front).2
      rwa [← same] at self
    · rw [Glob.MadeOf, if_pos rfl] at subslot
      rw [subslot]
      rfl

theorem Package.names_withSlot (p : Package) (text : String) :
    (p.withSlot text).category = p.category ∧ (p.withSlot text).name = p.name ∧
      (p.withSlot text).version = p.version := by
  unfold withSlot
  split <;> exact ⟨rfl, rfl, rfl⟩

/-! ### Constraints -/

/-- The text of the slot, which may be empty in a qualified shape. -/
def Shape.slotText? : Shape → Option (List Char)
  | slotted _ _ slot | qualified _ _ _ _ slot _ => some slot
  | basic _ _ | versioned _ _ _ _ => none

namespace Constraint

/-- Apart from strict bounds, a package with the version and slot of a constraint satisfies it. -/
theorem accepts_iff_of_parts {c : Constraint} {p : Package}
    (version : ∀ v ∈ c.version?, p.version = v)
    (slot : ∀ s ∈ c.slot?, s.accepts p.slot p.subslot = true) :
    c.accepts p = true ↔ c.operator? ≠ some .less ∧ c.operator? ≠ some .greater := by
  cases c with
  | basic => simp [accepts, operator?]
  | versioned op v => simp [accepts, operator?, version v rfl, Version.accepts_self_iff]
  | slotted s => simp [accepts, operator?, slot s rfl]
  | qualified op v s repo =>
    simp [accepts, operator?, version v rfl, slot s rfl, Version.accepts_self_iff]

section
variable [Glob.Engine] {c : Constraint} {shape : Shape} (madeOf : c.MadeOf shape)
  (parts : shape.WellFormed)
include madeOf parts

theorem MadeOf.parse_version : ∀ v ∈ c.version?, Version.parse v.raw = v := by
  intro v mem
  have reads {text : List Char} (isVersion : Grammar.VersionText text)
      (raw : v.raw.toList = text) : Version.parse v.raw = v := by
    have read := (Atom.parse_eq_iff isVersion).2 raw
    rwa [← raw, String.ofList_toList] at read
  cases c with
  | basic | slotted s => cases mem
  | versioned op w =>
    cases mem
    cases shape with
    | versioned op' category name text => exact reads parts.2.2 madeOf.2
    | _ => cases madeOf
  | qualified op w s repo =>
    cases mem
    cases shape with
    | qualified op' category name text slot repository => exact reads parts.2.2.1 madeOf.2.1
    | _ => cases madeOf

theorem MadeOf.slotText : ∀ s ∈ c.slot?, ∃ text, shape.slotText? = some text ∧ s.MadeOf text ∧
    ∀ c ∈ text, isBlank c = false := by
  intro s mem
  cases c with
  | basic | versioned op v => cases mem
  | slotted t =>
    cases mem
    cases shape with
    | slotted category name slot =>
      exact ⟨slot, rfl, madeOf, fun c mem => Grammar.isBlank_of_isLabelChar (parts.2.2.2 c mem)⟩
    | _ => cases madeOf
  | qualified op v t repo =>
    cases mem
    cases shape with
    | qualified op' category name version slot repository =>
      exact ⟨slot, rfl, madeOf.2.2.1,
        fun c mem => Grammar.isBlank_of_isLabelChar (parts.2.2.2.1 c mem)⟩
    | _ => cases madeOf

theorem MadeOf.repo_accepts_self : ∀ repo ∈ c.repo?, repo.accepts repo.text = true := by
  intro repo mem
  cases c with
  | basic | versioned op v | slotted s => cases mem
  | qualified op v s r =>
    cases mem
    cases shape with
    | qualified op' category name version slot repository =>
      have made : Glob.MadeOf (some repo) repository := madeOf.2.2.2
      unfold Glob.MadeOf at made
      split at made
      · cases made
      · obtain ⟨_, same, read⟩ := made
        cases same
        rw [(Glob.parse_spec read).1]
        exact Glob.accepts_self
          (fun c mem => Grammar.isBlank_of_isLabelChar (parts.2.2.2.2 c mem)) read
    | _ => cases madeOf

end

end Constraint

/-! ### Atoms -/

namespace Atom

/-- The package with the texts of an atom as its parts, and with those of `p` where there are none.
The shape has the text of the slot. -/
def ownReading (atom : Atom) (shape : Shape) (p : Package) : Package :=
  let named := { p with
    category := atom.category.text
    name := atom.package.text
    version := (atom.constraint.version?.map fun v => Version.parse v.raw).getD p.version }
  shape.slotText?.elim named fun slot => named.withSlot (String.ofList slot)

theorem names_ownReading (atom : Atom) (shape : Shape) (p : Package) :
    (atom.ownReading shape p).category = atom.category.text ∧
      (atom.ownReading shape p).name = atom.package.text ∧
      (atom.ownReading shape p).version =
        (atom.constraint.version?.map fun v => Version.parse v.raw).getD p.version := by
  unfold ownReading
  cases shape.slotText? with
  | none => exact ⟨rfl, rfl, rfl⟩
  | some slot => exact Package.names_withSlot ..

section
variable [Glob.Engine] {atom : Atom} {shape : Shape} (madeOf : atom.MadeOf shape)
  (parts : shape.WellFormed)
include madeOf parts

theorem MadeOf.names_accept_self :
    atom.category.accepts atom.category.text = true ∧
      atom.package.accepts atom.package.text = true := by
  obtain ⟨isCategory, isName⟩ := Shape.isName_of_read? (Shape.read?_render parts)
  rw [(Glob.parse_spec madeOf.category).1, (Glob.parse_spec madeOf.package).1]
  exact ⟨Glob.accepts_self (Grammar.isBlank_of_isName isCategory) madeOf.category,
    Glob.accepts_self (Grammar.isBlank_of_isName isName) madeOf.package⟩

theorem MadeOf.constraint_accepts_iff (p : Package) :
    atom.constraint.accepts (atom.ownReading shape p) = true ↔
      atom.constraint.operator? ≠ some .less ∧ atom.constraint.operator? ≠ some .greater := by
  refine Constraint.accepts_iff_of_parts (fun v mem => ?_) fun s mem => ?_
  · rw [(names_ownReading atom shape p).2.2, Option.mem_def.1 mem]
    exact madeOf.constraint.parse_version parts v mem
  · obtain ⟨text, same, slot, solid⟩ := madeOf.constraint.slotText parts s mem
    rw [ownReading, same]
    exact slot.accepts_withSlot solid _

end

/-- An atom accepts its own reading unless its operator is a strict bound, and it accepts its own
repository. -/
theorem accepts_ownReading [Glob.Engine] {text : String} {atom : Atom}
    (read : parse text = .ok atom) :
    ∃ shape, Shape.read? (trim text.toList) = some shape ∧
      (∀ p, atom.acceptsPackage (atom.ownReading shape p) = true ↔
        atom.constraint.operator? ≠ some .less ∧ atom.constraint.operator? ≠ some .greater) ∧
      ∀ repo, atom.acceptsRepo ((atom.constraint.repo?.map Glob.text).getD repo) = true := by
  obtain ⟨shape, spells, madeOf⟩ := exists_spelling read
  refine ⟨shape, Shape.read?_eq_some_iff.2 spells, fun p => ?_, fun repo => ?_⟩
  · obtain ⟨category, name, -⟩ := names_ownReading atom shape p
    obtain ⟨ownCategory, ownName⟩ := madeOf.names_accept_self spells.1
    rw [acceptsPackage, category, name, ownCategory, ownName, Bool.true_and, Bool.true_and,
      Atom.accepts]
    exact madeOf.constraint_accepts_iff spells.1 p
  · have own := madeOf.constraint.repo_accepts_self spells.1
    rw [acceptsRepo]
    cases glob : atom.constraint.repo? with
    | none => rfl
    | some r => exact own r glob

/-- Wildcards in every part, stars at both ends of the version and nothing after the slash. -/
theorem accepts_ownReading_with_stars :
    let atom : Atom := ⟨"=dev-*/py?h*-*3.1*:3*/::g?ntoo", .stem "dev-", .pattern "py?h*",
      .qualified .equal ⟨"*3.1*"⟩ ⟨.stem "3", none⟩ (some (.pattern "g?ntoo"))⟩
    let p : Package :=
      { category := "dev-*", name := "py?h*", slot := "3*", subslot := "", version := ⟨"*3.1*"⟩ }
    parse "=dev-*/py?h*-*3.1*:3*/::g?ntoo" = .ok atom ∧ atom.acceptsPackage p = true ∧
      atom.acceptsRepo "g?ntoo" = true := by
  intro atom p
  have read : parse "=dev-*/py?h*-*3.1*:3*/::g?ntoo" = .ok atom := by decide +kernel
  obtain ⟨shape, spelled, package, repo⟩ := accepts_ownReading read
  have same : Shape.read? (trim "=dev-*/py?h*-*3.1*:3*/::g?ntoo".toList) = some (.qualified .equal
      "dev-*".toList "py?h*".toList "*3.1*".toList "3*/".toList "g?ntoo".toList) := by
    decide +kernel
  rw [same] at spelled
  cases spelled
  have own : atom.ownReading (.qualified .equal "dev-*".toList "py?h*".toList "*3.1*".toList
      "3*/".toList "g?ntoo".toList) p = p := by
    decide +kernel
  have accepted := package p
  rw [own] at accepted
  exact ⟨read, accepted.2 ⟨by decide, by decide⟩, repo "g?ntoo"⟩

end Atom

end Ebuild
