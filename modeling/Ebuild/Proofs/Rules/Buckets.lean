import Mathlib.Data.List.Basic
import Ebuild.Proofs.Atom.Literal
import Ebuild.Proofs.Rules.Loading
import Ebuild.Proofs.Version.Order

/-!
# Mask buckets and atoms

A mask entry is kept as a name, as a name with an exact version or as an atom. `hits_addText_iff`
says when the three together find the packages that the atoms of the entries accept: always, but
for exact entries that write the version of a package in another way.
-/

namespace Ebuild
open Text

/-- Reading the text of the package back gives its parts. -/
def Package.Readable (p : Package) : Prop :=
  Grammar.cpv? p.cpv.toList = some (p.category.toList, p.name.toList, p.version.raw.toList)

theorem Package.readable_of_parse {text : String} {p : Package}
    (parsed : Package.parse text = .ok p) : p.Readable := by
  obtain ⟨category, name, version, read, rfl⟩ := parse_eq_ok_iff.1 parsed
  obtain ⟨split, -, -, isVersion⟩ := Grammar.cpv?_eq_some read
  rw [split] at read
  simpa [Readable, cpv, cpn, ofParts, Grammar.parse_of_isVersion isVersion] using read

/-! ### Entries -/

/-- The entries of a rule text, one for each line with a rule. -/
def entries (text : String) : List (List Char) := (lines text.toList).filterMap ruleText?

theorem trim_of_mem_entries {text : String} {entry : List Char} (mem : entry ∈ entries text) :
    trim entry = entry := by
  obtain ⟨line, -, text⟩ := List.mem_filterMap.1 mem
  exact (ruleText?_spec text).1

section
variable [Glob.Engine]

def maskDirective (kind : MaskKind) (entry : List Char) : Directive :=
  match MaskRule.read entry with
  | .ok rule => .mask kind rule
  | .error reason => .skip (.masks kind) reason

theorem ofMaskLine_of_undashed {line entry : List Char} (kind : MaskKind)
    (text : ruleText? line = some entry) (undashed : entry.head? ≠ some '-') :
    Directive.ofMaskLine kind line = some (maskDirective kind entry) := by
  rw [Directive.ofMaskLine, text, Option.map_some]
  split
  · exact absurd rfl undashed
  · rfl

theorem mask_directives {text : String} (arch : String) (kind : MaskKind)
    (undashed : ∀ entry ∈ entries text, entry.head? ≠ some '-') :
    (Step.ofText (.masks kind) text).filterMap (Step.directive? arch) =
      (entries text).map (maskDirective kind) := by
  rw [Step.ofText, lineList, List.map_map, List.filterMap_map, entries, List.map_filterMap]
  refine List.filterMap_congr fun line mem => ?_
  simp only [Function.comp_apply, Step.directive?, Directive.ofLine, String.toList_ofList]
  cases entry : ruleText? line with
  | none => rw [Directive.ofMaskLine, entry]; rfl
  | some entry' =>
    have mem : entry' ∈ entries text := List.mem_filterMap.2 ⟨line, mem, entry⟩
    exact ofMaskLine_of_undashed kind entry (undashed entry' mem)

theorem maskDirective_eq_mask_iff {kind : MaskKind} {entry : List Char} {rule : MaskRule} :
    maskDirective kind entry = .mask kind rule ↔ MaskRule.read entry = .ok rule := by
  unfold maskDirective
  split <;> simp_all

theorem maskDirective_ne_dropMask (kind : MaskKind) (entry : List Char) (dropped : String) :
    maskDirective kind entry ≠ .dropMask dropped := by
  unfold maskDirective
  split <;> simp

/-- After a text without dashes, a rule from before names a package or the rule of an entry does. -/
theorem hits_addText {text : String} (loader : Loader) (kind : MaskKind) (p : Package)
    (undashed : ∀ entry ∈ entries text, entry.head? ≠ some '-') :
    (loader.addText (.masks kind) text).rules.hits kind p = true ↔
      loader.rules.hits kind p = true ∨
        ∃ entry ∈ entries text, ∃ rule, MaskRule.read entry = .ok rule ∧ rule.names p = true := by
  have kept : ∀ entry, .dropMask entry ∉ (entries text).map (maskDirective kind) := by
    intro dropped mem
    obtain ⟨entry, -, same⟩ := List.mem_map.1 mem
    exact maskDirective_ne_dropMask kind entry dropped same
  rw [Loader.addText, Loader.rules_run, mask_directives _ _ undashed,
    RuleSet.hits_foldl _ kept]
  refine or_congr_right ?_
  constructor
  · rintro ⟨d, mem, rule, rfl, names⟩
    obtain ⟨entry, mem, same⟩ := List.mem_map.1 mem
    exact ⟨entry, mem, rule, maskDirective_eq_mask_iff.1 same, names⟩
  · rintro ⟨entry, mem, rule, read, names⟩
    have same : maskDirective kind entry = .mask kind rule := maskDirective_eq_mask_iff.2 read
    exact ⟨_, List.mem_map.2 ⟨entry, mem, same⟩, rule, rfl, names⟩

/-! ### One entry -/

/-- Whether an exact entry writes a version otherwise than the package does. -/
def Respells (entry : List Char) (p : Package) : Prop :=
  entry.any Glob.isWildcard = false ∧ ∃ category name version,
    Shape.versioned? entry = some (.versioned .equal category name version) ∧
      String.ofList version ≠ p.version.raw

theorem names_asAtom_iff {entry : List Char} {p : Package} :
    (∃ rule, MaskRule.atom <$> Atom.parse (String.ofList entry) = .ok rule ∧
      rule.names p = true) ↔ Atom.Names (String.ofList entry) p := by
  rw [Atom.Names]
  cases Atom.parse (String.ofList entry) with
  | error reason =>
    constructor
    · rintro ⟨rule, read, -⟩
      cases read
    · rintro ⟨atom, read, -⟩
      cases read
  | ok atom =>
    constructor
    · rintro ⟨rule, read, names⟩
      cases read
      exact ⟨atom, rfl, names⟩
    · rintro ⟨atom, read, names⟩
      cases read
      exact ⟨.atom atom, rfl, names⟩

omit [Glob.Engine] in
/-- Reading an exact entry back gives the version as the entry writes it. -/
theorem cpv_eq_iff {category name version rest : List Char} {p : Package} (readable : p.Readable)
    (read : Grammar.cpv? rest = some (category, name, version)) :
    String.ofList (category ++ '/' :: name ++ '-' :: version) = p.cpv ↔
      String.ofList category = p.category ∧ String.ofList name = p.name ∧
        String.ofList version = p.version.raw := by
  obtain ⟨split, -⟩ := Grammar.cpv?_eq_some read
  constructor
  · intro same
    have whole : rest = p.cpv.toList := by
      rw [← same, split, String.toList_ofList, List.append_assoc]
      rfl
    rw [whole, readable] at read
    simp only [Option.some.injEq, Prod.mk.injEq] at read
    obtain ⟨rfl, rfl, rfl⟩ := read
    exact ⟨String.ofList_toList, String.ofList_toList, String.ofList_toList⟩
  · rintro ⟨category, name, version⟩
    rw [Package.cpv, Package.cpn, ← category, ← name, ← version]
    apply String.toList_inj.1
    simp

theorem names_exact_iff {entry category name version : List Char} {p : Package}
    (readable : p.Readable) (trimmed : trim entry = entry)
    (literal : entry.any Glob.isWildcard = false)
    (read : Shape.versioned? entry = some (.versioned .equal category name version)) :
    String.ofList (category ++ '/' :: name ++ '-' :: version) = p.cpv ↔
      Atom.Names (String.ofList entry) p ∧ ¬ Respells entry p := by
  obtain ⟨rest, -, parts⟩ := Shape.versioned?_eq_equal read
  obtain ⟨-, -, -, isVersion⟩ := Grammar.cpv?_eq_some parts
  rw [cpv_eq_iff readable parts, Atom.names_versioned_iff trimmed literal read]
  constructor
  · rintro ⟨category, name, spelled⟩
    have version : Version.parse (String.ofList version) = p.version := by
      rw [Grammar.parse_of_isVersion isVersion, spelled]
    refine ⟨⟨category, name, by rw [version, Version.compare_self]⟩, ?_⟩
    rintro ⟨-, _, _, _, again, respelled⟩
    rw [read] at again
    cases again
    exact respelled spelled
  · rintro ⟨⟨category, name, -⟩, faithful⟩
    refine ⟨category, name, ?_⟩
    by_contra respelled
    exact faithful ⟨literal, _, _, _, read, respelled⟩

/-- The rule of an entry names the packages that its atom accepts, but for other spellings. -/
theorem names_read_iff {entry : List Char} {p : Package} (readable : p.Readable)
    (trimmed : trim entry = entry) :
    (∃ rule, MaskRule.read entry = .ok rule ∧ rule.names p = true) ↔
      Atom.Names (String.ofList entry) p ∧ ¬ Respells entry p := by
  have named_by (rule : MaskRule) :
      (∃ rule', (.ok rule : Except Error MaskRule) = .ok rule' ∧ rule'.names p = true) ↔
        rule.names p = true := by
    constructor
    · rintro ⟨_, same, names⟩
      cases same
      exact names
    · exact fun names => ⟨rule, rfl, names⟩
  unfold MaskRule.read
  dsimp only
  split
  · rename_i wild
    have faithful : ¬ Respells entry p := fun respells => by simp [respells.1] at wild
    rw [names_asAtom_iff, and_iff_left faithful]
  · rename_i literal
    rw [Bool.not_eq_true] at literal
    split
    · rename_i basic
      have faithful : ¬ Respells entry p := by
        rintro ⟨-, _, _, _, read, -⟩
        rw [Shape.versioned?_of_basic basic] at read
        cases read
      rw [named_by, MaskRule.names, beq_iff_eq, and_iff_left faithful,
        Atom.names_basic_iff trimmed literal basic]
    · split
      · rename_i category name version read
        rw [named_by, MaskRule.names, beq_iff_eq, names_exact_iff readable trimmed literal read]
      · rename_i other
        have faithful : ¬ Respells entry p := by
          rintro ⟨-, category, name, version, read, -⟩
          exact other category name version read
        rw [names_asAtom_iff, and_iff_left faithful]

/-! ### A whole text -/

/-- A rule text names the packages that the atom of an entry accepts, the entry not being an exact
one that spells the version otherwise. -/
theorem hits_addText_iff (kind : MaskKind) (arch text cpv slot subslot keywords : String)
    (p : Package) (parsed : Package.parse cpv = .ok p)
    (undashed : ∀ entry ∈ entries text, entry.head? ≠ some '-') :
    (Loader.addText { arch } (.masks kind) text).rules.hits kind
        { p with slot, subslot, keywords } = true ↔
      ∃ entry ∈ entries text, Atom.Names (String.ofList entry) { p with slot, subslot, keywords } ∧
        ¬ Respells entry p := by
  have readable : Package.Readable { p with slot, subslot, keywords } :=
    show p.Readable from Package.readable_of_parse parsed
  have fresh : ({ arch } : Loader).rules.hits kind { p with slot, subslot, keywords } = false :=
    RuleSet.hits_empty kind _
  rw [hits_addText _ kind _ undashed, fresh]
  constructor
  · rintro (absent | ⟨entry, mem, found⟩)
    · cases absent
    · exact ⟨entry, mem, (names_read_iff readable (trim_of_mem_entries mem)).1 found⟩
  · rintro ⟨entry, mem, named⟩
    exact .inr ⟨entry, mem, (names_read_iff readable (trim_of_mem_entries mem)).2 named⟩

end

def sample (version : String) : Package := .ofParts "app-misc" "foo" version

theorem parse_exact_entry : Atom.parse "=app-misc/foo-1.0" = .ok ⟨"=app-misc/foo-1.0",
    .exact "app-misc", .exact "foo", .versioned .equal ⟨"1.0"⟩⟩ := by
  decide +kernel

theorem hits_addText_of_spelled :
    (Package.parse "app-misc/foo-1.0" = .ok (sample "1.0") ∧
      ∀ entry ∈ entries "=app-misc/foo-1.0\n", entry.head? ≠ some '-') ∧
      (Loader.addText { arch := "amd64" } (.masks .mask) "=app-misc/foo-1.0\n").rules.hits .mask
        { sample "1.0" with slot := "2", subslot := "", keywords := "amd64" } = true := by
  have parsed : Package.parse "app-misc/foo-1.0" = .ok (sample "1.0") := by decide +kernel
  have undashed : ∀ entry ∈ entries "=app-misc/foo-1.0\n", entry.head? ≠ some '-' := by
    decide +kernel
  have mem : "=app-misc/foo-1.0".toList ∈ entries "=app-misc/foo-1.0\n" := by decide +kernel
  have shape : Shape.versioned? "=app-misc/foo-1.0".toList =
      some (.versioned .equal "app-misc".toList "foo".toList "1.0".toList) := by decide +kernel
  have faithful : ¬ Respells "=app-misc/foo-1.0".toList (sample "1.0") := by
    rintro ⟨-, _, _, _, read, respelled⟩
    rw [shape] at read
    cases read
    exact respelled (by decide)
  have names := (hits_addText_iff .mask "amd64" "=app-misc/foo-1.0\n" "app-misc/foo-1.0" "2" ""
    "amd64" (sample "1.0") parsed undashed).2
  exact ⟨⟨parsed, undashed⟩, names ⟨_, mem, ⟨_, parse_exact_entry, by decide +kernel⟩, faithful⟩⟩

/-- An exact mask misses the version it means when that is written with a revision. -/
theorem exact_mask_misses_revision :
    entries "=app-misc/foo-1.0\n" = ["=app-misc/foo-1.0".toList] ∧
      Package.parse "app-misc/foo-1.0-r0" = .ok (sample "1.0-r0") ∧
      Atom.Names "=app-misc/foo-1.0" (sample "1.0-r0") ∧
      (Loader.addText { arch := "amd64" } (.masks .mask) "=app-misc/foo-1.0\n").rules.masks?
        (sample "1.0-r0") = false := by
  refine ⟨by decide +kernel, by decide +kernel, ?_, by decide +kernel⟩
  exact ⟨_, parse_exact_entry, by decide +kernel⟩

end Ebuild
