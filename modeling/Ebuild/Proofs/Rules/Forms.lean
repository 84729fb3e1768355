import Ebuild.Profile
import Ebuild.Proofs.Rules.Routing

/-!
# The forms of rules

Each collection of a rule set holds rules of its own form: names, names with an exact version, or
atoms that neither could stand for. The queries rely on that, since they look names up by the text
of a package. `RuleSet.WellFormed` is the invariant, and `loading_keeps_forms` says that it holds
whatever is loaded.
-/

namespace Ebuild
open Text

/-! ### One rule -/

structure IsPlainName (text : List Char) : Prop where
  literal : text.any Glob.isWildcard = false
  basic : (Shape.basic? text).isSome = true
  undashed : text.head? ≠ some '-'

structure IsExactName (text : List Char) : Prop where
  literal : text.any Glob.isWildcard = false
  versioned : ∃ category name version,
    Shape.versioned? ('=' :: text) = some (.versioned .equal category name version)

structure IsWordRow (text : String) : Prop where
  nonempty : text ≠ ""
  joined : " ".intercalate (wordList text) = text

/-- Whether an atom is written without wildcards. -/
def Atom.Literal (a : Atom) : Prop := a.expression.toList.any Glob.isWildcard = false

namespace MaskRule

def WellFormed : MaskRule → Prop
  | plain cpn => IsPlainName cpn.toList
  | exact cpv => IsExactName cpv.toList
  | atom a => a.Literal →
    a.constraint ≠ .basic ∧ ∀ version, a.constraint ≠ .versioned .equal version

end MaskRule

namespace Directive

def WellFormed : Directive → Prop
  | mask _ rule => rule.WellFormed
  | acceptPlain rule => IsPlainName rule.subject.toList ∧ IsWordRow rule.allowed
  | acceptAtom rule =>
    (rule.subject.Literal → rule.subject.constraint ≠ .basic) ∧ IsWordRow rule.allowed
  | acceptAll allowed => IsWordRow allowed
  | dropMask _ | skip _ _ => True

end Directive

theorem IsWordRow.wordList_ne_nil {text : String} (row : IsWordRow text) : wordList text ≠ [] := by
  intro none
  have joined := row.joined
  rw [none] at joined
  exact row.nonempty joined.symm

theorem isWordRow_intercalate {ws : List String} (solid : ∀ word ∈ ws, Solid word.toList)
    (nonempty : ws ≠ []) : IsWordRow (" ".intercalate ws) := by
  have read := wordList_intercalate solid
  refine ⟨?_, congrArg (" ".intercalate ·) read⟩
  intro empty
  rw [empty] at read
  exact nonempty read.symm

/-! ### One line -/

theorem Atom.expression_of_parse [Glob.Engine] {entry : List Char} {a : Atom}
    (trimmed : trim entry = entry)
    (read : Atom.parse (String.ofList entry) = .ok a) : a.expression.toList = entry := by
  obtain ⟨shape, -, made⟩ := Atom.parse_eq_ok_iff.1 read
  rw [← (Atom.ofShape_eq_ok_iff.1 made).1, trimmed_eq_self trimmed, String.toList_ofList]

section
variable [Glob.Engine] {entry : List Char} (trimmed : trim entry = entry)
  (undashed : entry.head? ≠ some '-')
include trimmed undashed

theorem MaskRule.wellFormed_read {rule : MaskRule} (read : MaskRule.read entry = .ok rule) :
    rule.WellFormed := by
  unfold MaskRule.read at read
  dsimp only at read
  split at read
  · rename_i wild
    obtain ⟨a, parsed, rfl⟩ := map_eq_ok_iff.1 read
    intro literal
    rw [Atom.Literal, Atom.expression_of_parse trimmed parsed, wild] at literal
    cases literal
  · rename_i literal
    rw [Bool.not_eq_true] at literal
    split at read
    · rename_i basic
      cases read
      rw [WellFormed, String.toList_ofList]
      exact ⟨literal, basic, undashed⟩
    · rename_i notBasic
      split at read
      · rename_i category name version exact
        cases read
        obtain ⟨rest, rfl, parts⟩ := Shape.versioned?_eq_equal exact
        obtain ⟨rfl, -⟩ := Grammar.cpv?_eq_some parts
        rw [List.any_cons, Bool.or_eq_false_iff] at literal
        rw [WellFormed, String.toList_ofList, List.append_assoc, List.cons_append]
        exact ⟨literal.2, category, name, version, exact⟩
      · rename_i notExact
        obtain ⟨a, parsed, rfl⟩ := map_eq_ok_iff.1 read
        intro _
        refine ⟨fun basic => notBasic ((Atom.basic?_isSome_iff trimmed parsed).2 basic), ?_⟩
        intro version kind
        obtain ⟨category, name, text, exact⟩ :=
          (Atom.versioned?_iff trimmed parsed .equal).2 ⟨version, kind⟩
        exact notExact category name text exact

theorem Directive.wellFormed_acceptKeywords {allowed : String} (row : IsWordRow allowed) :
    (Directive.acceptKeywords entry allowed).WellFormed := by
  unfold Directive.acceptKeywords
  split
  · rename_i plain
    rw [Bool.and_eq_true, Bool.not_eq_true'] at plain
    rw [WellFormed, String.toList_ofList]
    exact ⟨⟨plain.1, plain.2, undashed⟩, row⟩
  · rename_i notPlain
    split
    · rename_i a parsed
      refine ⟨fun literal basic => notPlain ?_, row⟩
      rw [Atom.Literal, Atom.expression_of_parse trimmed parsed] at literal
      rw [literal, (Atom.basic?_isSome_iff trimmed parsed).2 basic]
      rfl
    · trivial

end

namespace Directive

theorem wellFormed_ofMaskLine [Glob.Engine] {kind : MaskKind} {line : List Char} {d : Directive}
    (read : ofMaskLine kind line = some d) : d.WellFormed := by
  cases text : ruleText? line with
  | none => simp [ofMaskLine, text] at read
  | some entry =>
    by_cases dash : entry.head? = some '-'
    · obtain ⟨rest, rfl⟩ := List.head?_eq_some_iff.1 dash
      rw [ofMaskLine, text] at read
      cases read
      trivial
    · rw [ofMaskLine, text, Option.map_some, Option.some.injEq] at read
      split at read
      · exact absurd rfl dash
      · split at read
        · rename_i rule asRule
          cases read
          exact MaskRule.wellFormed_read (ruleText?_spec text).1 dash asRule
        · cases read
          trivial

theorem wellFormed_ofKeywordLine [Glob.Engine] {arch : String}
    (narrow : ∀ c ∈ arch.toList, isBlank c = false)
    {line : List Char} {d : Directive} (read : ofKeywordLine arch line = some d) :
    d.WellFormed := by
  cases text : ruleText? line with
  | none => simp [ofKeywordLine, text] at read
  | some entry =>
    obtain ⟨subject, ws, cut, solid, -, split⟩ := splitKeywords_spec arch text
    have wsSolid : ∀ w ∈ ws, Solid w := by
      intro w mem
      exact solid_of_mem_words w (by rw [cut]; exact List.mem_cons_of_mem _ mem)
    have row :=
      isWordRow_intercalate (solid_keywordWords narrow wsSolid) (keywordWords_ne_nil arch ws)
    rw [intercalate_keywordWords] at row
    rw [ofKeywordLine_eq text split, Option.some.injEq] at read
    split at read
    · cases read
      trivial
    · rename_i undashed
      cases read
      exact wellFormed_acceptKeywords (trim_of_solid solid.2) undashed row

theorem wellFormed_ofKeywords {ws : List String} (solid : ∀ word ∈ ws, Solid word.toList)
    {d : Directive} (read : ofKeywords ws = some d) : d.WellFormed := by
  unfold ofKeywords at read
  split at read
  · cases read
  · rename_i nonempty
    cases read
    exact isWordRow_intercalate solid (by simpa using nonempty)

end Directive

/-! ### All rules -/

structure MaskRules.WellFormed (rules : MaskRules) : Prop where
  plain : ∀ cpn ∈ rules.plain, (MaskRule.plain cpn).WellFormed
  exact : ∀ cpv ∈ rules.exact, (MaskRule.exact cpv).WellFormed
  atoms : ∀ atom ∈ rules.atoms, (MaskRule.atom atom).WellFormed

theorem MaskRules.WellFormed.add {rules : MaskRules} (inv : rules.WellFormed) {rule : MaskRule}
    (form : rule.WellFormed) : (rules.add rule).WellFormed := by
  cases rule with
  | plain cpn =>
    refine { inv with plain := fun other mem => ?_ }
    rcases List.mem_insert_iff.1 mem with rfl | mem
    · exact form
    · exact inv.plain other mem
  | exact cpv =>
    refine { inv with exact := fun other mem => ?_ }
    rcases List.mem_insert_iff.1 mem with rfl | mem
    · exact form
    · exact inv.exact other mem
  | atom a => exact { inv with atoms := Array.forall_mem_push.2 ⟨form, inv.atoms⟩ }

namespace RuleSet

structure WellFormed (rules : RuleSet) : Prop where
  masks : rules.masks.WellFormed
  unmasks : rules.unmasks.WellFormed
  keywords : ∀ rule ∈ rules.keywords, (Directive.acceptPlain rule).WellFormed
  atomKeywords : ∀ rule ∈ rules.atomKeywords, (Directive.acceptAtom rule).WellFormed

theorem wellFormed_empty : empty.WellFormed := by
  have none : ({} : MaskRules).WellFormed := by
    constructor <;> simp
  refine ⟨none, none, ?_, ?_⟩ <;> simp [empty]

theorem WellFormed.apply {rules : RuleSet} (inv : rules.WellFormed) {d : Directive}
    (form : d.WellFormed) : (rules.apply d).WellFormed := by
  cases d with
  | mask kind rule =>
    cases kind with
    | mask => exact { inv with masks := inv.masks.add form }
    | unmask => exact { inv with unmasks := inv.unmasks.add form }
  | dropMask entry =>
    have plain : ∀ cpn ∈ rules.masks.plain.erase entry, (MaskRule.plain cpn).WellFormed :=
      fun cpn mem => inv.masks.plain cpn (List.mem_of_mem_erase mem)
    exact { inv with masks := { inv.masks with plain } }
  | acceptPlain rule =>
    exact { inv with keywords := Array.forall_mem_push.2 ⟨form, inv.keywords⟩ }
  | acceptAtom rule =>
    exact { inv with atomKeywords := Array.forall_mem_push.2 ⟨form, inv.atomKeywords⟩ }
  | acceptAll allowed =>
    have wild : ¬ everyPackage.Literal := by
      rw [Atom.Literal]
      decide
    have form : (Directive.acceptAtom ⟨everyPackage, allowed⟩).WellFormed :=
      ⟨fun literal => absurd literal wild, form⟩
    exact { inv with atomKeywords := Array.forall_mem_push.2 ⟨form, inv.atomKeywords⟩ }
  | skip file reason => exact inv

end RuleSet

/-! ### Loading -/

/-- Whether the words of a step that accepts keywords for every package are words. -/
def Step.WellFormed : Step → Prop
  | acceptAll words => ∀ word ∈ words, Solid word.toList
  | note _ | line _ _ => True

theorem Step.wellFormed_directive [Glob.Engine] {arch : String}
    (narrow : ∀ c ∈ arch.toList, isBlank c = false)
    {s : Step} (form : s.WellFormed) {d : Directive} (read : s.directive? arch = some d) :
    d.WellFormed := by
  cases s with
  | note event => cases read
  | line file text =>
    cases file with
    | masks kind => exact Directive.wellFormed_ofMaskLine read
    | acceptKeywords => exact Directive.wellFormed_ofKeywordLine narrow read
  | acceptAll words => exact Directive.wellFormed_ofKeywords form read

namespace FileTree

variable (t : FileTree)

theorem wellFormed_of_mem_ruleSteps {file : RuleFile} {path : String} {s : Step}
    (mem : s ∈ t.ruleSteps file path) : s.WellFormed := by
  simp only [ruleSteps, List.mem_append, List.mem_map, List.mem_flatMap, List.mem_cons,
    Step.ofText] at mem
  rcases mem with ⟨event, -, rfl⟩ | ⟨text, -, rfl | ⟨line, -, rfl⟩⟩ <;> trivial

theorem wellFormed_of_mem_profileSteps {folder : String} {s : Step}
    (mem : s ∈ t.profileSteps folder) : s.WellFormed := by
  simp only [profileSteps, List.mem_cons, List.mem_append] at mem
  rcases mem with rfl | (mem | mem) | mem
  · trivial
  all_goals exact t.wellFormed_of_mem_ruleSteps mem

theorem wellFormed_of_mem_traverse (visited : List Place) (todo : List String) :
    ∀ s ∈ (t.traverse visited todo).steps, s.WellFormed := by
  fun_induction traverse t visited todo with
  | case1 => simp
  | case2 visited path rest reason nowhere ih =>
    exact List.forall_mem_cons.2 ⟨trivial, ih⟩
  | case3 visited path rest spot found old ih =>
    exact List.forall_mem_cons.2 ⟨trivial, ih⟩
  | case4 visited path rest spot found new _ folder ih =>
    refine List.forall_mem_append.2 ⟨?_, ih⟩
    exact fun s => t.wellFormed_of_mem_profileSteps

end FileTree

namespace Loader

inductive Operation
  | addLine (file : RuleFile) (line : String)
  | addText (file : RuleFile) (text : String)
  | addFile (t : FileTree) (file : RuleFile) (path : String)
  | addProfile (t : FileTree) (path : String)
  | acceptAll (words : List String)

namespace Operation

variable [Glob.Engine]

def apply (loader : Loader) : Operation → Loader
  | addLine file line => loader.addLine file line
  | addText file text => loader.addText file text
  | addFile t file path => loader.addFile t file path
  | addProfile t path => loader.addProfile t path
  | acceptAll words => loader.acceptAll words

def steps (loader : Loader) : Operation → List Step
  | addLine file line => [.line file line]
  | addText file text => Step.ofText file text
  | addFile t file path => t.ruleSteps file path
  | addProfile t path => (t.traverse loader.visited [path]).steps
  | acceptAll words => [.acceptAll words]

theorem apply_eq_run (loader : Loader) (op : Operation) :
    (op.apply loader).arch = loader.arch ∧
      (op.apply loader).rules = (loader.run (op.steps loader)).rules := by
  rw [← arch_run loader (op.steps loader)]
  cases op <;> exact ⟨rfl, rfl⟩

end Operation

def perform [Glob.Engine] (loader : Loader) (ops : List Operation) : Loader :=
  ops.foldl Operation.apply loader

section
variable [Glob.Engine] {loader : Loader} (narrow : ∀ c ∈ loader.arch.toList, isBlank c = false)
  (inv : loader.rules.WellFormed)
include narrow inv

theorem wellFormed_step {s : Step} (form : s.WellFormed) : (loader.step s).rules.WellFormed := by
  rw [(loader.step_spec s).2]
  cases read : s.directive? loader.arch with
  | none => exact inv
  | some d => exact inv.apply (Step.wellFormed_directive narrow form read)

theorem wellFormed_run {steps : List Step} (forms : ∀ s ∈ steps, s.WellFormed) :
    (loader.run steps).rules.WellFormed := by
  induction steps generalizing loader with
  | nil => exact inv
  | cons s steps ih =>
    rw [List.forall_mem_cons] at forms
    have arch := (loader.step_spec s).1
    exact ih (by rwa [arch]) (wellFormed_step narrow inv forms.1) forms.2

theorem wellFormed_apply {op : Operation}
    (words : ∀ ws, op = .acceptAll ws → ∀ word ∈ ws, Solid word.toList) :
    (op.apply loader).rules.WellFormed := by
  rw [(op.apply_eq_run loader).2]
  refine wellFormed_run narrow inv ?_
  cases op with
  | addLine file line => exact List.forall_mem_singleton.2 trivial
  | addText file text =>
    intro s mem
    obtain ⟨line, -, rfl⟩ := List.mem_map.1 mem
    trivial
  | addFile t file path => exact fun s => t.wellFormed_of_mem_ruleSteps
  | addProfile t path => exact t.wellFormed_of_mem_traverse _ _
  | acceptAll ws => exact List.forall_mem_singleton.2 (words ws rfl)

theorem wellFormed_perform {ops : List Operation}
    (words : ∀ ws, .acceptAll ws ∈ ops → ∀ word ∈ ws, Solid word.toList) :
    (loader.perform ops).rules.WellFormed := by
  induction ops generalizing loader with
  | nil => exact inv
  | cons op ops ih =>
    have arch := (op.apply_eq_run loader).1
    have first : (op.apply loader).rules.WellFormed := by
      refine wellFormed_apply narrow inv fun ws same => words ws ?_
      rw [same]
      exact List.mem_cons_self ..
    exact ih (by rwa [arch]) first fun ws mem => words ws (List.mem_cons_of_mem op mem)

end

end Loader

/-- Whatever a loader is asked to do, in whatever order, each collection of its rules holds rules of
one form, and the words of every rule that accepts keywords are there to be read. -/
theorem loading_keeps_forms [Glob.Engine] {arch : String}
    (narrow : ∀ c ∈ arch.toList, isBlank c = false)
    (ops : List Loader.Operation)
    (words : ∀ ws, .acceptAll ws ∈ ops → ∀ word ∈ ws, Solid word.toList) :
    let rules := (Loader.perform { arch } ops).rules
    (∀ masks ∈ [rules.masks, rules.unmasks],
      (∀ cpn ∈ masks.plain, IsPlainName cpn.toList) ∧
      (∀ cpv ∈ masks.exact, IsExactName cpv.toList) ∧
      ∀ atom ∈ masks.atoms, atom.Literal →
        atom.constraint ≠ .basic ∧ ∀ version, atom.constraint ≠ .versioned .equal version) ∧
    (∀ rule ∈ rules.keywords, IsPlainName rule.subject.toList ∧
      IsWordRow rule.allowed ∧ wordList rule.allowed ≠ []) ∧
    ∀ rule ∈ rules.atomKeywords, (rule.subject.Literal → rule.subject.constraint ≠ .basic) ∧
      IsWordRow rule.allowed ∧ wordList rule.allowed ≠ [] := by
  intro rules
  have inv : rules.WellFormed :=
    Loader.wellFormed_perform narrow RuleSet.wellFormed_empty words
  refine ⟨?_, fun rule mem => ?_, fun rule mem => ?_⟩
  · simp only [List.forall_mem_cons, List.not_mem_nil, false_imp_iff, implies_true, and_true]
    exact ⟨⟨inv.masks.plain, inv.masks.exact, inv.masks.atoms⟩,
      inv.unmasks.plain, inv.unmasks.exact, inv.unmasks.atoms⟩
  · obtain ⟨name, row⟩ := inv.keywords rule mem
    exact ⟨name, row, row.wordList_ne_nil⟩
  · obtain ⟨form, row⟩ := inv.atomKeywords rule mem
    exact ⟨form, row, row.wordList_ne_nil⟩

theorem loading_keeps_forms_of_some_rules :
    let ops : List Loader.Operation :=
      [.addText (.masks .mask) "=app-misc/foo-1.0 # old\n-app-misc/bar",
        .addLine .acceptKeywords "app-misc/f*  ~x86\tarm", .acceptAll ["**"]]
    let rules := (Loader.perform { arch := "amd64" } ops).rules
    (∀ c ∈ "amd64".toList, isBlank c = false) ∧
      (∀ ws, .acceptAll ws ∈ ops → ∀ word ∈ ws, Solid word.toList) ∧
      rules.masks.exact = ["app-misc/foo-1.0"] ∧ IsExactName "app-misc/foo-1.0".toList ∧
      rules.atomKeywords.toList.map (·.allowed) = ["~x86 arm", "**"] ∧
      ∀ rule ∈ rules.atomKeywords, IsWordRow rule.allowed := by
  intro ops rules
  have narrow : ∀ c ∈ "amd64".toList, isBlank c = false :=
    solid_of_all (by decide +kernel)
  have words : ∀ ws, .acceptAll ws ∈ ops → ∀ word ∈ ws, Solid word.toList := by
    intro ws mem word inWords
    simp only [ops, List.mem_cons, List.not_mem_nil, or_false, reduceCtorEq, false_or,
      Loader.Operation.acceptAll.injEq] at mem
    rw [mem, List.mem_singleton] at inWords
    rw [inWords]
    exact ⟨by decide, solid_of_all (by decide +kernel)⟩
  obtain ⟨masks, -, keywords⟩ := loading_keeps_forms narrow ops words
  have exact : rules.masks.exact = ["app-misc/foo-1.0"] := by decide +kernel
  refine ⟨narrow, words, exact, ?_, by decide +kernel, fun rule mem => (keywords rule mem).2.1⟩
  exact (masks rules.masks (List.mem_cons_self ..)).2.1 _ (by rw [exact]; simp)

end Ebuild
