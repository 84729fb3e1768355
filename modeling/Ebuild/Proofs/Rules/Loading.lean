import Ebuild.Proofs.Text.Blank
import Ebuild.Rules.Loader

/-!
# Rules after loading

The rules of a loader are a fold over the directives of its steps. What the fold keeps is said here
for each kind of rule: with no line that takes a mask back, every rule read is a rule held.
-/

namespace Ebuild
open Text

theorem ruleText?_spec {line entry : List Char} (text : ruleText? line = some entry) :
    trim entry = entry ∧ entry ≠ [] := by
  unfold ruleText? at text
  dsimp only at text
  split at text
  · cases text
  · rename_i nonempty
    cases text
    exact ⟨trim_trim _, by simpa using nonempty⟩

/-! ### Steps -/

/-- A step keeps the architecture and carries out its directive, if it has one. -/
theorem Loader.step_spec [Glob.Engine] (loader : Loader) (s : Step) :
    (loader.step s).arch = loader.arch ∧
      (loader.step s).rules = (s.directive? loader.arch).elim loader.rules loader.rules.apply := by
  cases s with
  | note event => exact ⟨rfl, rfl⟩
  | line file text =>
    simp only [step]
    cases (Step.line file text).directive? loader.arch <;> exact ⟨rfl, rfl⟩
  | acceptAll keywords =>
    simp only [step]
    cases (Step.acceptAll keywords).directive? loader.arch <;> exact ⟨rfl, rfl⟩

theorem Loader.rules_run [Glob.Engine] (loader : Loader) (steps : List Step) :
    (loader.run steps).rules =
      (steps.filterMap (Step.directive? loader.arch)).foldl RuleSet.apply loader.rules := by
  induction steps generalizing loader with
  | nil => rfl
  | cons s steps ih =>
    obtain ⟨arch, rules⟩ := loader.step_spec s
    have next := ih (loader.step s)
    rw [arch, rules] at next
    rw [run, List.foldl_cons, ← run, next]
    cases directive : s.directive? loader.arch with
    | none => rw [List.filterMap_cons_none directive, Option.elim_none]
    | some d => rw [List.filterMap_cons_some directive, Option.elim_some, List.foldl_cons]

theorem Loader.arch_run [Glob.Engine] (loader : Loader) (steps : List Step) :
    (loader.run steps).arch = loader.arch := by
  induction steps generalizing loader with
  | nil => rfl
  | cons s steps ih => rw [run, List.foldl_cons, ← run, ih, (loader.step_spec s).1]

theorem Loader.run_append [Glob.Engine] (loader : Loader) (first second : List Step) :
    loader.run (first ++ second) = (loader.run first).run second :=
  List.foldl_append

/-- What a directive brings is there after a run of directives that take nothing away. -/
theorem RuleSet.foldl_apply_iff (holds : RuleSet → Prop) (brings : Directive → Prop)
    {directives : List Directive}
    (step : ∀ d ∈ directives, ∀ rules : RuleSet, holds (rules.apply d) ↔ holds rules ∨ brings d)
    (rules : RuleSet) :
    holds (directives.foldl apply rules) ↔ holds rules ∨ ∃ d ∈ directives, brings d := by
  induction directives generalizing rules with
  | nil => simp
  | cons d directives ih =>
    rw [List.foldl_cons, ih (fun d mem => step d (by simp [mem])) (rules.apply d),
      step d (by simp), or_assoc]
    simp only [List.mem_cons, exists_eq_or_imp]

/-! ### Masks -/

def MaskRule.names : MaskRule → Package → Bool
  | plain cpn, p => cpn == p.cpn
  | exact cpv, p => cpv == p.cpv
  | atom a, p => a.acceptsPackage p

theorem MaskRules.hits_add (rules : MaskRules) (rule : MaskRule) (p : Package) :
    (rules.add rule).hits p = true ↔ rules.hits p = true ∨ rule.names p = true := by
  cases rule with
  | plain cpn =>
    have found : p.cpn ∈ rules.plain.insert cpn ↔ cpn = p.cpn ∨ p.cpn ∈ rules.plain := by
      rw [List.mem_insert_iff, eq_comm]
    simp only [add, hits, MaskRule.names, Bool.or_eq_true, List.contains_iff_mem, beq_iff_eq, found]
    simp only [or_assoc, or_comm]
  | exact cpv =>
    have found : p.cpv ∈ rules.exact.insert cpv ↔ cpv = p.cpv ∨ p.cpv ∈ rules.exact := by
      rw [List.mem_insert_iff, eq_comm]
    simp only [add, hits, MaskRule.names, Bool.or_eq_true, List.contains_iff_mem, beq_iff_eq, found]
    simp only [or_assoc, or_comm, or_left_comm]
  | atom a =>
    simp only [add, hits, MaskRule.names, Bool.or_eq_true, Array.any_push, or_assoc]

namespace RuleSet

def hits (rules : RuleSet) : MaskKind → Package → Bool
  | .mask => rules.masks?
  | .unmask => rules.unmasks?

theorem hits_empty (kind : MaskKind) (p : Package) : empty.hits kind p = false := by
  cases kind <;> simp [hits, masks?, unmasks?, MaskRules.hits, empty]

theorem hits_apply (rules : RuleSet) {d : Directive} (kept : ∀ entry, d ≠ .dropMask entry)
    (kind : MaskKind) (p : Package) :
    (rules.apply d).hits kind p = true ↔
      rules.hits kind p = true ∨ ∃ rule, d = .mask kind rule ∧ rule.names p = true := by
  cases d with
  | mask other rule =>
    cases kind <;> cases other <;>
      simp [apply, hits, masks?, unmasks?, MaskRules.hits_add]
  | dropMask entry => exact absurd rfl (kept entry)
  | _ => cases kind <;> simp [apply, hits, masks?, unmasks?]

theorem hits_foldl (rules : RuleSet) {directives : List Directive}
    (kept : ∀ entry, .dropMask entry ∉ directives) (kind : MaskKind) (p : Package) :
    (directives.foldl apply rules).hits kind p = true ↔ rules.hits kind p = true ∨
      ∃ d ∈ directives, ∃ rule, d = .mask kind rule ∧ rule.names p = true := by
  refine foldl_apply_iff (fun rules => rules.hits kind p = true)
    (fun d => ∃ rule, d = .mask kind rule ∧ rule.names p = true) ?_ rules
  intro d mem rules
  refine hits_apply rules ?_ kind p
  rintro entry rfl
  exact kept entry mem

end RuleSet

end Ebuild
