import Mathlib.Data.List.Nodup
import Ebuild.Proofs.Rules.Loading

/-!
# Collections of rules

What a run of directives leaves in each collection. Rules that are tried one by one are only ever
added, so a run adds what it would add to no rules at all. A plain mask is there if it was added
and not taken back after that; taking it back changes no other collection.
-/

namespace Ebuild

/-- The rules that are tried one by one, in the order of loading. -/
structure Scanned where
  masks : List Atom
  unmasks : List Atom
  keywords : List (KeywordRule String)
  atomKeywords : List (KeywordRule Atom)

namespace Scanned

def append (a b : Scanned) : Scanned where
  masks := a.masks ++ b.masks
  unmasks := a.unmasks ++ b.unmasks
  keywords := a.keywords ++ b.keywords
  atomKeywords := a.atomKeywords ++ b.atomKeywords

instance : Append Scanned := ⟨append⟩

theorem append_def (a b : Scanned) : a ++ b = a.append b := rfl

theorem append_assoc (a b c : Scanned) : a ++ b ++ c = a ++ (b ++ c) := by
  simp [append_def, append]

end Scanned

namespace RuleSet

def scanned (rules : RuleSet) : Scanned where
  masks := rules.masks.atoms.toList
  unmasks := rules.unmasks.atoms.toList
  keywords := rules.keywords.toList
  atomKeywords := rules.atomKeywords.toList

theorem scanned_apply (rules : RuleSet) (d : Directive) :
    (rules.apply d).scanned = rules.scanned ++ (empty.apply d).scanned := by
  cases d with
  | mask kind rule =>
    cases kind <;> cases rule <;>
      simp [scanned, apply, MaskRules.add, empty, Scanned.append_def, Scanned.append]
  | _ => simp [scanned, apply, empty, Scanned.append_def, Scanned.append]

theorem scanned_foldl (rules : RuleSet) (directives : List Directive) :
    (directives.foldl apply rules).scanned =
      rules.scanned ++ (directives.foldl apply empty).scanned := by
  induction directives generalizing rules with
  | nil => simp [scanned, empty, Scanned.append_def, Scanned.append]
  | cons d directives ih =>
    rw [List.foldl_cons, List.foldl_cons, ih (rules.apply d), ih (empty.apply d),
      scanned_apply rules d, Scanned.append_assoc]

end RuleSet

theorem Loader.scanned_run [Glob.Engine] (loader : Loader) (steps : List Step) :
    (loader.run steps).rules.scanned =
      loader.rules.scanned ++ (Loader.run { arch := loader.arch } steps).rules.scanned := by
  rw [rules_run, rules_run, RuleSet.scanned_foldl]
  rfl

/-! ### Plain masks -/

namespace RuleSet

theorem nodup_apply {rules : RuleSet} (nodup : rules.masks.plain.Nodup) (d : Directive) :
    (rules.apply d).masks.plain.Nodup := by
  cases d with
  | mask kind rule =>
    cases kind with
    | mask =>
      cases rule with
      | plain cpn => exact List.Nodup.insert nodup
      | exact cpv => exact nodup
      | atom a => exact nodup
    | unmask => exact nodup
  | dropMask entry => exact nodup.erase entry
  | _ => exact nodup

/-- A plain mask is there after a directive that adds it, and after one that does not take it back
if it was there before. -/
theorem mem_plain_apply {rules : RuleSet} (nodup : rules.masks.plain.Nodup) (d : Directive)
    (entry : String) :
    entry ∈ (rules.apply d).masks.plain ↔ d = .mask .mask (.plain entry) ∨
      entry ∈ rules.masks.plain ∧ d ≠ .dropMask entry := by
  cases d with
  | mask kind rule =>
    cases kind with
    | mask =>
      cases rule with
      | plain cpn => simp [apply, MaskRules.add, eq_comm]
      | exact cpv => simp [apply, MaskRules.add]
      | atom a => simp [apply, MaskRules.add]
    | unmask => simp [apply]
  | dropMask other =>
    simp only [apply, nodup.mem_erase_iff, reduceCtorEq, false_or, ne_eq, Directive.dropMask.injEq]
    rw [and_comm, eq_comm]
  | _ => simp [apply]

def withoutPlainMasks (rules : RuleSet) : RuleSet :=
  { rules with masks := { rules.masks with plain := [] } }

theorem withoutPlainMasks_dropMask (rules : RuleSet) (entry : String) :
    (rules.apply (.dropMask entry)).withoutPlainMasks = rules.withoutPlainMasks := rfl

theorem withoutPlainMasks_apply (rules : RuleSet) (d : Directive) :
    (rules.apply d).withoutPlainMasks = (rules.withoutPlainMasks.apply d).withoutPlainMasks := by
  cases d with
  | mask kind rule => cases kind <;> cases rule <;> rfl
  | _ => rfl

end RuleSet

end Ebuild
