import Ebuild.Rules.Line

/-!
# Rule sets

Mask rules, unmask rules and accepted keywords. `RuleSet.apply` carries out one directive;
`RuleSet.masks?` and `RuleSet.unmasks?` ask about a package.
-/

namespace Ebuild

/-- Mask rules by form. The two lists of names hold each name once. -/
structure MaskRules where
  plain : List String := []
  exact : List String := []
  atoms : Array Atom := #[]
  deriving DecidableEq, Repr

namespace MaskRules

def add (rules : MaskRules) : MaskRule → MaskRules
  | .plain cpn => { rules with plain := rules.plain.insert cpn }
  | .exact cpv => { rules with exact := rules.exact.insert cpv }
  | .atom atom => { rules with atoms := rules.atoms.push atom }

def hits (rules : MaskRules) (p : Package) : Bool :=
  rules.plain.contains p.cpn || rules.exact.contains p.cpv ||
    rules.atoms.any fun atom => atom.acceptsPackage p

end MaskRules

structure RuleSet where
  masks : MaskRules := {}
  unmasks : MaskRules := {}
  keywords : Array (KeywordRule String) := #[]
  atomKeywords : Array (KeywordRule Atom) := #[]
  deriving DecidableEq, Repr

structure RuleCounts where
  masks : Nat
  exactMasks : Nat
  atomMasks : Nat
  unmasks : Nat
  exactUnmasks : Nat
  atomUnmasks : Nat
  keywords : Nat
  atomKeywords : Nat
  deriving DecidableEq, Repr

namespace RuleCounts

def toList (c : RuleCounts) : List Nat :=
  [c.masks, c.exactMasks, c.atomMasks, c.unmasks, c.exactUnmasks, c.atomUnmasks, c.keywords,
    c.atomKeywords]

def total (c : RuleCounts) : Nat := c.toList.foldr (· + ·) 0

/-- One line for each kind of rule file. -/
def lines (c : RuleCounts) : List String :=
  [s!"mask:            {c.masks} plain, {c.exactMasks} exact, {c.atomMasks} complex",
    s!"unmask:          {c.unmasks} plain, {c.exactUnmasks} exact, {c.atomUnmasks} complex",
    s!"accept_keywords: {c.keywords} plain, {c.atomKeywords} complex"]

def text (c : RuleCounts) : String := "\n".intercalate c.lines

end RuleCounts

namespace RuleSet

def empty : RuleSet := {}

def counts (rules : RuleSet) : RuleCounts where
  masks := rules.masks.plain.length
  exactMasks := rules.masks.exact.length
  atomMasks := rules.masks.atoms.size
  unmasks := rules.unmasks.plain.length
  exactUnmasks := rules.unmasks.exact.length
  atomUnmasks := rules.unmasks.atoms.size
  keywords := rules.keywords.size
  atomKeywords := rules.atomKeywords.size

def isEmpty (rules : RuleSet) : Bool := rules.counts.total == 0

def everyPackage : Atom := ⟨"*/*", .any, .any, .basic⟩

theorem parse_everyPackage [Glob.Engine] :
    Atom.parse everyPackage.expression = .ok everyPackage := rfl

def apply (rules : RuleSet) : Directive → RuleSet
  | .mask .mask rule => { rules with masks := rules.masks.add rule }
  | .mask .unmask rule => { rules with unmasks := rules.unmasks.add rule }
  | .dropMask entry =>
    { rules with masks := { rules.masks with plain := rules.masks.plain.erase entry } }
  | .acceptPlain rule => { rules with keywords := rules.keywords.push rule }
  | .acceptAtom rule => { rules with atomKeywords := rules.atomKeywords.push rule }
  | .acceptAll allowed =>
    { rules with atomKeywords := rules.atomKeywords.push ⟨everyPackage, allowed⟩ }
  | .skip _ _ => rules

def masks? (rules : RuleSet) (p : Package) : Bool := rules.masks.hits p

def unmasks? (rules : RuleSet) (p : Package) : Bool := rules.unmasks.hits p

end RuleSet

end Ebuild
