import Ebuild.Event
import Ebuild.Rules.RuleSet

/-!
# Visibility

A package is hidden by a hard mask, or because its keywords do not admit the architecture and no
rule accepts them. The two reasons are independent and both can hold.
-/

namespace Ebuild

structure MaskFlags where
  bits : UInt8
  deriving DecidableEq, Repr

namespace MaskFlags

def none : MaskFlags := ⟨0⟩

/-- A mask rule names the package and no unmask rule does. -/
def hard : MaskFlags := ⟨1⟩

/-- The package is only keyworded `~arch`. -/
def testing : MaskFlags := ⟨2⟩

/-- No keyword is about the architecture. -/
def unsupported : MaskFlags := ⟨4⟩

/-- The package is keyworded `-arch` or `-*`. -/
def broken : MaskFlags := ⟨8⟩

def ofBits (bits : UInt8) : MaskFlags := ⟨bits &&& 15⟩

def union (a b : MaskFlags) : MaskFlags := ⟨a.bits ||| b.bits⟩

instance : Union MaskFlags := ⟨union⟩

def contains (a b : MaskFlags) : Bool := a.bits &&& b.bits == b.bits

def isVisible (a : MaskFlags) : Bool := a.bits == 0

def named : List (MaskFlags × String) :=
  [(hard, "hard"), (testing, "testing"), (unsupported, "unsupported"), (broken, "broken")]

def text (a : MaskFlags) : String :=
  if a.isVisible then "visible"
  else ",".intercalate ((named.filter fun (flag, _) => a.contains flag).map Prod.snd)

end MaskFlags

namespace Keywords

/-- A keyword of an architecture on which the package is stable. -/
def isStable (keyword : String) : Bool :=
  match keyword.toList with
  | [] => false
  | c :: _ => c != '~' && c != '-'

def isTesting (keyword : String) : Bool := keyword.toList.head? == some '~'

/-- Whether one accepted token admits a package with these keywords. -/
def tokenAccepts (keywords : List String) (token : String) : Bool :=
  if token = "**" then true
  else if token = "*" then keywords.any isStable
  else if token = "~*" then keywords.any isTesting
  else keywords.contains token

/-- Whether a list of accepted tokens does; the blank list stands for `~arch`. -/
def accepts (arch allowed : String) (keywords : List String) : Bool :=
  match Text.wordList allowed with
  | [] => keywords.contains ("~" ++ arch)
  | tokens => tokens.any (tokenAccepts keywords)

/-- Why keywords that nothing accepts do not admit the architecture. -/
def refusal (arch : String) (keywords : List String) : MaskFlags :=
  if keywords.contains ("~" ++ arch) then .testing
  else if keywords.contains ("-" ++ arch) || keywords.contains "-*" then .broken
  else .unsupported

end Keywords

namespace RuleSet

def isHardMasked (rules : RuleSet) (p : Package) : Bool := rules.masks? p && !rules.unmasks? p

/-- The first rule that accepts the keywords of a package, as its subject and tokens. -/
def accepting? (rules : RuleSet) (arch : String) (p : Package) : Option (String × String) :=
  let keywords := p.keywordList
  let plain := rules.keywords.find? fun rule =>
    rule.subject == p.cpn && Keywords.accepts arch rule.allowed keywords
  let atom := rules.atomKeywords.find? fun rule =>
    rule.subject.acceptsPackage p && Keywords.accepts arch rule.allowed keywords
  plain.map (fun rule => (rule.subject, rule.allowed)) <|>
    atom.map fun rule => (rule.subject.expression, rule.allowed)

def keywordFlags (rules : RuleSet) (arch : String) (p : Package) : MaskFlags :=
  if p.keywordList.contains arch || (rules.accepting? arch p).isSome then .none
  else Keywords.refusal arch p.keywordList

def visibility (rules : RuleSet) (arch : String) (p : Package) : MaskFlags :=
  (if rules.isHardMasked p then MaskFlags.hard else .none) ∪ rules.keywordFlags arch p

def visibilityEvents (rules : RuleSet) (arch : String) (p : Package) : List Event :=
  let unmasked := if rules.masks? p && rules.unmasks? p then [Event.unmasked p] else []
  let accepted :=
    if p.keywordList.contains arch then []
    else (rules.accepting? arch p).toList.map fun (subject, allowed) =>
      Event.accepted p subject allowed
  unmasked ++ accepted

end RuleSet

end Ebuild
