import Ebuild.FileTree.Resolve
import Ebuild.Rules.Line

/-!
# Events

What loading and asking report on the way, with a level each.
-/

namespace Ebuild

inductive Level
  | trace
  | debug
  | info
  | warn
  | error
  deriving DecidableEq, Repr

namespace Level

def name : Level → String
  | trace => "TRACE"
  | debug => "DEBUG"
  | info => "INFO"
  | warn => "WARN"
  | error => "ERROR"

def rank : Level → Nat
  | trace => 0
  | debug => 1
  | info => 2
  | warn => 3
  | error => 4

end Level

inductive Event
  | unknownOperator (operator : String) (bound candidate : Version)
  /-- Nothing is at the path of a rule file. -/
  | noRules (path : String)
  | unreadable (path : String)
  | loadingRules (file : RuleFile) (path : String)
  | masked (kind : MaskKind) (rule : MaskRule)
  | droppedMask (entry : String)
  /-- There was no such plain mask to take back. -/
  | keptMask (entry : String)
  | plainKeywords (rule : KeywordRule String)
  | atomKeywords (rule : KeywordRule Atom)
  | skipped (file : RuleFile) (reason : Error)
  | unresolvedProfile (path : String) (reason : PathError)
  | repeatedProfile (path : String)
  | loadingProfile (path : String)
  | noProfile (path : String)
  | loaded (rules : Nat) (path : String) (profiles : Nat)
  | reloaded (rules : Nat)
  | unmasked (package : Package)
  | accepted (package : Package) (subject allowed : String)
  /-- The settings in use, as text. -/
  | usingSettings (text : String)
  | failed (reason : String)
  deriving DecidableEq, Repr

namespace Event

def level : Event → Level
  | unknownOperator .. | unreadable _ | skipped .. | unresolvedProfile .. => .warn
  | loadingRules .. | keptMask _ | repeatedProfile _ | loadingProfile _ | noProfile _
  | usingSettings _ => .debug
  | loaded .. | reloaded _ => .info
  | failed _ => .error
  | _ => .trace

def message : Event → String
  | unknownOperator operator bound candidate =>
    (Error.unknownOperator operator).message ++ s!" (comparing {bound.raw} with {candidate.raw})"
  | noRules path => "No rules at " ++ path
  | unreadable path => s!"Cannot read {path}: " ++ Error.notUtf8.cause?.getD ""
  | loadingRules file path => s!"Loading {file.name} rules from {path}"
  | masked kind (.plain cpn) => s!"{kind.name} plain: {cpn}"
  | masked kind (.exact cpv) => s!"{kind.name} exact: {cpv}"
  | masked kind (.atom atom) => s!"{kind.name} {atom.constraint.name}: {atom.expression}"
  | droppedMask entry => "Removed plain mask " ++ entry
  | keptMask entry => "No plain mask to remove for -" ++ entry
  | plainKeywords rule => s!"accept_keywords plain: {rule.subject} {rule.allowed}"
  | atomKeywords rule =>
    s!"accept_keywords {rule.subject.constraint.name}: {rule.subject.expression} {rule.allowed}"
  | skipped (.masks _) reason => "Skipping mask entry: " ++ reason.message
  | skipped .acceptKeywords reason => "Skipping accept_keywords entry: " ++ reason.message
  | unresolvedProfile path reason => s!"Cannot resolve profile {path}: {reason.message}"
  | repeatedProfile path => s!"Profile {path} already loaded"
  | loadingProfile path => "Loading profile " ++ path
  | noProfile path => "No profile at " ++ path
  | loaded rules path profiles => s!"Loaded {rules} rules from {path} ({profiles} profile folders)"
  | reloaded rules => s!"Reloaded rules: {rules} entries"
  | unmasked package => s!"{package.text} unmasked"
  | accepted package subject allowed => s!"{package.text} accepted by {subject} {allowed}"
  | usingSettings text => "Using settings: " ++ text
  | failed reason => reason

def text (e : Event) : String := e.level.name ++ " " ++ e.message

end Event

namespace Version

/-- `accepts` with the operator as text; an unknown one is reported and never holds. -/
def acceptsText (v : Version) (operator : String) (candidate : Version) : Bool × List Event :=
  match Operator.ofText? operator with
  | some op => (v.accepts op candidate, [])
  | none => (false, [.unknownOperator operator v candidate])

end Version

end Ebuild
