import Ebuild.Event
import Ebuild.Rules.RuleSet

/-!
# Loading rules

A loader takes rule lines in order and keeps the rules so far, the profile folders already read
and a log. All that it is fed is a list of steps, so every way of loading is a fold over steps.
-/

namespace Ebuild

inductive Step
  | note (event : Event)
  | line (file : RuleFile) (text : String)
  /-- Accepts keywords for every package. -/
  | acceptAll (keywords : List String)
  deriving DecidableEq, Repr

namespace Step

/-- What a step asks of the rules of an architecture. -/
def directive? [Glob.Engine] (arch : String) : Step → Option Directive
  | note _ => none
  | line file text => Directive.ofLine arch file text
  | acceptAll keywords => Directive.ofKeywords keywords

def ofText (file : RuleFile) (text : String) : List Step := (Text.lineList text).map (line file)

end Step

def Directive.event? (rules : RuleSet) : Directive → Option Event
  | mask kind rule => some (.masked kind rule)
  | dropMask entry =>
    if rules.masks.plain.contains entry then some (.droppedMask entry) else some (.keptMask entry)
  | acceptPlain rule => some (.plainKeywords rule)
  | acceptAtom rule => some (.atomKeywords rule)
  | acceptAll _ => none
  | skip file reason => some (.skipped file reason)

structure Loader where
  arch : String
  rules : RuleSet := {}
  /-- The profile folders read so far. -/
  visited : List Place := []
  log : Array Event := #[]
  deriving DecidableEq, Repr

namespace Loader

variable [Glob.Engine]

def obey (loader : Loader) (d : Directive) : Loader :=
  { loader with
    rules := loader.rules.apply d
    log := loader.log ++ (d.event? loader.rules).toArray }

def step (loader : Loader) : Step → Loader
  | .note event => { loader with log := loader.log.push event }
  | s => (s.directive? loader.arch).elim loader loader.obey

def run (loader : Loader) (steps : List Step) : Loader := steps.foldl step loader

def addLine (loader : Loader) (file : RuleFile) (line : String) : Loader :=
  loader.step (.line file line)

def addText (loader : Loader) (file : RuleFile) (text : String) : Loader :=
  loader.run (Step.ofText file text)

def acceptAll (loader : Loader) (keywords : List String) : Loader :=
  loader.step (.acceptAll keywords)

end Loader

end Ebuild
