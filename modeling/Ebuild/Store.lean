import Ebuild.Load

/-!
# Rule store

The rule set in use. Publishing another one gives back the one that it replaces.
-/

namespace Ebuild

structure RuleStore where
  current : RuleSet := {}

namespace RuleStore

def replace (store : RuleStore) (rules : RuleSet) : RuleStore × RuleSet := (⟨rules⟩, store.current)

/-- Loads a rule set and publishes it. Gives the one before and what loading reported. -/
def reload [Glob.Engine] (store : RuleStore) (s : Settings) (t : FileTree) :
    RuleStore × RuleSet × List Event :=
  let loader := s.load t
  let (store, previous) := store.replace loader.rules
  (store, previous, loader.log.toList ++ [.reloaded loader.rules.counts.total])

end RuleStore

end Ebuild
