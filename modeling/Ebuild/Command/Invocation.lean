import Ebuild.Command.Arguments

/-!
# Invocations

What a command line asks for. Options about the system may stand before or after the name of the
command; where one stands in both places, the later one counts.
-/

namespace Ebuild.Command

inductive Request
  /-- Whether `a op b` holds between versions. -/
  | compare (a op b : String)
  /-- Whether an atom accepts a package. -/
  | check (atom cpv slot : String) (subslot : Option String)
  /-- Why a package is hidden. -/
  | visibility (cpv keywords slot : String)
  /-- How many rules there are. -/
  | rules
  deriving DecidableEq, Repr

structure Options where
  config : Option String := none
  root : Option String := none
  arch : Option String := none
  profile : Option String := none
  verbosity : Nat := 0
  quiet : Bool := false
  deriving DecidableEq, Repr

inductive Invocation
  | run (options : Options) (request : Request)
  | version
  | help
  /-- Not a command line of this program. -/
  | refused
  deriving DecidableEq, Repr

def systemOptions : List OptionName := [.config, .root, .arch, .profile, .verbose, .quiet, .help]

/-- The options of arguments sorted before and after the command's name. -/
def optionsOf (outer inner : Given) (configVariable : Option String) : Options :=
  let value (name : OptionName) : Option String := inner.value? name <|> outer.value? name
  { config := value .config <|> configVariable
    root := value .root
    arch := value .arch
    profile := value .profile
    verbosity :=
      if 0 < inner.count .verbose then inner.count .verbose else outer.count .verbose
    quiet := (value .quiet).isSome }

/-- The options of a command and the number of its words, none if there is no such command. -/
def commandForm? : String → Option (List OptionName × Nat)
  | "compare" => some ([], 3)
  | "match" => some ([.slot, .subslot], 2)
  | "visibility" => some ([.keywords, .slot], 1)
  | "rules" => some ([], 0)
  | _ => none

def requestOf (name : String) (given : Given) : Option Request :=
  let slot := (given.value? .slot).getD "0"
  match name, given.words with
  | "compare", [a, op, b] => some (.compare a op b)
  | "match", [atom, cpv] => some (.check atom cpv slot (given.value? .subslot))
  | "visibility", [cpv] => some (.visibility cpv ((given.value? .keywords).getD "") slot)
  | "rules", [] => some .rules
  | _, _ => none

/-- Reads a command line. `configVariable` is the value of the variable that stands in for
`--config`; where it is used it may not be empty. -/
def Invocation.ofArgs (configVariable : Option String) (args : List String) : Invocation :=
  match scan (.version :: systemOptions) 0 {} args with
  | .refused => .refused
  | .version => .version
  | .help => .help
  | .done _ [] => .refused
  | .done outer (name :: rest) =>
    if name = "help" then .help
    else match commandForm? name with
      | none => .refused
      | some (own, room) =>
        match scan (own ++ systemOptions) room {} rest with
        | .refused | .version | .done _ (_ :: _) => .refused
        | .help => .help
        | .done inner [] =>
          let explicit := (outer.value? .config).isSome && (inner.value? .config).isSome
          if configVariable = some "" && !explicit then .refused
          else match requestOf name inner with
            | some request => .run (optionsOf outer inner configVariable) request
            | none => .refused

end Ebuild.Command
