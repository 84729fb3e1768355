import Ebuild.Command.Invocation
import Ebuild.Command.LogFilter
import Ebuild.Load
import Ebuild.Text.Quoted
import Ebuild.Text.Terminal
import Ebuild.Visibility

/-!
# Running a command

`run` answers a command line on a file tree and an environment, with an exit code and the lines of
the output. Exit codes: 0 for yes, 1 for no, 2 for an error.
-/

namespace Ebuild.Command

inductive Line
  | event (event : Event)
  | result (text : String)
  deriving DecidableEq, Repr

structure Outcome where
  exit : Nat
  lines : List Line
  deriving DecidableEq, Repr

def Outcome.failed (events : List Event) (reason : String) : Outcome :=
  ⟨2, (events ++ [Event.failed reason]).map .event⟩

def Outcome.verdict (events : List Event) (holds : Bool) (lines : List String) : Outcome :=
  ⟨if holds then 0 else 1, events.map .event ++ lines.map .result⟩

def verdictText (holds : Bool) : String := if holds then "true" else "false"

/-! ### Settings -/

def listText (items : List String) : String := "[" ++ ", ".intercalate items ++ "]"

def settingsText (s : Settings) : String :=
  let fields := [("arch", Text.quoted s.arch), ("config_root", Text.quoted s.configRoot),
    ("profile", s.profile.elim "None" fun path => "Some(" ++ Text.quoted path ++ ")"),
    ("accept_keywords", listText (s.acceptKeywords.map Text.quoted))]
  "EngineSettings \x7b " ++ ", ".intercalate (fields.map fun (name, value) => name ++ ": " ++ value)
    ++ " \x7d"

/-- The settings of a run: those of the settings file, then the environment, then the options. An
error is given as it is reported. -/
def settingsFor (options : Options) (lookup : String → Option String) (t : FileTree) :
    Except String Settings :=
  let base : Except String Settings := match options.config with
    | none => .ok {}
    | some path =>
      match Settings.read t path with
      | .ok s => .ok s
      | .error e => .error s!"Failed to load settings from {path}: {e.report}"
  match base with
  | .error reason => .error reason
  | .ok s =>
    let s := s.withEnvironment lookup
    let s := { s with
      configRoot := options.root.getD s.configRoot
      arch := options.arch.getD s.arch
      profile := options.profile <|> s.profile }
    match s.validate with
    | .ok () => .ok s
    | .error e => .error e.report

/-! ### Commands -/

variable [Glob.Engine]

def compareVersions (a op b : String) : Outcome :=
  let a := Version.parse a
  let b := Version.parse b
  match Operator.parse op with
  | .error e => .failed [] e.report
  | .ok operator =>
    let holds := b.accepts operator a
    .verdict [] holds [s!"{a.raw} {op} {b.raw}: {verdictText holds}"]

def checkAtom (atom cpv slot : String) (subslot : Option String) : Outcome :=
  let result : Except Error (Atom × Package) := do
    let atom ← Atom.parse atom
    let p ← Package.parse cpv
    let p := p.withSlot slot
    return (atom, subslot.elim p p.withSubslot)
  match result with
  | .error e => .failed [] e.report
  | .ok (atom, p) =>
    let holds := atom.acceptsPackage p
    .verdict [] holds
      [s!"{atom.expression} ({atom.constraint.name}) vs {p.text}: {verdictText holds}"]

def classify (s : Settings) (t : FileTree) (cpv keywords slot : String) : Outcome :=
  let before := [Event.usingSettings (settingsText s)]
  match Package.parse cpv with
  | .error e => .failed before e.report
  | .ok p =>
    let p := (p.withSlot slot).withKeywords keywords
    let loader := s.load t
    let flags := loader.rules.visibility s.arch p
    .verdict (before ++ loader.log.toList ++ loader.rules.visibilityEvents s.arch p) flags.isVisible
      [s!"{p.text} [{s.arch}]: {flags.text} ({flags.bits.toNat})"]

def countRules (s : Settings) (t : FileTree) : Outcome :=
  let loader := s.load t
  .verdict (.usingSettings (settingsText s) :: loader.log.toList) true
    (("Rules from " ++ s.portageDir) :: loader.rules.counts.lines)

def Request.run (request : Request) (options : Options) (lookup : String → Option String)
    (t : FileTree) : Outcome :=
  let withSettings (answer : Settings → Outcome) : Outcome :=
    match settingsFor options lookup t with
    | .ok s => answer s
    | .error reason => .failed [] reason
  match request with
  | .compare a op b => compareVersions a op b
  | .check atom cpv slot subslot => checkAtom atom cpv slot subslot
  | .visibility cpv keywords slot => withSettings fun s => classify s t cpv keywords slot
  | .rules => withSettings fun s => countRules s t

/-! ### Output -/

def versionText : String := "portmask 0.0.1"

def helpText : List String :=
  ["Usage: portmask [OPTIONS] <COMMAND>", "", "Commands:",
    "  compare <A> <OP> <B>   Check whether A OP B holds",
    "  match <ATOM> <CPV>     Test an atom against a package",
    "  visibility <CPV>       Classify a package against the loaded rules",
    "  rules                  Show how many rules were loaded", "", "Options:",
    "  -c, --config <CONFIG>    Settings file (TOML)",
    "      --root <ROOT>        Configuration root containing etc/portage",
    "      --arch <ARCH>        Host architecture keyword",
    "      --profile <PROFILE>  Profile folder, instead of etc/portage/make.profile",
    "  -v, --verbose...         Verbose output",
    "  -q, --quiet              Quiet output",
    "  -h, --help               Print help",
    "  -V, --version            Print version"]

/-- What the log filter lets through. -/
def Outcome.printed (filter : LogFilter) (o : Outcome) : List String :=
  o.lines.filterMap fun
    | .event e => if filter.allows e then some (Text.inert e.text) else none
    | .result text => some text

def variableNames : List String :=
  ["PORTMASK_CONFIG", "PORTMASK_CONFIG_ROOT", "PORTMASK_ARCH", "PORTAGE_CONFIGROOT", "ARCH",
    "RUST_LOG"]

/-- The paths that loading found nothing at. -/
def Outcome.missing (o : Outcome) : List String :=
  o.lines.filterMap fun
    | .event (.noRules path) | .event (.unresolvedProfile path _) | .event (.noProfile path) =>
      some path
    | _ => none

/-- The paths that a command line asks for and that are not in the file tree. -/
def missingPaths (lookup : String → Option String) (t : FileTree) (args : List String) :
    List String :=
  match Invocation.ofArgs (lookup "PORTMASK_CONFIG") args with
  | .run options request => options.config.toList.filter (!t.reaches ·) ++
      (request.run options lookup t).missing
  | _ => []

/-- The exit code and the printed lines of a command line. -/
def run (lookup : String → Option String) (t : FileTree) (args : List String) :
    Nat × List String :=
  match Invocation.ofArgs (lookup "PORTMASK_CONFIG") args with
  | .refused => (2, [])
  | .version => (0, [versionText])
  | .help => (0, helpText)
  | .run options request =>
    let filter := ((lookup "RUST_LOG").bind LogFilter.parse?).getD
      (.ofVerbosity options.verbosity options.quiet)
    let outcome := request.run options lookup t
    (outcome.exit, outcome.printed filter)

end Ebuild.Command
