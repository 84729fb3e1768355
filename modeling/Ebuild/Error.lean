/-!
# Errors

Why an atom, a version, a glob or a settings document is refused. `Error.message` is the wording
and `Error.cause?` the reason that a report repeats after it.
-/

namespace Ebuild

inductive Error
  /-- No atom grammar accepts the text. -/
  | invalidAtom (text : String)
  /-- The text is not of the form `category/name-version`. -/
  | invalidVersion (text : String)
  | unknownOperator (text : String)
  /-- The engine does not take the pattern. -/
  | oversizedGlob (pattern : String)
  | emptyArch
  | invalidKeyword (keyword : String)
  | emptyConfigRoot
  | emptyProfile
  | settingsNotFound (path : String)
  | isDirectory
  | notUtf8
  /-- The settings document is no TOML, or a field has the wrong type. -/
  | malformedSettings
  deriving DecidableEq, Repr

namespace Error

/-- The reason behind an error that came from outside. -/
def cause? : Error → Option String
  | oversizedGlob _ => some "Compiled regex exceeds size limit of 10485760 bytes."
  | isDirectory => some "Is a directory (os error 21)"
  | notUtf8 => some "stream did not contain valid UTF-8"
  | malformedSettings => some "not a settings document"
  | _ => none

def message : Error → String
  | invalidAtom text => "Invalid atom: " ++ text
  | invalidVersion text => "Invalid package version: " ++ text
  | unknownOperator text => "Unknown version operator: " ++ text
  | e@(oversizedGlob pattern) => "Invalid glob pattern " ++ pattern ++ ": " ++ e.cause?.getD ""
  | emptyArch => "Invalid keyword: architecture must not be empty"
  | invalidKeyword keyword => "Invalid keyword: " ++ keyword
  | emptyConfigRoot => "Invalid configuration: config_root must not be empty"
  | emptyProfile => "Invalid configuration: profile must not be empty"
  | settingsNotFound path => "Configuration not found: " ++ path
  | e@isDirectory => "IO error: " ++ e.cause?.getD ""
  | e@notUtf8 => "IO error: " ++ e.cause?.getD ""
  | e@malformedSettings => "TOML error: " ++ e.cause?.getD ""

/-- The message followed by its cause. -/
def report (e : Error) : String := ": ".intercalate (e.message :: e.cause?.toList)

end Error

end Ebuild
