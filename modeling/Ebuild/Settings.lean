import Ebuild.Error
import Ebuild.FileTree.Resolve
import Ebuild.Text.Blank
import Ebuild.Toml.Document

/-!
# Settings

Where rules come from and which architecture they are for. Settings are read from TOML, overridden
by environment variables and then checked by `Settings.validate`.
-/

namespace Ebuild

structure Settings where
  arch : String := "amd64"
  /-- The folder under which `etc/portage` lies. -/
  configRoot : String := "/"
  /-- The profile folder, if it is not to be found under `etc/portage`. -/
  profile : Option String := none
  /-- Keywords accepted for every package. -/
  acceptKeywords : List String := []
  deriving DecidableEq, Repr

namespace Settings

/-! ### TOML -/

/-- A field of a document, its default if absent. -/
def field {α : Type} (entries : Toml.Entries) (name : String) (default : α)
    (read : Toml.Value → Option α) : Option α :=
  match entries.lookup name with
  | some value => read value
  | none => some default

def asString : Toml.Value → Option String
  | .string text => some text
  | _ => none

def asStrings : Toml.Value → Option (List String)
  | .array items => items.mapM asString
  | _ => none

def ofEntries? (entries : Toml.Entries) : Option Settings := do
  let default : Settings := {}
  return {
    arch := ← field entries "arch" default.arch asString
    configRoot := ← field entries "config_root" default.configRoot asString
    profile := ← field entries "profile" none fun value => (asString value).map some
    acceptKeywords := ← field entries "accept_keywords" [] asStrings }

/-- Reads a document. Fields of other names are passed over. -/
def ofToml (text : String) : Except Error Settings :=
  match (Toml.document? text).bind ofEntries? with
  | some settings => .ok settings
  | none => .error .malformedSettings

def read (t : FileTree) (path : String) : Except Error Settings :=
  match t.target? path with
  | some (.file bytes) =>
    match String.fromUTF8? bytes with
    | some text => ofToml text
    | none => .error .notUtf8
  | some _ => .error .isDirectory
  | none => .error (.settingsNotFound path)

/-! ### Environment -/

/-- The first of two variables that is set and not empty. -/
def firstSet (lookup : String → Option String) (first second : String) : Option String :=
  let set (name : String) := (lookup name).filter fun value => value != ""
  set first <|> set second

def withEnvironment (s : Settings) (lookup : String → Option String) : Settings :=
  { s with
    configRoot := (firstSet lookup "PORTMASK_CONFIG_ROOT" "PORTAGE_CONFIGROOT").getD s.configRoot
    arch := (firstSet lookup "PORTMASK_ARCH" "ARCH").getD s.arch }

/-! ### Checks -/

def hasBlank (s : String) : Bool := s.toList.any Text.isBlank

def checkArch (arch : String) : Except Error Unit :=
  if arch = "" then .error .emptyArch
  else if hasBlank arch || arch.toList.head? == some '~' || arch.toList.head? == some '-' then
    .error (.invalidKeyword arch)
  else .ok ()

def checkKeywords : List String → Except Error Unit
  | [] => .ok ()
  | keyword :: rest =>
    if keyword = "" || hasBlank keyword then .error (.invalidKeyword keyword)
    else checkKeywords rest

def validate (s : Settings) : Except Error Unit := do
  checkArch s.arch
  checkKeywords s.acceptKeywords
  if s.configRoot = "" then .error .emptyConfigRoot
  else if s.profile = some "" then .error .emptyProfile
  else .ok ()

def portageDir (s : Settings) : String := Path.join s.configRoot "etc/portage"

end Settings

end Ebuild
