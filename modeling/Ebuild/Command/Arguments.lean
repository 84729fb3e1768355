/-!
# Command-line arguments

`scan` sorts arguments into options and words. It stops with a refusal at the first argument that
is not allowed, and with a request for help or the version where one stands.
-/

namespace Ebuild.Command

inductive OptionName
  | config
  | root
  | arch
  | profile
  | verbose
  | quiet
  | keywords
  | slot
  | subslot
  | version
  | help
  deriving DecidableEq, Repr

inductive OptionKind
  /-- A value, once. -/
  | text
  /-- A value that is not empty, once. -/
  | path
  /-- Nothing, once. -/
  | switch
  /-- Nothing, any number of times. -/
  | counter
  /-- Nothing, and what comes after it does not matter. -/
  | leave
  deriving DecidableEq, Repr

namespace OptionName

def long : OptionName → String
  | config => "config"
  | root => "root"
  | arch => "arch"
  | profile => "profile"
  | verbose => "verbose"
  | quiet => "quiet"
  | keywords => "keywords"
  | slot => "slot"
  | subslot => "subslot"
  | version => "version"
  | help => "help"

def short? : OptionName → Option Char
  | config => some 'c'
  | verbose => some 'v'
  | quiet => some 'q'
  | keywords => some 'k'
  | version => some 'V'
  | help => some 'h'
  | _ => none

def kind : OptionName → OptionKind
  | config | root | profile => .path
  | arch | keywords | slot | subslot => .text
  | verbose => .counter
  | quiet => .switch
  | version | help => .leave

end OptionName

/-- The options with their values (empty if they take none), and the words. -/
structure Given where
  options : List (OptionName × String) := []
  words : List String := []
  deriving DecidableEq, Repr

namespace Given

def value? (g : Given) (name : OptionName) : Option String := g.options.lookup name

def count (g : Given) (name : OptionName) : Nat := g.options.countP fun (other, _) => other == name

end Given

inductive Scan
  | refused
  | version
  | help
  /-- Everything up to `rest`. -/
  | done (given : Given) (rest : List String)
  deriving DecidableEq, Repr

inductive ArgumentForm
  /-- Two dashes: only words come after. -/
  | wordsOnly
  /-- Two dashes and a name, then maybe `=` and a value. -/
  | long (name : String) (attached : Option String)
  /-- A dash and letters. -/
  | short (letters : List Char)
  | word
  deriving DecidableEq, Repr

def ArgumentForm.of (arg : String) : ArgumentForm :=
  match arg.toList with
  | ['-', '-'] => .wordsOnly
  | '-' :: '-' :: cs =>
    let name := cs.takeWhile (· != '=')
    let attached := if name.length = cs.length then none else some (cs.drop (name.length + 1))
    .long (String.ofList name) (attached.map String.ofList)
  | '-' :: c :: cs => .short (c :: cs)
  | _ => .word

/-- Notes an option, none if it may not stand here. -/
def Given.add (g : Given) (name : OptionName) (value : String) : Option Given :=
  let again := (g.value? name).isSome
  let ok := match name.kind with
    | .text | .switch => !again
    | .path => !again && value != ""
    | .counter | .leave => true
  if ok then some { g with options := (name, value) :: g.options } else none

inductive Letters
  | refused
  | version
  | help
  | done (given : Given)
  /-- The value of the last option is the next argument. -/
  | wants (given : Given) (name : OptionName)
  deriving DecidableEq, Repr

def scanLetters (names : List OptionName) (g : Given) : List Char → Letters
  | [] => .done g
  | c :: cs =>
    match names.find? fun name => name.short? = some c with
    | none => .refused
    | some .version => .version
    | some .help => .help
    | some name =>
      match name.kind, cs with
      | .text, [] | .path, [] => .wants g name
      | .text, cs | .path, cs =>
        let value := if cs.head? = some '=' then cs.tail else cs
        ((g.add name (String.ofList value)).map Letters.done).getD .refused
      | _, cs =>
        match g.add name "" with
        | some g => scanLetters names g cs
        | none => .refused

/-- Sorts arguments, up to the first word for which there is no room. -/
def scan (names : List OptionName) (room : Nat) (g : Given) : List String → Scan
  | [] => .done g []
  | arg :: rest =>
    let withNext (g : Given) (name : OptionName) : Option Given :=
      match rest with
      | value :: _ =>
        if ArgumentForm.of value = .word then g.add name value else none
      | [] => none
    match ArgumentForm.of arg with
    | .wordsOnly => .done { g with words := g.words ++ rest } []
    | .word =>
      match room with
      | 0 => .done g (arg :: rest)
      | room + 1 => scan names room { g with words := g.words ++ [arg] } rest
    | .long long attached =>
      match names.find? fun name => name.long = long with
      | none => .refused
      | some name =>
        match name.kind, attached with
        | .text, some value | .path, some value =>
          match g.add name value with
          | some g => scan names room g rest
          | none => .refused
        | .text, none | .path, none =>
          match withNext g name, rest with
          | some g, _ :: rest => scan names room g rest
          | _, _ => .refused
        | _, some _ => .refused
        | .leave, none => if name = .version then .version else .help
        | _, none =>
          match g.add name "" with
          | some g => scan names room g rest
          | none => .refused
    | .short letters =>
      match scanLetters names g letters with
      | .refused => .refused
      | .version => .version
      | .help => .help
      | .done g => scan names room g rest
      | .wants g name =>
        match withNext g name, rest with
        | some g, _ :: rest => scan names room g rest
        | _, _ => .refused

end Ebuild.Command
