import Ebuild.Command.ValuePattern
import Ebuild.Event
import Ebuild.Text.Blank
import Ebuild.Text.Letter

/-!
# Log filters

Which events are printed. A filter is a list of directives, each about the events of some source;
the most specific directive about an event decides.
-/

namespace Ebuild.Command

structure LogDirective where
  /-- How the sources of its events begin. -/
  source : Option String := none
  /-- A field that its events have. -/
  field : Option String := none
  /-- It is about spans or about the value of a field, and so about no event. -/
  eventless : Bool := false
  /-- The least severe level that is printed, none to print nothing. -/
  level : Option Level := some .trace
  deriving DecidableEq, Repr

abbrev LogFilter := List LogDirective

/-- The part of the program that an event comes from. -/
def sourceOf : Event → String
  | .usingSettings _ | .failed _ => "portmask"
  | .unknownOperator .. => "portmask_config::version"
  | .unresolvedProfile .. | .repeatedProfile _ | .loadingProfile _ => "portmask_config::profile"
  | .noProfile _ | .loaded .. => "portmask_config::loader"
  | .reloaded _ => "portmask_config::store"
  | .unmasked _ | .accepted .. => "portmask_config::visibility"
  | _ => "portmask_config::rules"

def eventField : String := "message"

namespace LogDirective

def isAbout (d : LogDirective) (e : Event) : Bool :=
  !d.eventless && d.source.all (fun source => source.toList.isPrefixOf (sourceOf e).toList) &&
    d.field.all (· == eventField)

/-- Whether `d` is less specific than `other` or as specific: the source counts before the field. -/
def notAbove (d other : LogDirective) : Bool :=
  let size (d : LogDirective) : Nat := d.source.elim 0 fun source => source.utf8ByteSize + 1
  if size d = size other then d.field.isNone || other.field.isSome else size d < size other

/-! ### Levels -/

def levelOfNumber? (n : Nat) : Option (Option Level) :=
  [none, some .error, some .warn, some .info, some .debug, some .trace][n]?

def levelOfName? (name : String) : Option (Option Level) :=
  match name.toLower with
  | "off" => some none
  | "error" => some (some .error)
  | "warn" => some (some .warn)
  | "info" => some (some .info)
  | "debug" => some (some .debug)
  | "trace" => some (some .trace)
  | _ => none

/-- A level by number or name, `off` and 0 for none at all. -/
def level? (cs : List Char) : Option (Option Level) :=
  let digits := if cs.head? = some '+' then cs.tail else cs
  if Text.isNumber digits then levelOfNumber? (Text.readNat digits)
  else levelOfName? (String.ofList cs)

/-- The level after an equals sign; without one, every event is printed. -/
def levelAfter? (cs : List Char) : Option (Option Level) :=
  if cs.isEmpty then some (some .trace) else level? cs

/-! ### Reading

A directive is recognised on its text without the blanks around it, but its parts are cut out of
the text with the blanks, at the same distances from the start. So a reader takes pairs of a
character that is looked at and one that goes into the part. -/

/-- The characters that are looked at, each with the one that is cut out. -/
abbrev Aligned := List (Char × Char)

def cutOut (cs : Aligned) : List Char := cs.map Prod.snd

/-- Up to the first character of `stops`, that character, and the rest. -/
def breakAt? (stops : List Char) (cs : Aligned) : Option (List Char × Char × Aligned) :=
  let front := cs.takeWhile fun (c, _) => !stops.contains c
  match cs.drop front.length with
  | [] => none
  | (stop, _) :: rest => some (cutOut front, stop, rest)

/-- The level after everything else of a directive. The characters of `tail` come after the last
that is looked at. -/
def withLevel? (d : LogDirective) (tail : List Char) : Aligned → Option LogDirective
  | [] => some d
  | ('=', _) :: rest => (levelAfter? (cutOut rest ++ tail)).map fun level => { d with level }
  | _ => none

/-- A field's name, then maybe an equals sign and a value. -/
def withField? (d : LogDirective) (text : List Char) : Option LogDirective :=
  let name := text.takeWhile (· != '=')
  let value := (text.drop (name.length + 1)).takeWhile (· != '=')
  let field := some (String.ofList name)
  if text.isEmpty then none
  else if name.length = text.length then some { d with field }
  else if isValuePattern value then some { d with field, eventless := true }
  else none

/-- A span's name and maybe a field in braces, after the opening bracket. -/
def withSpan? (d : LogDirective) (tail : List Char) (cs : Aligned) : Option LogDirective := do
  let (span, stop, rest) ← breakAt? [']', '\x7b'] cs
  if stop = ']' then withLevel? { d with eventless := true } tail rest
  else
    let (field, _, rest) ← breakAt? ['\x7d'] rest
    let d ← withField? { d with eventless := !span.isEmpty } field
    match rest with
    | (']', _) :: rest => withLevel? d tail rest
    | _ => none

def isFirstChar (c : Char) : Bool := Text.isLetterOrNumber c || c == '-' || c == ':' || c == '_'

/-- A source and what comes after it, or a level alone. -/
def ofSource? (tail : List Char) (cs : Aligned) : Option LogDirective :=
  match breakAt? ['=', '['] cs with
  | none =>
    match level? (cutOut cs ++ tail) with
    | some level => some { level }
    | none => some { source := some (String.ofList (cutOut cs ++ tail)) }
  | some (source, stop, rest) =>
    let d : LogDirective := { source := some (String.ofList source) }
    if stop = '[' then withSpan? d tail rest
    else withLevel? d tail ((stop, stop) :: rest)

/-- Reads `level`, `source`, `source=level` or either with `[span]`, `[span{field}]` or
`[span{field=value}]` after the source. -/
def read? (text : List Char) : Option LogDirective :=
  let looked := Text.trim text
  let tail := text.drop looked.length
  match looked.zip text with
  | ('[', _) :: cs => withSpan? {} tail cs
  | (c, o) :: cs => if isFirstChar c then ofSource? tail ((c, o) :: cs) else none
  | [] => none

end LogDirective

namespace LogFilter

/-- The most specific directive about an event, of equals the last. -/
def directive? (filter : LogFilter) (e : Event) : Option LogDirective :=
  (filter.filter fun d => d.isAbout e).foldl (fun best d =>
    match best with
    | some b => if b.notAbove d then some d else best
    | none => some d) none

def allows (filter : LogFilter) (e : Event) : Bool :=
  match (filter.directive? e).bind LogDirective.level with
  | some level => level.rank ≤ e.level.rank
  | none => false

def ofVerbosity (verbosity : Nat) (quiet : Bool) : LogFilter :=
  let level : Level := match verbosity with
    | 0 => if quiet then .error else .warn
    | 1 => .info
    | 2 => .debug
    | _ => .trace
  [{ level := some level }]

/-- Reads directives with commas between them. Without any, nothing is printed. -/
def parse? (text : String) : Option LogFilter :=
  ((text.toList.splitOn ',').filter (!·.isEmpty)).mapM LogDirective.read?

end LogFilter

end Ebuild.Command
