import Ebuild.Text.Digits
import Ebuild.Toml.Value

/-!
# TOML scalars

Booleans, numbers, dates and times, recognised on the whole run of characters that they take.
-/

namespace Ebuild.Toml

/-! ### Numbers -/

/-- Digits with single underscores between them, as the digits alone. -/
def digitRun? (isDigit : Char → Bool) : List Char → Option (List Char)
  | [] => none
  | [c] => if isDigit c then some [c] else none
  | c :: '_' :: cs => if isDigit c then (digitRun? isDigit cs).map (c :: ·) else none
  | c :: cs => if isDigit c then (digitRun? isDigit cs).map (c :: ·) else none

/-- A number without its sign, and whether it is negative. -/
def unsigned : List Char → List Char × Bool
  | '+' :: cs => (cs, false)
  | '-' :: cs => (cs, true)
  | cs => (cs, false)

/-- Decimal digits without a needless leading zero. -/
def plainDigits? (cs : List Char) : Option (List Char) :=
  (digitRun? Char.isDigit cs).filter fun ds => ds.head? != some '0' || ds.length == 1

def digitValue (c : Char) : Nat :=
  if c.isDigit then c.toNat - '0'.toNat else c.toLower.toNat - 'a'.toNat + 10

def inBase? (base : Nat) (cs : List Char) : Option Nat :=
  (digitRun? (fun c => c.isAlphanum && digitValue c < base) cs).map fun ds =>
    ds.foldl (fun n c => base * n + digitValue c) 0

def integer? (cs : List Char) : Option Int := do
  let n : Int ← match cs with
    | '0' :: 'x' :: ds => (inBase? 16 ds).map Int.ofNat
    | '0' :: 'o' :: ds => (inBase? 8 ds).map Int.ofNat
    | '0' :: 'b' :: ds => (inBase? 2 ds).map Int.ofNat
    | cs => do
      let (digits, negative) := unsigned cs
      let n ← (plainDigits? digits).map Text.readNat
      return if negative then -n else n
  if -(Text.wordBound : Int) ≤ n ∧ n < Text.wordBound then some n else none

/-- A decimal number with its sign, leading zeros allowed. -/
def signed? (cs : List Char) : Option Int :=
  let (digits, negative) := unsigned cs
  (digitRun? Char.isDigit digits).map fun ds =>
    if negative then -(Text.readNat ds : Int) else Text.readNat ds

/-- Whether `digits * 10 ^ exponent` rounds to a double beyond the largest one. -/
def overflows (digits : List Char) (exponent : Int) : Bool :=
  let digits := digits.dropWhile (· == '0')
  let order := digits.length + exponent
  if digits.isEmpty || order ≤ 300 then false
  else if 310 ≤ order then true
  else
    let whole := Text.readNat digits * Nat.pow 10 exponent.toNat / Nat.pow 10 (-exponent).toNat
    Nat.pow 2 1024 ≤ whole + Nat.pow 2 970

/-- Whether a run of characters is a float. One too large for a double is refused unless it is
negative. -/
def isFloat (cs : List Char) : Bool :=
  let (body, negative) := unsigned cs
  if body = "inf".toList || body = "nan".toList then true
  else
    let (number, power) := body.span fun c => c != 'e' && c != 'E'
    let (whole, fraction) := number.span (· != '.')
    let parts : Option (List Char × List Char × Int) := do
      let whole ← plainDigits? whole
      let fraction ← if fraction.isEmpty then some [] else digitRun? Char.isDigit fraction.tail
      let exponent ← if power.isEmpty then some 0 else signed? power.tail
      return (whole, fraction, exponent)
    match parts with
    | some (whole, fraction, exponent) =>
      !(fraction.isEmpty && power.isEmpty) &&
        (negative || !overflows (whole ++ fraction) (exponent - fraction.length))
    | none => false

/-! ### Dates and times -/

/-- A number of exactly `count` digits between two bounds. -/
def between (count low high : Nat) (cs : List Char) : Bool :=
  cs.length == count && Text.isNumber cs && low ≤ Text.readNat cs && Text.readNat cs ≤ high

def isLeapYear (year : Nat) : Bool := year % 4 == 0 && (year % 100 != 0 || year % 400 == 0)

def monthLength (year month : Nat) : Nat :=
  if month = 2 then (if isLeapYear year then 29 else 28)
  else if month = 4 || month = 6 || month = 9 || month = 11 then 30
  else 31

/-- `YYYY-MM-DD`. -/
def isDate (cs : List Char) : Bool :=
  match cs.splitOn '-' with
  | [year, month, day] =>
    between 4 0 9999 year && between 2 1 12 month &&
      between 2 1 (monthLength (Text.readNat year) (Text.readNat month)) day
  | _ => false

/-- `HH:MM:SS`, then maybe a point and digits. -/
def isTime (cs : List Char) : Bool :=
  match cs.splitOn ':' with
  | [hour, minute, second] =>
    let (second, fraction) := second.span (· != '.')
    between 2 0 23 hour && between 2 0 59 minute && between 2 0 60 second &&
      (fraction.isEmpty || Text.isNumber fraction.tail)
  | _ => false

/-- A time with or without an offset: `Z`, or a sign and `HH:MM`. -/
def isOffsetTime (cs : List Char) : Bool :=
  let (time, offset) := cs.span fun c => c.isDigit || c == ':' || c == '.'
  isTime time &&
    match offset with
    | [] => true
    | ['Z'] | ['z'] => true
    | sign :: offset =>
      (sign == '+' || sign == '-') &&
        match offset.splitOn ':' with
        | [hour, minute] => between 2 0 23 hour && between 2 0 59 minute
        | _ => false

/-- A date, a time, or a date and a time with `T` or a blank between them. -/
def isMoment (cs : List Char) : Bool :=
  let date := cs.take 10
  match cs.drop 10 with
  | [] => isDate cs || isTime cs
  | sep :: time => (isDate date && (sep == 'T' || sep == 't' || sep == ' ') && isOffsetTime time) ||
      isTime cs

/-! ### Scalars -/

def isScalarChar (c : Char) : Bool :=
  c.isAlphanum || c == '+' || c == '-' || c == '_' || c == '.' || c == ':'

/-- The run of characters that a scalar takes. A date goes on after one blank if a digit follows. -/
def scalarRun (cs : List Char) : List Char :=
  let run := cs.takeWhile isScalarChar
  match cs.drop run.length with
  | ' ' :: c :: rest =>
    if isDate run && c.isDigit then run ++ ' ' :: (c :: rest).takeWhile isScalarChar else run
  | _ => run

def scalarOf? (run : List Char) : Option Value :=
  if run = "true".toList then some (.boolean true)
  else if run = "false".toList then some (.boolean false)
  else if isMoment run then some (.moment (String.ofList run))
  else match integer? run with
    | some n => some (.integer n)
    | none => if isFloat run then some (.float (String.ofList run)) else none

end Ebuild.Toml
