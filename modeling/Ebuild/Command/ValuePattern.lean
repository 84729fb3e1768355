import Ebuild.Text.Digits

/-!
# Value patterns

What the value of a field is compared with in a log filter: a number or a regular expression.
Only whether it is well formed matters: groups and classes are closed, an escape is complete, and
what is repeated is there.
-/

namespace Ebuild.Command

/-- The rest after a class in brackets, after its opening bracket. Classes may be nested. -/
def afterClass? : (depth : Nat) → List Char → Option (List Char)
  | _, [] => none
  | depth, '\x5c' :: _ :: cs => afterClass? depth cs
  | depth, '[' :: cs => afterClass? (depth + 1) cs
  | 0, ']' :: cs => some cs
  | depth + 1, ']' :: cs => afterClass? depth cs
  | depth, _ :: cs => afterClass? depth cs

/-- The rest after the start of a class. A closing bracket right there stands for itself. -/
def afterClassStart (cs : List Char) : List Char :=
  let cs := if cs.head? = some '^' then cs.tail else cs
  if cs.head? = some ']' then cs.tail else cs

def afterGroupMark? (cs : List Char) : Option (List Char) :=
  let isFlag (c : Char) : Bool := "imsUuxR-".toList.contains c
  let named (cs : List Char) : Option (List Char) :=
    let name := cs.takeWhile fun c => c.isAlphanum || c == '_'
    match cs.drop name.length with
    | '>' :: rest => if name.isEmpty then none else some rest
    | _ => none
  match cs with
  | 'P' :: '<' :: cs => named cs
  | '<' :: cs => named cs
  | cs =>
    match cs.dropWhile isFlag with
    | ':' :: rest => some rest
    | ')' :: rest => if cs.head? = some ')' then none else some (')' :: rest)
    | _ => none

/-- A letter or digit that has a meaning after a backslash. -/
def isEscapeLetter (c : Char) : Bool := "dDsSwWAzaftnrv".toList.contains c

/-- Whether an expression is well formed, in `depth` open groups. What stands before may be
repeated if `operand` holds. -/
def isExpression (fuel depth : Nat) (operand : Bool) (cs : List Char) : Bool :=
  match fuel, cs with
  | 0, _ => false
  | _, [] => depth == 0
  | fuel + 1, '\x5c' :: c :: cs =>
    (!c.isAlphanum || isEscapeLetter c) && c.toNat < 128 && isExpression fuel depth true cs
  | fuel + 1, c :: cs =>
    if c = '\x5c' || c = '\x7b' then false
    else if c = '(' then
      match cs with
      | '?' :: cs =>
        match afterGroupMark? cs with
        | some rest => isExpression fuel (depth + 1) false rest
        | none => false
      | cs => isExpression fuel (depth + 1) false cs
    else if c = ')' then depth != 0 && isExpression fuel (depth - 1) true cs
    else if c = '[' then
      match afterClass? 0 (afterClassStart cs) with
      | some rest => isExpression fuel depth true rest
      | none => false
    else if c = '|' then isExpression fuel depth false cs
    else if c = '*' || c = '+' || c = '?' then operand && isExpression fuel depth true cs
    else isExpression fuel depth true cs

def isPlusNumber : List Char → Bool
  | '+' :: cs =>
    let body := String.ofList cs
    (!(cs.filter Char.isDigit).isEmpty && cs.all fun c => c.isDigit || c == '.') ||
      ["inf", "infinity", "nan"].contains body.toLower
  | _ => false

def isValuePattern (cs : List Char) : Bool :=
  isPlusNumber cs || isExpression (cs.length + 1) 0 false cs

end Ebuild.Command
