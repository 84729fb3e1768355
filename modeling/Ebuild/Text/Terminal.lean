/-!
# Text for a terminal

`inert` keeps a text from giving orders to the terminal that shows it: the controls that begin or
belong to such orders are written out.
-/

namespace Ebuild.Text

/-- The ASCII controls that a terminal obeys: bell, backspace, form feed, escape and delete. -/
def obeyed : List Char := ['\x07', '\x08', '\x0c', '\x1b', '\x7f']

def isSecondControl (c : Char) : Bool := 0x80 ≤ c.toNat && c.toNat ≤ 0x9f

/-- At least two hexadecimal digits. -/
def hexByte (n : Nat) : List Char := (if n < 16 then ['0'] else []) ++ Nat.toDigits 16 n

def inertChar (c : Char) : List Char :=
  if obeyed.contains c then ['\x5c', 'x'] ++ hexByte c.toNat
  else if isSecondControl c then ['\x5c', 'u', '\x7b'] ++ Nat.toDigits 16 c.toNat ++ ['\x7d']
  else [c]

def inert (s : String) : String := String.ofList (s.toList.flatMap inertChar)

end Ebuild.Text
