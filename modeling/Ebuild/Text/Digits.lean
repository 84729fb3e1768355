/-!
# Runs of digits

`readNat` reads a run of decimal digits, `read64` does so within signed 64-bit words.
-/

namespace Ebuild.Text

def isNumber (cs : List Char) : Bool := !cs.isEmpty && cs.all Char.isDigit

/-- The number that a run of digits writes, leading zeros allowed; the empty run is zero. -/
def readNat (cs : List Char) : Nat := Nat.ofDigitChars 10 cs 0

/-- The numbers below it fit a signed 64-bit word. -/
def wordBound : Nat := 0x8000000000000000

/-- `readNat` where it fits a signed 64-bit word, otherwise zero. -/
def read64 (cs : List Char) : Nat := if readNat cs < wordBound then readNat cs else 0

theorem read64_lt (cs : List Char) : read64 cs < wordBound := by
  unfold read64
  split
  · assumption
  · decide

end Ebuild.Text
