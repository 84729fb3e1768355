import Ebuild.Text.Digits

/-!
# Version slots

Tokens become `width` slots that are compared from left to right. A suffix marker (`alpha`,
`beta`, `pre`, `rc`, `p`) takes the number after it and becomes one integer, a final `r` with a
number goes to the last slot, and zeros fill the slots between.
-/

namespace Ebuild.Version

/-- The number of slots of a version. -/
def width : Nat := 12

/-- The last slot, which holds the revision. -/
def revisionSlot : Nat := width - 1

inductive Slot
  /-- A run of digits, of any length. -/
  | number (digits : List Char)
  /-- A run of letters, or a star. -/
  | word (letters : List Char)
  /-- An integer below zero, by its distance from zero. -/
  | below (distance : Nat)
  deriving DecidableEq, Repr

namespace Slot

/-- The slot that an absent token leaves. -/
def zero : Slot := number ['0']

def ofToken (token : List Char) : Slot :=
  if Text.isNumber token then number token else word token

def ofInt : Int → Slot
  | .ofNat n => number (Nat.toDigits 10 n)
  | .negSucc n => below (n + 1)

def text : Slot → List Char
  | number digits => digits
  | word letters => letters
  | below n => '-' :: Nat.toDigits 10 n

/-- The slot as a signed 64-bit word, zero if it is none. -/
def value : Slot → Int
  | number digits => Text.read64 digits
  | word _ => 0
  | below n => -n

/-- Numbers are compared by size. Otherwise the 64-bit value decides, then the text. -/
def compare : Slot → Slot → Ordering
  | number a, number b => Ord.compare (Text.readNat a) (Text.readNat b)
  | a, b => (Ord.compare a.value b.value).then (Ord.compare a.text b.text)

end Slot

/-- What a suffix marker adds to the number after it. -/
def markerOffset? (token : List Char) : Option Int :=
  if token = "alpha".toList then some (-40000)
  else if token = "beta".toList then some (-30000)
  else if token = "pre".toList then some (-20000)
  else if token = "rc".toList then some (-10000)
  else if token = ['p'] then some 0
  else none

/-- The slots of the tokens before the revision, each marker merged with its number. -/
def mergeMarkers : List (List Char) → List Slot
  | [] => []
  | [token] =>
    match markerOffset? token with
    | some offset => [Slot.ofInt offset]
    | none => [Slot.ofToken token]
  | token :: next :: rest =>
    match markerOffset? token with
    | some offset =>
      if Text.isNumber next then Slot.ofInt (offset + Text.read64 next) :: mergeMarkers rest
      else Slot.ofInt offset :: mergeMarkers (next :: rest)
    | none => Slot.ofToken token :: mergeMarkers (next :: rest)

/-- The tokens before the revision, and the digits of the revision. -/
def splitRevision (tokens : List (List Char)) : List (List Char) × List Char :=
  match tokens.reverse with
  | number :: marker :: rest =>
    if marker = ['r'] ∧ Text.isNumber number then (rest.reverse, number) else (tokens, ['0'])
  | _ => (tokens, ['0'])

/-- Cut or filled with zeros to the slots before the revision. -/
def fitBody (slots : List Slot) : List Slot :=
  (slots ++ List.replicate revisionSlot Slot.zero).take revisionSlot

def slotsOf (tokens : List (List Char)) : List Slot :=
  let (body, revision) := splitRevision tokens
  fitBody (mergeMarkers body) ++ [Slot.number revision]

theorem length_slotsOf (tokens : List (List Char)) : (slotsOf tokens).length = width := by
  simp [slotsOf, fitBody, revisionSlot, width]

end Ebuild.Version
