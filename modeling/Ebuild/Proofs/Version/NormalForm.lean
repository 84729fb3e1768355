import Ebuild.Proofs.Version.SlotOrder
import Ebuild.Proofs.Version.SlotText
import Ebuild.Version.Operator

/-!
# The form of every version

Every version shows `width` texts and `width` words, in the form of `NormalForm`. Readers that look
these up by index, and fail past an end, never fail and come to what `Version.compare` and
`Version.accepts` say.
-/

namespace Ebuild.Version
open Text

/-- The texts of a version and their words. -/
structure NormalForm (texts : List String) (words : List Int) : Prop where
  length_texts : texts.length = width
  length_words : words.length = width
  front : ∀ t ∈ texts.take revisionSlot, IsSlotText t
  revision : ∃ t, texts[revisionSlot]? = some t ∧ isNumber t.toList = true
  words : words = texts.map fun t => (readWord? t.toList).getD 0

theorem length_slots (v : Version) : v.slots.length = width := length_slotsOf v.body

theorem normalForm (v : Version) : NormalForm v.normalized v.numeric where
  length_texts := by rw [normalized, List.length_map, length_slots]
  length_words := by rw [numeric, List.length_map, length_slots]
  front := by
    intro t mem
    rw [normalized, ← List.map_take] at mem
    obtain ⟨slot, taken, rfl⟩ := List.mem_map.1 mem
    have inside := List.mem_of_mem_take taken
    exact Slot.isSlotText (wellFormed_slots v slot inside) (merged_slots v slot inside)
  revision := by
    obtain ⟨body, digits, -, number, same⟩ := exists_slotsOf v.body
    refine ⟨String.ofList digits, ?_, by rwa [String.toList_ofList]⟩
    have last : v.slots[revisionSlot]? = some (Slot.number digits) := by
      rw [slots, same, ← length_fitBody (mergeMarkers body)]
      exact List.getElem?_concat_length
    rw [normalized, List.getElem?_map, last]
    rfl
  words := by
    rw [normalized, numeric, List.map_map]
    refine List.map_congr_left fun slot mem => ?_
    rw [Function.comp, String.toList_ofList]
    exact Slot.value_eq (wellFormed_slots v slot mem) (merged_slots v slot mem)

/-! ### Reading by index -/

/-- The comparison of two slots at an index, if each list reaches that far. -/
def compareAt? (v w : Version) (i : Nat) : Option Ordering := do
  let a ← v.normalized[i]?
  let x ← v.numeric[i]?
  let b ← w.normalized[i]?
  let y ← w.numeric[i]?
  return compareTexts a x b y

/-- `n` slots from an index on, up to the first that differ. -/
def compareFrom? (v w : Version) (i : Nat) : Nat → Option Ordering
  | 0 => some .eq
  | n + 1 => do
    match ← compareAt? v w i with
    | .eq => compareFrom? v w (i + 1) n
    | order => return order

def compareUpto? (v w : Version) (limit : Nat) : Option Ordering :=
  compareFrom? v w 0 (min limit width)

def accepts? (v : Version) (op : Operator) (candidate : Version) : Option Bool :=
  match op with
  | .equal =>
    match v.wildcard with
    | .within text => some (occursIn text candidate.raw.toList)
    | .leading tokens => some (tokens.isPrefixOf candidate.tokenList)
    | .none => (compareUpto? v candidate width).map (· == .eq)
  | .approximate => (compareUpto? v candidate revisionSlot).map (· == .eq)
  | .greaterEqual => (compareUpto? candidate v width).map (· != .lt)
  | .lessEqual => (compareUpto? candidate v width).map (· != .gt)
  | .greater => (compareUpto? candidate v width).map (· == .gt)
  | .less => (compareUpto? candidate v width).map (· == .lt)

theorem compareAt?_eq {v w : Version} {i : Nat} (inV : i < v.slots.length)
    (inW : i < w.slots.length) :
    compareAt? v w i = some (v.slots[i].compare w.slots[i]) := by
  have formV := wellFormed_slots v _ (List.getElem_mem inV)
  have formW := wellFormed_slots w _ (List.getElem_mem inW)
  rw [← compareTexts_eq formV formW]
  simp [compareAt?, normalized, numeric, inV, inW]

theorem compareFrom?_eq {v w : Version} {i n : Nat} (inside : i + n ≤ width) :
    compareFrom? v w i n =
      some (compareSlots ((v.slots.drop i).take n) ((w.slots.drop i).take n)) := by
  induction n generalizing i with
  | zero => rfl
  | succ n ih =>
    have inV : i < v.slots.length := by rw [length_slots]; omega
    have inW : i < w.slots.length := by rw [length_slots]; omega
    rw [compareFrom?, compareAt?_eq inV inW, List.drop_eq_getElem_cons inV,
      List.drop_eq_getElem_cons inW, List.take_succ_cons, List.take_succ_cons, compareSlots_cons]
    cases order : v.slots[i].compare w.slots[i] with
    | eq => exact ih (by omega)
    | lt => rfl
    | gt => rfl

theorem compareUpto?_eq (v w : Version) (limit : Nat) :
    compareUpto? v w limit = some (compareSlots (v.slots.take limit) (w.slots.take limit)) := by
  have cut (u : Version) : u.slots.take (min limit width) = u.slots.take limit := by
    rw [← length_slots u, ← List.take_eq_take_min]
  rw [compareUpto?, compareFrom?_eq (by omega), List.drop_zero, List.drop_zero, cut, cut]

theorem compareUpto?_width (v w : Version) : compareUpto? v w width = some (v.compare w) := by
  have whole (u : Version) : u.slots.take width = u.slots := by
    rw [← length_slots u, List.take_length]
  rw [compareUpto?_eq, whole, whole, compare]

theorem accepts?_eq (v : Version) (op : Operator) (candidate : Version) :
    accepts? v op candidate = some (v.accepts op candidate) := by
  cases op with
  | equal =>
    rw [accepts?, accepts, acceptsEqual, compareUpto?_width]
    cases v.wildcard <;> rfl
  | approximate =>
    rw [accepts?, accepts, compareRelease, compareUpto?_eq, Option.map_some]
  | greaterEqual | lessEqual | greater | less =>
    rw [accepts?, accepts, compareUpto?_width, Option.map_some]

theorem getElem?_revisionSlot (v : Version) : v.normalized[revisionSlot]? = some v.revision := by
  obtain ⟨digits, read, -⟩ := (normalForm v).revision
  rw [revision, cutNormalized, List.getD_eq_getElem?_getD, read]
  rfl

/-- Whatever the text, a version has the normal form, the marker arithmetic stays within the words,
and lookups by index reach every slot that comparing, matching and the revision ask for. -/
theorem parse_normalForm (text other : String) :
    let v := parse text
    let w := parse other
    NormalForm v.normalized v.numeric ∧
      (∀ token offset, markerOffset? token = some offset →
        ∀ digits, FitsWord (offset + read64 digits)) ∧
      compareUpto? v w width = some (v.compare w) ∧
      (∀ op, accepts? v op w = some (v.accepts op w)) ∧
      v.normalized[revisionSlot]? = some v.revision := by
  intro v w
  exact ⟨normalForm v, fun _ _ => fitsWord_add, compareUpto?_width v w,
    fun op => accepts?_eq v op w, getElem?_revisionSlot v⟩

/-- A number past the words after a marker counts as zero, and components past the slots are cut. -/
theorem parse_normalForm_of_overlong :
    markerOffset? "alpha".toList = some (-40000) ∧
      FitsWord (-40000 + read64 "9223372036854775808".toList) ∧
      NormalForm (parse "1_alpha9223372036854775808.3.4.5.6.7.8.9.10.11.12-r2").normalized
        (parse "1_alpha9223372036854775808.3.4.5.6.7.8.9.10.11.12-r2").numeric ∧
      compareUpto? (parse "1_alpha9223372036854775808.3.4.5.6.7.8.9.10.11.12-r2") (parse "1_beta")
        width = some .lt := by
  have holds := parse_normalForm "1_alpha9223372036854775808.3.4.5.6.7.8.9.10.11.12-r2" "1_beta"
  refine ⟨rfl, holds.2.1 "alpha".toList _ rfl _, holds.1, holds.2.2.1.trans ?_⟩
  decide +kernel

end Ebuild.Version
