import Ebuild.Proofs.Version.Token
import Ebuild.Version.Basic

/-!
# Slots of a version

The slots that a version can have: a number has a digit, a word is a star or letters, and a slot
below zero is not zero. `Version.wellFormed_slots` says this of every slot of every version.
-/

namespace Ebuild.Version
open Text

namespace Slot

inductive WellFormed : Slot → Prop
  | number {digits : List Char} (number : isNumber digits = true) : WellFormed (.number digits)
  | star : WellFormed (.word ['*'])
  | letters {cs : List Char} (nonempty : cs ≠ []) (letters : ∀ c ∈ cs, c.isAlpha = true) :
    WellFormed (.word cs)
  | below {distance : Nat} (positive : 0 < distance) : WellFormed (.below distance)

theorem isNumber_toDigits (n : Nat) : isNumber (Nat.toDigits 10 n) = true := by
  simp only [isNumber, Bool.and_eq_true, Bool.not_eq_true', List.isEmpty_eq_false_iff,
    List.all_eq_true]
  exact ⟨Nat.toDigits_ne_nil, fun c mem => Nat.isDigit_of_mem_toDigits (by decide) (by decide) mem⟩

theorem wellFormed_zero : WellFormed zero := .number rfl

theorem wellFormed_ofInt (x : Int) : WellFormed (ofInt x) := by
  cases x with
  | ofNat n => exact .number (isNumber_toDigits n)
  | negSucc n => exact .below (Nat.succ_pos n)

theorem wellFormed_ofToken {token : List Char} (h : IsToken token) :
    WellFormed (ofToken token) := by
  unfold ofToken
  split
  · exact .number ‹_›
  · cases h with
    | number number => contradiction
    | star => exact .star
    | letters nonempty letters => exact .letters nonempty letters

end Slot

/-! ### Merging markers -/

theorem mergeMarkers_plain {token : List Char} {rest : List (List Char)}
    (plain : markerOffset? token = none) :
    mergeMarkers (token :: rest) = Slot.ofToken token :: mergeMarkers rest := by
  cases rest <;> simp [mergeMarkers, plain]

theorem mergeMarkers_number {token next : List Char} {rest : List (List Char)} {offset : Int}
    (marker : markerOffset? token = some offset) (number : isNumber next = true) :
    mergeMarkers (token :: next :: rest) =
      Slot.ofInt (offset + read64 next) :: mergeMarkers rest := by
  simp [mergeMarkers, marker, number]

theorem mergeMarkers_bare {token : List Char} {rest : List (List Char)} {offset : Int}
    (marker : markerOffset? token = some offset)
    (bare : ∀ next ∈ rest.head?, isNumber next = false) :
    mergeMarkers (token :: rest) = Slot.ofInt offset :: mergeMarkers rest := by
  cases rest with
  | nil => simp [mergeMarkers, marker]
  | cons next rest => simp [mergeMarkers, marker, bare next rfl]

theorem wellFormed_mergeMarkers (ts : List (List Char)) (tokens : ∀ t ∈ ts, IsToken t) :
    ∀ slot ∈ mergeMarkers ts, slot.WellFormed := by
  fun_induction mergeMarkers ts with
  | case1 => simp
  | case2 token offset marker =>
    simpa using Slot.wellFormed_ofInt offset
  | case3 token plain =>
    simpa using Slot.wellFormed_ofToken (tokens token (by simp))
  | case4 token next rest offset marker number ih =>
    exact List.forall_mem_cons.2 ⟨Slot.wellFormed_ofInt _, ih fun t mem => tokens t (by simp [mem])⟩
  | case5 token next rest offset marker bare ih =>
    exact List.forall_mem_cons.2
      ⟨Slot.wellFormed_ofInt _, ih fun t mem => tokens t (List.mem_cons_of_mem _ mem)⟩
  | case6 token next rest plain ih =>
    exact List.forall_mem_cons.2 ⟨Slot.wellFormed_ofToken (tokens token (by simp)),
      ih fun t mem => tokens t (List.mem_cons_of_mem _ mem)⟩

/-! ### The revision -/

/-- The revision is cut off the end, and is a number. -/
theorem splitRevision_spec (ts : List (List Char)) :
    (splitRevision ts = (ts, ['0'])) ∨
      ∃ body number, isNumber number = true ∧ ts = body ++ [['r'], number] ∧
        splitRevision ts = (body, number) := by
  unfold splitRevision
  split
  next number marker rest reversed =>
    split
    next cut =>
      refine .inr ⟨rest.reverse, number, cut.2, ?_, rfl⟩
      rw [← List.reverse_reverse ts, reversed, cut.1]
      simp
    next => exact .inl rfl
  next => exact .inl rfl

theorem splitRevision_append {body : List (List Char)} {number : List Char}
    (digits : isNumber number = true) :
    splitRevision (body ++ [['r'], number]) = (body, number) := by
  simp [splitRevision, digits]

theorem exists_slotsOf (ts : List (List Char)) :
    ∃ body digits, body ⊆ ts ∧ isNumber digits = true ∧
      slotsOf ts = fitBody (mergeMarkers body) ++ [Slot.number digits] := by
  rcases splitRevision_spec ts with split | ⟨body, digits, number, rfl, split⟩
  · exact ⟨ts, ['0'], List.Subset.refl ts, rfl, by rw [slotsOf, split]⟩
  · exact ⟨body, digits, List.subset_append_left body _, number, by rw [slotsOf, split]⟩

theorem length_fitBody (slots : List Slot) : (fitBody slots).length = revisionSlot := by
  simp [fitBody]

theorem forall_mem_fitBody {p : Slot → Prop} {slots : List Slot} (zero : p Slot.zero)
    (all : ∀ slot ∈ slots, p slot) : ∀ slot ∈ fitBody slots, p slot := by
  intro slot mem
  rcases List.mem_append.1 (List.mem_of_mem_take mem) with mem | mem
  · exact all slot mem
  · rw [(List.mem_replicate.1 mem).2]
    exact zero

theorem wellFormed_slotsOf {ts : List (List Char)} (tokens : ∀ t ∈ ts, IsToken t) :
    ∀ slot ∈ slotsOf ts, slot.WellFormed := by
  obtain ⟨body, digits, sub, number, same⟩ := exists_slotsOf ts
  have merged := wellFormed_mergeMarkers body fun t mem => tokens t (sub mem)
  rw [same, List.forall_mem_append, List.forall_mem_singleton]
  exact ⟨forall_mem_fitBody Slot.wellFormed_zero merged, .number number⟩

theorem isToken_of_mem_body {v : Version} {t : List Char} (mem : t ∈ v.body) : IsToken t := by
  unfold body at mem
  split at mem
  · exact (token_spec _ t ((List.dropLast_sublist _).mem mem)).1
  · exact (token_spec _ t mem).1

theorem wellFormed_slots (v : Version) : ∀ slot ∈ v.slots, slot.WellFormed :=
  wellFormed_slotsOf fun _ => isToken_of_mem_body

/-! ### Versions without stars -/

theorem endsInStar_of_not_mem {v : Version} (starless : '*' ∉ v.raw.toList) :
    v.endsInStar = false := by
  rw [endsInStar, decide_eq_false_iff_not]
  intro last
  have mem : ['*'] ∈ v.tokenList := List.mem_of_getLast? last
  exact starless ((token_spec _ _ mem).2 (by simp))

theorem wildcard_of_not_mem {v : Version} (starless : '*' ∉ v.raw.toList) :
    v.wildcard = .none := by
  have inner : innerText? v.raw.toList = none := by
    unfold innerText?
    split
    · rename_i cs same
      exact absurd (by simp [same]) starless
    · rfl
  rw [wildcard, inner, endsInStar_of_not_mem starless]
  rfl

end Ebuild.Version
