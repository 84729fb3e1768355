import Mathlib.Data.List.Basic
import Ebuild.Proofs.Text.Char

/-!
# Texts as bytes

The order of texts by code points is the order of their bytes, because a character with a higher
code point is written with higher bytes.
-/

namespace Ebuild.Text

def bytes (s : String) : List UInt8 := s.toUTF8.data.toList

theorem bytes_eq_flatMap (s : String) : bytes s = s.toList.flatMap String.utf8EncodeChar := by
  conv => lhs; rw [← String.ofList_toList (s := s)]
  rw [bytes, String.toUTF8_eq_toByteArray, String.toByteArray_ofList, List.utf8Encode]
  simp

theorem bytes_append (s t : String) : bytes (s ++ t) = bytes s ++ bytes t := by
  rw [bytes_eq_flatMap, String.toList_append, List.flatMap_append, ← bytes_eq_flatMap,
    ← bytes_eq_flatMap]

theorem length_bytes (s : String) : (bytes s).length = s.utf8ByteSize := Array.length_toList

section
variable {m n v w : Nat} {xs ys : List UInt8}

theorem ofNat_cons_lt (less : m < n) (small : n < 256) :
    UInt8.ofNat m :: xs < UInt8.ofNat n :: ys := by
  rw [List.cons_lt_cons_iff, UInt8.lt_iff_toNat_lt, UInt8.toNat_ofNat', UInt8.toNat_ofNat']
  left
  omega

theorem ofNat_cons_lt_of_eq (same : m = n) (less : xs < ys) :
    UInt8.ofNat m :: xs < UInt8.ofNat n :: ys :=
  List.cons_lt_cons_iff.2 (.inr ⟨by rw [same], less⟩)

/-! The last bytes of two characters that agree before them. -/

theorem lastByte_lt (less : v < w) (same : v / 64 = w / 64) :
    UInt8.ofNat (v % 64 + 128) :: xs < UInt8.ofNat (w % 64 + 128) :: ys :=
  ofNat_cons_lt (by omega) (by omega)

theorem lastTwoBytes_lt (less : v < w) (same : v / 4096 = w / 4096) :
    UInt8.ofNat (v / 64 % 64 + 128) :: UInt8.ofNat (v % 64 + 128) :: xs <
      UInt8.ofNat (w / 64 % 64 + 128) :: UInt8.ofNat (w % 64 + 128) :: ys := by
  by_cases next : v / 64 = w / 64
  · exact ofNat_cons_lt_of_eq (by rw [next]) (lastByte_lt less next)
  · exact ofNat_cons_lt (by omega) (by omega)

theorem lastThreeBytes_lt (less : v < w) (same : v / 262144 = w / 262144) :
    UInt8.ofNat (v / 4096 % 64 + 128) :: UInt8.ofNat (v / 64 % 64 + 128) ::
        UInt8.ofNat (v % 64 + 128) :: xs <
      UInt8.ofNat (w / 4096 % 64 + 128) :: UInt8.ofNat (w / 64 % 64 + 128) ::
        UInt8.ofNat (w % 64 + 128) :: ys := by
  by_cases next : v / 4096 = w / 4096
  · exact ofNat_cons_lt_of_eq (by rw [next]) (lastTwoBytes_lt less next)
  · exact ofNat_cons_lt (by omega) (by omega)

end

/-- A character with a higher code point is written with higher bytes, whatever follows. -/
theorem utf8EncodeChar_append_lt {c d : Char} (higher : c < d) (xs ys : List UInt8) :
    String.utf8EncodeChar c ++ xs < String.utf8EncodeChar d ++ ys := by
  have bound : d.val.toNat < 0x110000 := by
    rcases d.valid with small | large
    · have : d.val.toNat < 0xd800 := small
      omega
    · exact large.2
  have less : c.val.toNat < d.val.toNat := higher
  unfold String.utf8EncodeChar
  generalize c.val.toNat = v at less
  generalize d.val.toNat = w at less bound
  -- the second character has as many bytes as the first or more, and then a higher first byte
  by_cases one : v ≤ 127
  · simp only [if_pos one]
    split
    · exact ofNat_cons_lt less (by omega)
    · split
      · exact ofNat_cons_lt (by omega) (by omega)
      · split <;> exact ofNat_cons_lt (by omega) (by omega)
  by_cases two : v ≤ 2047
  · simp only [if_neg one, if_pos two, if_neg (show ¬ w ≤ 127 by omega)]
    split
    · by_cases same : v / 64 = w / 64
      · exact ofNat_cons_lt_of_eq (by rw [same]) (lastByte_lt less same)
      · exact ofNat_cons_lt (by omega) (by omega)
    · split <;> exact ofNat_cons_lt (by omega) (by omega)
  by_cases three : v ≤ 65535
  · simp only [if_neg one, if_neg two, if_pos three, if_neg (show ¬ w ≤ 127 by omega),
      if_neg (show ¬ w ≤ 2047 by omega)]
    split
    · by_cases same : v / 4096 = w / 4096
      · exact ofNat_cons_lt_of_eq (by rw [same]) (lastTwoBytes_lt less same)
      · exact ofNat_cons_lt (by omega) (by omega)
    · exact ofNat_cons_lt (by omega) (by omega)
  · simp only [if_neg one, if_neg two, if_neg three, if_neg (show ¬ w ≤ 127 by omega),
      if_neg (show ¬ w ≤ 2047 by omega), if_neg (show ¬ w ≤ 65535 by omega)]
    by_cases same : v / 262144 = w / 262144
    · exact ofNat_cons_lt_of_eq (by rw [same]) (lastThreeBytes_lt less same)
    · exact ofNat_cons_lt (by omega) (by omega)

theorem bytes_lt {a b : String} (less : a < b) : bytes a < bytes b := by
  rw [String.lt_iff] at less
  rw [bytes_eq_flatMap, bytes_eq_flatMap]
  generalize a.toList = cs at less
  generalize b.toList = ds at less
  induction cs generalizing ds with
  | nil =>
    cases ds with
    | nil => exact absurd less (List.not_lt_nil _)
    | cons d ds =>
      obtain ⟨byte, rest, written⟩ := List.exists_cons_of_ne_nil
        (String.utf8EncodeChar_ne_nil (c := d))
      rw [List.flatMap_cons, written]
      exact List.nil_lt_cons _ _
  | cons c cs ih =>
    cases ds with
    | nil => exact absurd less (List.not_lt_nil _)
    | cons d ds =>
      rw [List.flatMap_cons, List.flatMap_cons]
      rcases List.cons_lt_cons_iff.1 less with higher | ⟨rfl, later⟩
      · exact utf8EncodeChar_append_lt higher _ _
      · exact List.append_left_lt (ih ds later)

end Ebuild.Text
