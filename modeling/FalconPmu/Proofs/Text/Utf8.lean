import FalconPmu.Bytes.LittleEndian
import Mathlib.Data.List.Forall2

namespace FalconPmu.Utf8

structure Range where
  low : Nat
  high : Nat

def Range.Has (r : Range) (x : Nat) : Prop := r.low ≤ x ∧ x ≤ r.high

def tail : Range := ⟨0x80, 0xbf⟩

/-- Where the bytes of a character lie, by the first of them. The narrower ranges keep out longer forms
of characters that have a shorter one, surrogates, and what is above the last character. -/
def table : List (List Range) :=
  [[⟨0x00, 0x7f⟩],
    [⟨0xc2, 0xdf⟩, tail],
    [⟨0xe0, 0xe0⟩, ⟨0xa0, 0xbf⟩, tail],
    [⟨0xe1, 0xec⟩, tail, tail],
    [⟨0xed, 0xed⟩, ⟨0x80, 0x9f⟩, tail],
    [⟨0xee, 0xef⟩, tail, tail],
    [⟨0xf0, 0xf0⟩, ⟨0x90, 0xbf⟩, tail, tail],
    [⟨0xf1, 0xf3⟩, tail, tail, tail],
    [⟨0xf4, 0xf4⟩, ⟨0x80, 0x8f⟩, tail, tail]]

def Sequence (xs : List Nat) : Prop := ∃ row ∈ table, List.Forall₂ Range.Has row xs

inductive WellFormed : Bytes → Prop
  | nil : WellFormed []
  | cons {bs rest} (first : Sequence (bs.map UInt8.toNat)) (others : WellFormed rest) :
      WellFormed (bs ++ rest)

def encode (s : String) : Bytes := s.toList.flatMap String.utf8EncodeChar

def units (n : Nat) : List Nat :=
  if n ≤ 0x7f then [n]
  else if n ≤ 0x7ff then [0xc0 + n / 0x40, 0x80 + n % 0x40]
  else if n ≤ 0xffff then [0xe0 + n / 0x1000, 0x80 + n / 0x40 % 0x40, 0x80 + n % 0x40]
  else [0xf0 + n / 0x40000, 0x80 + n / 0x1000 % 0x40, 0x80 + n / 0x40 % 0x40, 0x80 + n % 0x40]

theorem sequence_one {x : Nat} : Sequence [x] ↔ x ≤ 0x7f := by
  simp [Sequence, table, Range.Has]

theorem sequence_two {x y : Nat} :
    Sequence [x, y] ↔ (0xc2 ≤ x ∧ x ≤ 0xdf) ∧ 0x80 ≤ y ∧ y ≤ 0xbf := by
  simp [Sequence, table, Range.Has, tail]

theorem sequence_three {x y z : Nat} :
    Sequence [x, y, z] ↔ (0xe0 ≤ x ∧ x ≤ 0xef) ∧ (0x80 ≤ y ∧ y ≤ 0xbf) ∧ (0x80 ≤ z ∧ z ≤ 0xbf) ∧
      (x = 0xe0 → 0xa0 ≤ y) ∧ (x = 0xed → y ≤ 0x9f) := by
  simp [Sequence, table, Range.Has, tail]
  omega

theorem sequence_four {x y z w : Nat} :
    Sequence [x, y, z, w] ↔ (0xf0 ≤ x ∧ x ≤ 0xf4) ∧ (0x80 ≤ y ∧ y ≤ 0xbf) ∧ (0x80 ≤ z ∧ z ≤ 0xbf) ∧
      (0x80 ≤ w ∧ w ≤ 0xbf) ∧ (x = 0xf0 → 0x90 ≤ y) ∧ (x = 0xf4 → y ≤ 0x8f) := by
  simp [Sequence, table, Range.Has, tail]
  omega

theorem sequence_units {n : Nat} (h : n.isValidChar) : Sequence (units n) := by
  unfold units
  split
  · rw [sequence_one]
    omega
  split
  · rw [sequence_two]
    omega
  split
  · rw [sequence_three]
    omega
  · rw [sequence_four]
    omega

theorem exists_units {xs : List Nat} (h : Sequence xs) : ∃ n, n.isValidChar ∧ units n = xs := by
  -- The number is put together from what the bytes hold above the least byte of their kind.
  match xs with
  | [] => simp [Sequence, table] at h
  | [x] =>
    rw [sequence_one] at h
    refine ⟨x, by omega, ?_⟩
    rw [units, if_pos h]
  | [x, y] =>
    rw [sequence_two] at h
    refine ⟨(x - 0xc0) * 0x40 + (y - 0x80), by omega, ?_⟩
    rw [units, if_neg (by omega), if_pos (by omega)]
    simp only [List.cons.injEq, and_true]
    omega
  | [x, y, z] =>
    rw [sequence_three] at h
    refine ⟨(x - 0xe0) * 0x1000 + (y - 0x80) * 0x40 + (z - 0x80), by omega, ?_⟩
    rw [units, if_neg (by omega), if_neg (by omega), if_pos (by omega)]
    simp only [List.cons.injEq, and_true]
    omega
  | [x, y, z, w] =>
    rw [sequence_four] at h
    refine ⟨(x - 0xf0) * 0x40000 + (y - 0x80) * 0x1000 + (z - 0x80) * 0x40 + (w - 0x80), by omega, ?_⟩
    rw [units, if_neg (by omega), if_neg (by omega), if_neg (by omega)]
    simp only [List.cons.injEq, and_true]
    omega
  | x :: y :: z :: w :: v :: xs => simp [Sequence, table] at h

theorem map_utf8EncodeChar (c : Char) :
    (String.utf8EncodeChar c).map UInt8.toNat = units c.toNat := by
  have valid : c.toNat.isValidChar := c.valid
  have toNat : c.val.toNat = c.toNat := rfl
  rw [String.utf8EncodeChar.eq_1, units, toNat]
  split
  · simp
    omega
  split
  · simp
    omega
  split
  · simp
    omega
  · simp
    omega

theorem sequence_iff (bs : Bytes) :
    Sequence (bs.map UInt8.toNat) ↔ ∃ c : Char, String.utf8EncodeChar c = bs := by
  have map_injective : Function.Injective (List.map UInt8.toNat) :=
    List.map_injective_iff.2 fun _ _ => UInt8.toNat.inj
  constructor
  · intro h
    obtain ⟨n, valid, hunits⟩ := exists_units h
    refine ⟨Char.ofNatAux n valid, map_injective ?_⟩
    rw [map_utf8EncodeChar]
    exact hunits
  · rintro ⟨c, rfl⟩
    rw [map_utf8EncodeChar]
    exact sequence_units c.valid

theorem wellFormed_iff (bs : Bytes) :
    WellFormed bs ↔ ∃ cs : List Char, cs.flatMap String.utf8EncodeChar = bs := by
  constructor
  · intro h
    induction h with
    | nil => exact ⟨[], rfl⟩
    | cons first others ih =>
      obtain ⟨c, rfl⟩ := (sequence_iff _).1 first
      obtain ⟨cs, rfl⟩ := ih
      exact ⟨c :: cs, List.flatMap_cons⟩
  · rintro ⟨cs, rfl⟩
    induction cs with
    | nil => exact .nil
    | cons c cs ih =>
      rw [List.flatMap_cons]
      exact .cons ((sequence_iff _).2 ⟨c, rfl⟩) ih

theorem toByteArray_encode (s : String) : (encode s).toByteArray = s.toByteArray :=
  String.utf8Encode_toList

theorem fromUTF8?_eq_some_iff {bs : Bytes} {s : String} :
    String.fromUTF8? bs.toByteArray = some s ↔ encode s = bs := by
  rw [String.fromUTF8?, ← List.toByteArray_inj, toByteArray_encode]
  constructor
  · intro h
    split at h
    · cases h
      rfl
    · cases h
  · intro h
    simp only [← h, dif_pos s.isValidUTF8]
    rfl

theorem exists_encode_iff {bs : Bytes} : (∃ s, encode s = bs) ↔ WellFormed bs := by
  rw [wellFormed_iff]
  constructor
  · rintro ⟨s, rfl⟩
    exact ⟨s.toList, rfl⟩
  · rintro ⟨cs, rfl⟩
    refine ⟨String.ofList cs, ?_⟩
    rw [encode, String.toList_ofList]

end FalconPmu.Utf8
