import FalconPmu.Bytes.LittleEndian

namespace FalconPmu.Bytes

def slice (b : Bytes) (offset size : Nat) : Bytes :=
  (b.drop offset).take size

def range? (b : Bytes) (start stop : Nat) : Option Bytes :=
  if start ≤ stop ∧ stop ≤ b.length then some ((b.take stop).drop start) else none

def splice (b : Bytes) (offset : Nat) (new : Bytes) : Bytes :=
  b.take offset ++ (new.take (b.length - offset) ++ b.drop (offset + new.length))

theorem length_slice (b : Bytes) (offset size : Nat) :
    (slice b offset size).length = min size (b.length - offset) := by
  simp [slice]

theorem length_slice_of_le {b : Bytes} {offset size : Nat} (h : offset + size ≤ b.length) :
    (slice b offset size).length = size := by
  rw [length_slice]
  omega

@[simp] theorem length_splice (b : Bytes) (offset : Nat) (new : Bytes) :
    (splice b offset new).length = b.length := by
  simp only [splice, List.length_append, List.length_take, List.length_drop]
  omega

theorem getElem?_slice (b : Bytes) (offset size i : Nat) :
    (slice b offset size)[i]? = if i < size then b[offset + i]? else none := by
  simp [slice, List.getElem?_take]

theorem getElem?_splice (b : Bytes) (offset : Nat) (new : Bytes) (i : Nat) :
    (splice b offset new)[i]? =
      if offset ≤ i ∧ i < offset + new.length ∧ i < b.length then new[i - offset]? else b[i]? := by
  simp only [splice, List.getElem?_append, List.getElem?_take, List.getElem?_drop, List.length_take]
  grind

theorem slice_splice {b : Bytes} {offset : Nat} {new : Bytes} (h : offset + new.length ≤ b.length) :
    slice (splice b offset new) offset new.length = new := by
  apply List.ext_getElem?
  intro i
  rw [getElem?_slice, getElem?_splice]
  grind

theorem slice_splice_of_apart {b : Bytes} {offset at' size : Nat} {new : Bytes}
    (h : offset + size ≤ at' ∨ at' + new.length ≤ offset) :
    slice (splice b at' new) offset size = slice b offset size := by
  apply List.ext_getElem?
  intro i
  rw [getElem?_slice, getElem?_slice, getElem?_splice]
  grind

theorem splice_slice (b : Bytes) (offset size : Nat) :
    splice b offset (slice b offset size) = b := by
  apply List.ext_getElem?
  intro i
  rw [getElem?_splice, getElem?_slice, length_slice]
  grind

theorem splice_splice {b : Bytes} {offset : Nat} {old new : Bytes} (h : old.length = new.length) :
    splice (splice b offset old) offset new = splice b offset new := by
  apply List.ext_getElem?
  intro i
  simp only [getElem?_splice, length_splice]
  grind

theorem splice_comm {b : Bytes} {i j : Nat} {x y : Bytes}
    (h : i + x.length ≤ j ∨ j + y.length ≤ i) :
    splice (splice b i x) j y = splice (splice b j y) i x := by
  apply List.ext_getElem?
  intro k
  simp only [getElem?_splice, length_splice]
  grind

theorem slice_append {head : Bytes} {offset size : Nat} (h : offset + size ≤ head.length)
    (rest : Bytes) : slice (head ++ rest) offset size = slice head offset size := by
  apply List.ext_getElem?
  intro i
  rw [getElem?_slice, getElem?_slice]
  grind

theorem splice_append {head new : Bytes} {offset : Nat} (h : offset + new.length ≤ head.length)
    (rest : Bytes) : splice (head ++ rest) offset new = splice head offset new ++ rest := by
  apply List.ext_getElem?
  intro i
  rw [List.getElem?_append, getElem?_splice, getElem?_splice, length_splice]
  grind

theorem take_slice {b : Bytes} {offset n size : Nat} (h : n ≤ size) :
    (slice b offset size).take n = slice b offset n := by
  rw [slice, slice, List.take_take, Nat.min_eq_left h]

theorem drop_slice (b : Bytes) (offset n size : Nat) :
    (slice b offset (n + size)).drop n = slice b (offset + n) size := by
  rw [slice, slice, List.drop_take, Nat.add_sub_cancel_left, List.drop_drop]

theorem slice_add (b : Bytes) (offset v w : Nat) :
    slice b offset (v + w) = slice b offset v ++ slice b (offset + v) w := by
  rw [← drop_slice, ← take_slice (Nat.le_add_right v w), List.take_append_drop]

theorem splice_append_new (b x y : Bytes) (offset : Nat) :
    splice b offset (x ++ y) = splice (splice b offset x) (offset + x.length) y := by
  apply List.ext_getElem?
  intro i
  simp only [getElem?_splice, length_splice, List.length_append]
  grind

end FalconPmu.Bytes
