import FalconPmu.Memory

/-!
The words of a record as numbers. A span is a place in a byte string; what stands there is read as a
little-endian number of any width. A field of a fixed-width integer is a span. One of a memory descriptor
is a span of twelve bytes, or three of them side by side: address, size and DMA index.
-/

namespace FalconPmu

structure Span where
  offset : Nat
  width : Nat

namespace Span

open LittleEndian (count)

def stop (s : Span) : Nat := s.offset + s.width

def read (s : Span) (b : Bytes) : Nat := LittleEndian.decode (Bytes.slice b s.offset s.width)

def write (s : Span) (n : Nat) (b : Bytes) : Bytes :=
  Bytes.splice b s.offset (LittleEndian.encode s.width n)

@[simp] theorem length_write (s : Span) (n : Nat) (b : Bytes) : (s.write n b).length = b.length :=
  Bytes.length_splice _ _ _

theorem read_lt (s : Span) (b : Bytes) : s.read b < count s.width := by
  have hlength : (Bytes.slice b s.offset s.width).length ≤ s.width := by
    rw [Bytes.length_slice]
    exact Nat.min_le_left _ _
  exact Nat.lt_of_lt_of_le (LittleEndian.decode_lt _) (LittleEndian.count_le_count hlength)

theorem read_write {s : Span} {b : Bytes} (h : s.stop ≤ b.length) {n : Nat} (hn : n < count s.width) :
    s.read (s.write n b) = n := by
  have hslice : Bytes.slice (s.write n b) s.offset s.width = LittleEndian.encode s.width n := by
    have hfit : s.offset + (LittleEndian.encode s.width n).length ≤ b.length := by
      rw [LittleEndian.length_encode]
      exact h
    have hslice := Bytes.slice_splice hfit
    rw [LittleEndian.length_encode] at hslice
    exact hslice
  rw [read, hslice, LittleEndian.decode_encode, Nat.mod_eq_of_lt hn]

theorem read_write_of_apart {s t : Span} (h : s.stop ≤ t.offset ∨ t.stop ≤ s.offset) (n : Nat)
    (b : Bytes) : s.read (t.write n b) = s.read b := by
  rw [read, read, write, Bytes.slice_splice_of_apart]
  rw [LittleEndian.length_encode]
  exact h

theorem getElem?_eq_of_read_eq {s : Span} {b b' : Bytes} (length : b.length = b'.length)
    (h : s.read b = s.read b') {k : Nat} (hoffset : s.offset ≤ k) (hstop : k < s.stop) :
    b[k]? = b'[k]? := by
  have hlength : (Bytes.slice b s.offset s.width).length = (Bytes.slice b' s.offset s.width).length := by
    rw [Bytes.length_slice, Bytes.length_slice, length]
  have hslice : Bytes.slice b s.offset s.width = Bytes.slice b' s.offset s.width := by
    rw [← LittleEndian.encode_decode (Bytes.slice b s.offset s.width), hlength]
    exact (congrArg _ h).trans (LittleEndian.encode_decode _)
  have hbyte (bs : Bytes) : (Bytes.slice bs s.offset s.width)[k - s.offset]? = bs[k]? := by
    rw [Bytes.getElem?_slice, if_pos (by rw [stop] at hstop; omega), Nat.add_sub_cancel' hoffset]
  rw [← hbyte b, hslice, hbyte b']

theorem getElem?_write_of_outside {s : Span} {i : Nat} (h : i < s.offset ∨ s.stop ≤ i) (n : Nat)
    (b : Bytes) : (s.write n b)[i]? = b[i]? := by
  rw [write, Bytes.getElem?_splice, LittleEndian.length_encode, if_neg]
  rw [stop] at h
  omega

end Span

class Numeral (α : Type) [Wire α] where
  toNat : α → Nat
  toNat_lt : ∀ a : α, toNat a < LittleEndian.count (Wire.width α)
  encode_eq : ∀ a : α, Wire.encode a = LittleEndian.encode (Wire.width α) (toNat a)
  toNat_decode : ∀ bs : Bytes, bs.length ≤ Wire.width α →
    toNat (Wire.decode bs : α) = LittleEndian.decode bs

instance : Numeral UInt8 where
  toNat := UInt8.toNat
  toNat_lt := UInt8.toNat_lt
  encode_eq _ := rfl
  toNat_decode _ h := UInt8.toNat_ofNat'.trans (LittleEndian.decode_mod_count h)

instance : Numeral UInt16 where
  toNat := UInt16.toNat
  toNat_lt := UInt16.toNat_lt
  encode_eq _ := rfl
  toNat_decode _ h := UInt16.toNat_ofNat'.trans (LittleEndian.decode_mod_count h)

instance : Numeral UInt32 where
  toNat := UInt32.toNat
  toNat_lt := UInt32.toNat_lt
  encode_eq _ := rfl
  toNat_decode _ h := UInt32.toNat_ofNat'.trans (LittleEndian.decode_mod_count h)

instance : Numeral UInt64 where
  toNat := UInt64.toNat
  toNat_lt := UInt64.toNat_lt
  encode_eq _ := rfl
  toNat_decode _ h := UInt64.toNat_ofNat'.trans (LittleEndian.decode_mod_count h)

theorem Numeral.toNat_injective {α : Type} [Wire α] [Numeral α] {a a' : α}
    (h : toNat a = toNat a') : a = a' := by
  rw [← Wire.decode_encode a, encode_eq, h, ← encode_eq, Wire.decode_encode]

instance {α β : Type} [Wire α] [Wire β] [Numeral α] [Numeral β] : Numeral (α × β) where
  toNat p := Numeral.toNat p.1 + LittleEndian.count (Wire.width α) * Numeral.toNat p.2
  toNat_lt p := by
    have hlow := Numeral.toNat_lt p.1
    have hhigh := Nat.mul_le_mul_left (LittleEndian.count (Wire.width α)) (Numeral.toNat_lt p.2)
    rw [Nat.mul_succ] at hhigh
    change _ < LittleEndian.count (Wire.width α + Wire.width β)
    rw [LittleEndian.count_add]
    omega
  encode_eq p := by
    change Wire.encode p.1 ++ Wire.encode p.2 = _
    rw [Numeral.encode_eq, Numeral.encode_eq]
    exact LittleEndian.encode_append (Numeral.toNat_lt p.1) _ _
  toNat_decode bs h := by
    have hdrop : (bs.drop (Wire.width α)).length ≤ Wire.width β := by
      rw [List.length_drop]
      exact Nat.sub_le_iff_le_add'.2 h
    have hlow := Numeral.toNat_decode (α := α) _ (List.length_take_le (Wire.width α) bs)
    have hhigh := Numeral.toNat_decode (α := β) _ hdrop
    rw [← LittleEndian.decode_take_drop (Wire.width α) bs, ← hlow, ← hhigh]
    rfl

namespace Field

section Numeral

variable {α : Type} [Wire α]

def span (f : Field α) : Span := ⟨f.offset, Wire.width α⟩

variable [Numeral α]

theorem toNat_get (f : Field α) (b : Bytes) : Numeral.toNat (f.get b) = f.span.read b := by
  apply Numeral.toNat_decode
  rw [Bytes.length_slice]
  exact Nat.min_le_left _ _

theorem read_eq_of_get_eq {f : Field α} {b b' : Bytes} (h : f.get b = f.get b') :
    f.span.read b = f.span.read b' := by
  rw [← f.toNat_get, h, f.toNat_get]

theorem put_eq_write (f : Field α) {a : α} {n : Nat} (h : Numeral.toNat a = n) (b : Bytes) :
    f.put a b = f.span.write n b := by
  rw [put, Numeral.encode_eq, h]
  rfl

theorem modify_eq_write (f : Field α) {g : α → α} {k : Nat}
    (h : ∀ a, Numeral.toNat (g a) = Numeral.toNat a ||| k) (b : Bytes) :
    f.modify g b = f.span.write (f.span.read b ||| k) b := by
  apply f.put_eq_write
  rw [h, f.toNat_get]

end Numeral

variable (f : Field MemDesc)

def addressSpan : Span := ⟨f.offset, 8⟩

def sizeSpan : Span := ⟨f.offset + 8, 3⟩

def indexSpan : Span := ⟨f.offset + 11, 1⟩

theorem toNat_address_get (b : Bytes) : (f.get b).address.toNat = f.addressSpan.read b := by
  have h := toNat_get (⟨f.offset⟩ : Field UInt64) b
  rw [show (f.get b).address = (⟨f.offset⟩ : Field UInt64).get b from
    congrArg Wire.decode (Bytes.take_slice (by decide))]
  exact h

theorem toNat_params_get {b : Bytes} (h : f.stop ≤ b.length) :
    (f.get b).params.toNat = f.sizeSpan.read b + 0x1000000 * f.indexSpan.read b := by
  have hsize : (Bytes.slice b (f.offset + 8) 3).length = 3 := by
    apply Bytes.length_slice_of_le
    have hstop : f.offset + 12 ≤ b.length := h
    omega
  have hparams : (f.get b).params = (⟨f.offset + 8⟩ : Field UInt32).get b :=
    congrArg Wire.decode (Bytes.drop_slice b f.offset 8 4)
  rw [hparams]
  refine (toNat_get (⟨f.offset + 8⟩ : Field UInt32) b).trans ?_
  change LittleEndian.decode (Bytes.slice b (f.offset + 8) (3 + 1)) = _
  rw [Bytes.slice_add, LittleEndian.decode_append, hsize]
  rfl

end Field

namespace MemDesc

theorem toNat_size (d : MemDesc) : d.size.toNat = d.params.toNat % 0x1000000 := by
  rw [size, UInt32.toNat_and]
  exact Nat.and_two_pow_sub_one_eq_mod d.params.toNat 24

theorem toNat_top (n : UInt32) : (n >>> indexShift).toUInt8.toNat = n.toNat / 0x1000000 := by
  have hlt := n.toNat_lt
  rw [UInt32.toNat_toUInt8, UInt32.toNat_shiftRight]
  change n.toNat >>> 24 % 256 = _
  rw [Nat.shiftRight_eq_div_pow]
  omega

theorem toNat_index (d : MemDesc) : d.index.toNat = d.params.toNat / 0x1000000 := toNat_top d.params

theorem toNat_shifted (index : UInt8) :
    (index.toUInt32 <<< indexShift).toNat = index.toNat * 0x1000000 := by
  have hlt := index.toNat_lt
  rw [UInt32.toNat_shiftLeft, UInt8.toNat_toUInt32]
  change index.toNat <<< 24 % 2 ^ 32 = _
  rw [Nat.shiftLeft_eq]
  omega

theorem toNat_params_pack (address : UInt64) (size : UInt32) (index : UInt8) :
    (pack address size index).params.toNat = size.toNat % 0x1000000 + 0x1000000 * index.toNat := by
  have hlow : size.toNat % 0x1000000 < 2 ^ 24 := Nat.mod_lt _ (by decide)
  have hmask : (size &&& sizeMask).toNat = size.toNat % 0x1000000 := by
    rw [UInt32.toNat_and]
    exact Nat.and_two_pow_sub_one_eq_mod size.toNat 24
  change ((size &&& sizeMask) ||| (index.toUInt32 <<< indexShift)).toNat = _
  rw [UInt32.toNat_or, hmask, toNat_shifted, Nat.or_comm, Nat.mul_comm]
  change 2 ^ 24 * index.toNat ||| _ = _
  rw [← Nat.two_pow_add_eq_or_of_lt hlow, Nat.add_comm]

instance : Numeral MemDesc where
  toNat d := Numeral.toNat (d.address, d.params)
  toNat_lt d := Numeral.toNat_lt (d.address, d.params)
  encode_eq d := Numeral.encode_eq (d.address, d.params)
  toNat_decode bs h := Numeral.toNat_decode (α := UInt64 × UInt32) bs h

end MemDesc

namespace Field

variable (f : Field MemDesc) {b : Bytes}

theorem toNat_size_get (h : f.stop ≤ b.length) : (f.get b).size.toNat = f.sizeSpan.read b := by
  have hlt : f.sizeSpan.read b < 0x1000000 := f.sizeSpan.read_lt b
  rw [MemDesc.toNat_size, f.toNat_params_get h]
  omega

theorem toNat_index_get (h : f.stop ≤ b.length) : (f.get b).index.toNat = f.indexSpan.read b := by
  have hlt : f.sizeSpan.read b < 0x1000000 := f.sizeSpan.read_lt b
  rw [MemDesc.toNat_index, f.toNat_params_get h]
  omega

theorem put_pack (address : UInt64) (size : UInt32) (index : UInt8) (b : Bytes) :
    f.put (.pack address size index) b =
      f.indexSpan.write index.toNat
        (f.sizeSpan.write (size.toNat % 0x1000000) (f.addressSpan.write address.toNat b)) := by
  have hsize : size.toNat % 0x1000000 < LittleEndian.count 3 := Nat.mod_lt _ (by decide)
  have hencode : Wire.encode (MemDesc.pack address size index) =
      LittleEndian.encode 8 address.toNat ++
        (LittleEndian.encode 3 (size.toNat % 0x1000000) ++ LittleEndian.encode 1 index.toNat) := by
    rw [LittleEndian.encode_append hsize]
    change LittleEndian.encode 8 address.toNat ++ LittleEndian.encode 4 _ = _
    rw [MemDesc.toNat_params_pack]
    rfl
  rw [put, hencode, Bytes.splice_append_new, Bytes.splice_append_new, LittleEndian.length_encode,
    LittleEndian.length_encode]
  rfl

end Field

end FalconPmu
