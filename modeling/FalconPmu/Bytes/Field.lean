import FalconPmu.Bytes.Splice

/-!
A `Field α` is a value of type `α` at a fixed offset of a byte string. `get` and `put` obey the laws
of a store: what was put is read back, and fields that lie apart do not disturb one another.
-/

namespace FalconPmu

/-- A type whose values are exactly the byte strings of one width. -/
class Wire (α : Type) where
  width : Nat
  encode : α → Bytes
  decode : Bytes → α
  length_encode : ∀ a, (encode a).length = width
  decode_encode : ∀ a, decode (encode a) = a
  encode_decode : ∀ bs, bs.length = width → encode (decode bs) = bs

attribute [simp] Wire.length_encode Wire.decode_encode

instance : Wire UInt8 where
  width := 1
  encode a := LittleEndian.encode 1 a.toNat
  decode bs := UInt8.ofNat (LittleEndian.decode bs)
  length_encode _ := LittleEndian.length_encode _ _
  decode_encode a := by
    have h : a.toNat < LittleEndian.count 1 := a.toNat_lt
    rw [LittleEndian.decode_encode, Nat.mod_eq_of_lt h, UInt8.ofNat_toNat]
  encode_decode bs h := by
    have hlt := LittleEndian.decode_lt bs
    rw [h] at hlt
    have hlt : LittleEndian.decode bs < 0x100 := hlt
    rw [UInt8.toNat_ofNat', Nat.mod_eq_of_lt (by omega), LittleEndian.encode_decode_of_length h]

instance : Wire UInt16 where
  width := 2
  encode a := LittleEndian.encode 2 a.toNat
  decode bs := UInt16.ofNat (LittleEndian.decode bs)
  length_encode _ := LittleEndian.length_encode _ _
  decode_encode a := by
    have h : a.toNat < LittleEndian.count 2 := a.toNat_lt
    rw [LittleEndian.decode_encode, Nat.mod_eq_of_lt h, UInt16.ofNat_toNat]
  encode_decode bs h := by
    have hlt := LittleEndian.decode_lt bs
    rw [h] at hlt
    have hlt : LittleEndian.decode bs < 0x10000 := hlt
    rw [UInt16.toNat_ofNat', Nat.mod_eq_of_lt (by omega), LittleEndian.encode_decode_of_length h]

instance : Wire UInt32 where
  width := 4
  encode a := LittleEndian.encode 4 a.toNat
  decode bs := UInt32.ofNat (LittleEndian.decode bs)
  length_encode _ := LittleEndian.length_encode _ _
  decode_encode a := by
    have h : a.toNat < LittleEndian.count 4 := a.toNat_lt
    rw [LittleEndian.decode_encode, Nat.mod_eq_of_lt h, UInt32.ofNat_toNat]
  encode_decode bs h := by
    have hlt := LittleEndian.decode_lt bs
    rw [h] at hlt
    have hlt : LittleEndian.decode bs < 0x100000000 := hlt
    rw [UInt32.toNat_ofNat', Nat.mod_eq_of_lt (by omega), LittleEndian.encode_decode_of_length h]

instance : Wire UInt64 where
  width := 8
  encode a := LittleEndian.encode 8 a.toNat
  decode bs := UInt64.ofNat (LittleEndian.decode bs)
  length_encode _ := LittleEndian.length_encode _ _
  decode_encode a := by
    have h : a.toNat < LittleEndian.count 8 := a.toNat_lt
    rw [LittleEndian.decode_encode, Nat.mod_eq_of_lt h, UInt64.ofNat_toNat]
  encode_decode bs h := by
    have hlt := LittleEndian.decode_lt bs
    rw [h] at hlt
    have hlt : LittleEndian.decode bs < 0x10000000000000000 := hlt
    rw [UInt64.toNat_ofNat', Nat.mod_eq_of_lt (by omega), LittleEndian.encode_decode_of_length h]

instance {α β : Type} [Wire α] [Wire β] : Wire (α × β) where
  width := Wire.width α + Wire.width β
  encode p := Wire.encode p.1 ++ Wire.encode p.2
  decode bs := (Wire.decode (bs.take (Wire.width α)), Wire.decode (bs.drop (Wire.width α)))
  length_encode p := by simp
  decode_encode p := by
    have h : (Wire.encode p.1).length = Wire.width α := Wire.length_encode p.1
    rw [← h]
    simp
  encode_decode bs h := by
    rw [Wire.encode_decode _ (by simp; omega), Wire.encode_decode _ (by simp; omega),
      List.take_append_drop]

@[reducible] def Wire.ofEquiv {α β : Type} [Wire β] (forth : α → β) (back : β → α)
    (back_forth : ∀ a, back (forth a) = a) (forth_back : ∀ b, forth (back b) = b) : Wire α where
  width := Wire.width β
  encode a := Wire.encode (forth a)
  decode bs := back (Wire.decode bs)
  length_encode a := Wire.length_encode (forth a)
  decode_encode a := by rw [Wire.decode_encode, back_forth]
  encode_decode bs h := by rw [forth_back, Wire.encode_decode bs h]

structure Field (α : Type) where
  offset : Nat

namespace Field

variable {α β : Type} [Wire α] [Wire β]

def stop (f : Field α) : Nat := f.offset + Wire.width α

def get (f : Field α) (b : Bytes) : α := Wire.decode (Bytes.slice b f.offset (Wire.width α))

def put (f : Field α) (a : α) (b : Bytes) : Bytes := Bytes.splice b f.offset (Wire.encode a)

def modify (f : Field α) (change : α → α) (b : Bytes) : Bytes := f.put (change (f.get b)) b

def Apart (f : Field α) (g : Field β) : Prop := f.stop ≤ g.offset ∨ g.stop ≤ f.offset

instance (f : Field α) (g : Field β) : Decidable (f.Apart g) :=
  inferInstanceAs (Decidable (_ ∨ _))

theorem Apart.symm {f : Field α} {g : Field β} (h : f.Apart g) : g.Apart f := Or.symm h

@[simp] theorem length_put (f : Field α) (a : α) (b : Bytes) : (f.put a b).length = b.length :=
  Bytes.length_splice _ _ _

@[simp] theorem length_modify (f : Field α) (change : α → α) (b : Bytes) :
    (f.modify change b).length = b.length :=
  length_put _ _ _

theorem get_put {f : Field α} {b : Bytes} (h : f.stop ≤ b.length) (a : α) :
    f.get (f.put a b) = a := by
  have hfit : f.offset + (Wire.encode a).length ≤ b.length := by
    rw [Wire.length_encode]
    exact h
  have hslice := Bytes.slice_splice hfit
  rw [Wire.length_encode] at hslice
  rw [get, put, hslice, Wire.decode_encode]

theorem get_put_of_apart {f : Field α} {g : Field β} (h : f.Apart g) (c : β) (b : Bytes) :
    f.get (g.put c b) = f.get b := by
  rw [get, get, put, Bytes.slice_splice_of_apart]
  rw [Wire.length_encode]
  exact h

theorem put_get {f : Field α} {b : Bytes} (h : f.stop ≤ b.length) : f.put (f.get b) b = b := by
  rw [put, get, Wire.encode_decode _ (Bytes.length_slice_of_le h), Bytes.splice_slice]

theorem encode_get {f : Field α} {b : Bytes} (h : f.stop ≤ b.length) :
    Wire.encode (f.get b) = Bytes.slice b f.offset (Wire.width α) :=
  Wire.encode_decode _ (Bytes.length_slice_of_le h)

theorem put_put (f : Field α) (a a' : α) (b : Bytes) : f.put a' (f.put a b) = f.put a' b := by
  rw [put, put, put, Bytes.splice_splice]
  rw [Wire.length_encode, Wire.length_encode]

theorem put_comm {f : Field α} {g : Field β} (h : f.Apart g) (a : α) (c : β) (b : Bytes) :
    g.put c (f.put a b) = f.put a (g.put c b) := by
  rw [put, put, put, put, Bytes.splice_comm]
  rw [Wire.length_encode, Wire.length_encode]
  exact h

theorem getElem?_put_of_outside {f : Field α} {i : Nat} (h : i < f.offset ∨ f.stop ≤ i) (a : α)
    (b : Bytes) : (f.put a b)[i]? = b[i]? := by
  rw [put, Bytes.getElem?_splice, Wire.length_encode]
  simp only [stop] at h
  grind

theorem exists_put_ne {f : Field α} {b : Bytes} (h : f.stop ≤ b.length) {i : Nat}
    (hoffset : f.offset ≤ i) (hstop : i < f.stop) : ∃ a : α, (f.put a b)[i]? ≠ b[i]? := by
  have hi : i < b.length := by omega
  have hin : i - f.offset < Wire.width α := by
    rw [stop] at hstop
    omega
  have hlength : ((Bytes.slice b f.offset (Wire.width α)).map (· + 1)).length = Wire.width α := by
    rw [List.length_map, Bytes.length_slice_of_le h]
  refine ⟨Wire.decode ((Bytes.slice b f.offset (Wire.width α)).map (· + 1)), ?_⟩
  rw [put, Wire.encode_decode _ hlength, Bytes.getElem?_splice, hlength,
    if_pos ⟨hoffset, hstop, hi⟩, List.getElem?_map, Bytes.getElem?_slice, if_pos hin,
    Nat.add_sub_cancel' hoffset, List.getElem?_eq_getElem hi]
  simp

theorem get_append {f : Field α} {head : Bytes} (h : f.stop ≤ head.length) (rest : Bytes) :
    f.get (head ++ rest) = f.get head := by
  rw [get, Bytes.slice_append h, get]

end Field

end FalconPmu
