import FalconPmu.Proofs.Record.Word
import FalconPmu.Record.Allocation
import FalconPmu.Record.BootArgs
import Mathlib.Logic.ExistsUnique

namespace FalconPmu

/-- A setter and a getter of a part of a record with `size` bytes: what was set is what one gets, what is
left in the buffer shows what was set, and to set what one gets changes nothing. -/
structure Access.Lens {α : Type} (size : Nat) (set : α → Access Unit) (get : Access α) : Prop where
  get_set : ∀ b, size ≤ b.length → ∀ a, ∃ b', set a b = (.ok (), b') ∧ get b' = (.ok a, b')
  set_injective : ∀ b, size ≤ b.length → ∀ a a', (set a b).2 = (set a' b).2 → a = a'
  set_get : ∀ b, size ≤ b.length → ∃ a, get b = (.ok a, b) ∧ set a b = (.ok (), b)

theorem Field.lens {α : Type} [Wire α] {f : Field α} {size : Nat} (h : f.stop ≤ size) :
    Access.Lens size (fun a => Access.write size (f.put a)) (Access.read size f.get) where
  get_set := by
    intro b hb a
    refine ⟨f.put a b, Access.write_of_le hb _, ?_⟩
    rw [Access.read_of_le (by rwa [length_put]), get_put (Nat.le_trans h hb)]
  set_injective := by
    intro b hb a a' heq
    simp only [Access.write_of_le hb] at heq
    rw [← get_put (Nat.le_trans h hb) a, heq, get_put (Nat.le_trans h hb)]
  set_get := by
    intro b hb
    refine ⟨f.get b, Access.read_of_le hb _, ?_⟩
    rw [Access.write_of_le hb, put_get (Nat.le_trans h hb)]

namespace MemDesc

theorem size_pack (address : UInt64) (size : UInt32) (index : UInt8) :
    (pack address size index).size.toNat = size.toNat % 0x1000000 := by
  rw [toNat_size, toNat_params_pack]
  omega

theorem index_pack (address : UInt64) (size : UInt32) (index : UInt8) :
    (pack address size index).index = index := by
  apply UInt8.toNat.inj
  rw [toNat_index, toNat_params_pack]
  omega

theorem pack_unpack (d : MemDesc) : pack d.address d.size d.index = d := by
  have params : (pack d.address d.size d.index).params = d.params := by
    apply UInt32.toNat.inj
    rw [toNat_params_pack, toNat_size, toNat_index]
    omega
  cases d
  exact congrArg (MemDesc.mk _) params

theorem encode_eq (d : MemDesc) :
    Wire.encode d = LittleEndian.encode 4 (d.address.toNat % 0x100000000) ++
      LittleEndian.encode 4 (d.address.toNat / 0x100000000) ++ LittleEndian.encode 4 d.params.toNat := by
  have halves : LittleEndian.encode 8 d.address.toNat =
      LittleEndian.encode 4 (d.address.toNat % 0x100000000) ++
        LittleEndian.encode 4 (d.address.toNat / 0x100000000) := by
    rw [LittleEndian.encode_add 4 4]
    exact congrArg (· ++ _) (LittleEndian.encode_mod_count 4 d.address.toNat).symm
  rw [← halves]
  rfl

theorem existsUnique_encode {bs : Bytes} (h : bs.length = 12) : ∃! d : MemDesc, Wire.encode d = bs := by
  refine ⟨Wire.decode bs, Wire.encode_decode bs h, ?_⟩
  rintro d rfl
  exact (Wire.decode_encode d).symm

theorem lossless_descriptor :
    (∀ address size index, (pack address size index).address = address ∧
      (pack address size index).size.toNat = size.toNat % 0x1000000 ∧
      (pack address size index).index = index) ∧
    (∀ d : MemDesc, pack d.address d.size d.index = d) ∧
    (∀ d : MemDesc, (Wire.encode d).length = 12 ∧
      Wire.encode d = LittleEndian.encode 4 (d.address.toNat % 0x100000000) ++
        LittleEndian.encode 4 (d.address.toNat / 0x100000000) ++
        LittleEndian.encode 4 d.params.toNat) ∧
    (∀ bs : Bytes, bs.length = 12 → ∃! d : MemDesc, Wire.encode d = bs) ∧
    Access.Lens 20 (fun d => Allocation.Revision.v3.run (.set (.frameBuffer d)))
      (Allocation.Revision.v3.run (.get .frameBuffer)) ∧
    ∀ b : Bytes, 60 ≤ b.length → ∀ s, ∃ b',
      BootArgs.Revision.v6.run (.set (.superSurface s)) b = (.ok (), b') ∧
      BootArgs.superSurface b' = (.ok (ofSurface s), b') := by
  refine ⟨?parts, pack_unpack, ?bytes, fun _ h => existsUnique_encode h, ?frameBuffer, ?superSurface⟩
  case parts => exact fun address size index => ⟨rfl, size_pack _ _ _, index_pack _ _ _⟩
  case bytes => exact fun d => ⟨Wire.length_encode d, encode_eq d⟩
  case frameBuffer => exact (⟨8⟩ : Field MemDesc).lens (by decide)
  case superSurface =>
    intro b hb s
    have fits : BootArgs.Field.superSurface.stop ≤ BootArgs.Revision.v6.size := by decide
    exact (Field.lens fits).get_set b hb (ofSurface s)

theorem lossless_descriptor_oversized :
    let s : Surface := ⟨0x123456789a, 0xff001000⟩
    let b : Bytes := List.replicate 64 0xff
    (∃ b', BootArgs.Revision.v6.run (.set (.superSurface s)) b = (.ok (), b') ∧
        BootArgs.superSurface b' = (.ok (ofSurface s), b')) ∧
      (ofSurface s).size.toNat = 0x1000 ∧ (ofSurface s).index = 1 ∧
      (∃ d, Allocation.Revision.v3.run (.get .frameBuffer) b = (.ok d, b) ∧
        Allocation.Revision.v3.run (.set (.frameBuffer d)) b = (.ok (), b)) ∧
      ∃! d : MemDesc, Wire.encode d = List.replicate 12 0xff := by
  intro s b
  obtain ⟨parts, -, -, bytes, frameBuffer, superSurface⟩ := lossless_descriptor
  obtain ⟨-, hsize, hindex⟩ := parts s.address s.size surfaceIndex
  refine ⟨superSurface b (by decide) s, hsize.trans (by decide), hindex, frameBuffer.set_get b (by decide), ?_⟩
  exact bytes _ (by decide)

end MemDesc

end FalconPmu
