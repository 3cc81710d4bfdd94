import FalconPmu.Family
import FalconPmu.Record.Allocation
import FalconPmu.Record.BootArgs
import FalconPmu.Record.Counter
import FalconPmu.Record.InitMessage
import FalconPmu.Record.PowerGating
import FalconPmu.Record.Sampling

namespace FalconPmu

structure Versions where
  powerGating : Nat
  counter : Nat
  bootArgs : Nat
  allocation : Nat
  initMessage : Nat
  sampling : Nat
  deriving DecidableEq

def Versions.outline (v : Versions) : Outline :=
  .fields "AbiVersions" [
    ("pg", .atom (toString v.powerGating)),
    ("perfmon_counter", .atom (toString v.counter)),
    ("cmdline", .atom (toString v.bootArgs)),
    ("allocation", .atom (toString v.allocation)),
    ("init_msg", .atom (toString v.initMessage)),
    ("perfmon_cmd", .atom (toString v.sampling))]

structure Bundle where
  family : Family
  versions : Versions
  zbcSave : Bool
  powerGating : PowerGating.Revision
  counter : Counter.Revision
  bootArgs : BootArgs.Revision
  allocation : Allocation.Revision
  initMessage : InitMessage.Revision
  sampling : Sampling.Revision

namespace Bundle

/-- Bundles are told apart by their family alone. -/
instance : BEq Bundle := ⟨fun a b => a.family == b.family⟩

instance : BEq (Except Fault Bundle) where
  beq
    | .ok a, .ok b => a == b
    | .error d, .error e => d == e
    | _, _ => false

def ofFamily : Family → Bundle
  | .gm20b => ⟨.gm20b, ⟨0, 2, 3, 1, 1, 1⟩, true, .v0, .v2, .v3, .v1, .v1, .v1⟩
  | .gp10b => ⟨.gp10b, ⟨1, 2, 4, 2, 1, 2⟩, true, .v1, .v2, .v4, .v2, .v1, .v2⟩
  | .gp10x => ⟨.gp10x, ⟨2, 2, 5, 3, 3, 3⟩, true, .v2, .v2, .v5, .v3, .v3, .v3⟩
  | .gv11b => ⟨.gv11b, ⟨2, 2, 6, 3, 4, 3⟩, false, .v2, .v2, .v6, .v3, .v4, .v3⟩
  | .gv10x => ⟨.gv10x, ⟨2, 2, 6, 3, 5, 3⟩, false, .v2, .v2, .v6, .v3, .v5, .v3⟩
  | .tu10x => ⟨.tu10x, ⟨2, 2, 6, 3, 5, 3⟩, false, .v2, .v2, .v6, .v3, .v5, .v3⟩

def select (version : UInt32) : Except Fault Bundle := (Family.ofNumber version).map ofFamily

def zbcUpdateCommand (_ : Bundle) : UInt32 := 16

def counterIndex (_ : Bundle) : UInt8 := 3

def counterGroup (_ : Bundle) : UInt8 := 0

def pinCounter (b : Bundle) : Access Unit := do
  b.counter.run (.set (.index b.counterIndex))
  b.counter.run (.set (.groupId b.counterGroup))

theorem pinCounter_eq (b : Bundle) :
    b.pinCounter = Access.write b.counter.size fun buffer =>
      (Counter.Update.groupId b.counterGroup).apply
        ((Counter.Update.index b.counterIndex).apply buffer) :=
  Access.write_bind_write (Counter.Update.length_apply _)

theorem length_pinCounter (b : Bundle) (buffer : Bytes) :
    (b.pinCounter buffer).2.length = buffer.length := by
  rw [pinCounter_eq]
  apply Access.length_write
  simp

theorem pinCounter_ok (b : Bundle) {buffer : Bytes} (sized : buffer.length = 12) :
    (b.pinCounter buffer).1 = .ok () := by
  have hsize : b.counter.size ≤ buffer.length := Nat.le_of_eq (b.counter.size_eq.trans sized.symm)
  rw [pinCounter_eq, Access.write_of_le hsize]

def outline (b : Bundle) : Outline :=
  .fields "AbiBundle" [
    ("family", .atom b.family.name),
    ("versions", b.versions.outline),
    ("zbc_save", .atom (toString b.zbcSave))]

end Bundle

end FalconPmu
