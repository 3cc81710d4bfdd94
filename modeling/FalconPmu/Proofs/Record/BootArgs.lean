import FalconPmu.Proofs.Record.Layout
import FalconPmu.Record.BootArgs

namespace FalconPmu.BootArgs

open Stroke (latest)

namespace Cell

open FalconPmu.Cell (plain)

def surfaceAddress (offset : Nat) (given : Update → Option Surface) : Cell Update :=
  plain offset fun u => (given u).map Surface.address

def surfaceSize (offset : Nat) (given : Update → Option Surface) : Cell Update where
  span := ⟨offset + 8, 3⟩
  stroke u :=
    match given u with
    | some s => .replace (s.size.toNat % 0x1000000)
    | none => .keep
  bounded u := by
    cases given u with
    | some s => exact Nat.mod_lt _ (by decide)
    | none => trivial

def surfaceIndex (offset : Nat) (given : Update → Option Surface) : Cell Update :=
  plain (offset + 11) fun u => (given u).map fun _ => (1 : UInt8)

def cpuFrequency₃ : Cell Update := plain 4 fun
  | .cpuFrequency hz => some hz
  | _ => none

def cpuFrequency₅ : Cell Update := plain 0 fun
  | .cpuFrequency _ => some (204000000 : UInt32)
  | _ => none

def secureMode (offset : Nat) : Cell Update := plain offset fun
  | .secureMode n => some n
  | _ => none

def traceSize₃ : Cell Update := plain 8 fun
  | .traceSize n => some n
  | _ => none

def traceIndex₃ (offset : Nat) : Cell Update := plain offset fun
  | .traceIndex n => some n
  | _ => none

def traceBase₃ (width : Nat) (h : 4 ≤ width) : Cell Update where
  span := ⟨12, width⟩
  stroke
    | .traceBase s => .replace (s.address.toNat % 0x100000000 / 0x100)
    | _ => .keep
  bounded u := by
    cases u with
    | traceBase s =>
      have hcount : LittleEndian.count 4 ≤ LittleEndian.count width := LittleEndian.count_le_count h
      change s.address.toNat % 0x100000000 / 0x100 < LittleEndian.count width
      change 0x100000000 ≤ LittleEndian.count width at hcount
      omega
    | _ => trivial

def traceOffset₄ : Cell Update := plain 20 fun
  | .traceBase _ => some (0 : UInt8)
  | _ => none

def trace? : Update → Option Surface
  | .traceBase s => some s
  | _ => none

def super? : Update → Option Surface
  | .superSurface s => some s
  | _ => none

def superAddress : Cell Update := surfaceAddress 44 super?

def superSize : Cell Update := surfaceSize 44 super?

def superIndex : Cell Update := surfaceIndex 44 super?

theorem merged_surfaceSize (offset : Nat) (given : Update → Option Surface) (u : Update) :
    ((surfaceSize offset given).stroke u).merged? = none := by
  simp only [surfaceSize]
  cases given u <;> rfl

end Cell

def Revision.cell : Revision → Query → Cell Update
  | v3, .cpuFrequency | v4, .cpuFrequency => Cell.cpuFrequency₃
  | v5, .cpuFrequency | v6, .cpuFrequency => Cell.cpuFrequency₅
  | v3, .secureMode => Cell.secureMode 20
  | v4, .secureMode => Cell.secureMode 28
  | v5, .secureMode | v6, .secureMode => Cell.secureMode 16
  | v3, .traceSize | v4, .traceSize => Cell.traceSize₃
  | v5, .traceSize | v6, .traceSize => Cell.surfaceSize 4 Cell.trace?
  | v3, .traceBase => Cell.traceBase₃ 4 (by decide)
  | v4, .traceBase => Cell.traceBase₃ 8 (by decide)
  | v5, .traceBase | v6, .traceBase => Cell.surfaceAddress 4 Cell.trace?
  | v3, .traceIndex => Cell.traceIndex₃ 16
  | v4, .traceIndex => Cell.traceIndex₃ 24
  | v5, .traceIndex | v6, .traceIndex => Cell.surfaceIndex 4 Cell.trace?

def Revision.layout : Revision → Layout Update
  | v3 => {
      size := 32
      cells := [v3.cell .cpuFrequency, v3.cell .traceSize, v3.cell .traceBase, v3.cell .traceIndex,
        v3.cell .secureMode]
      ordered := by decide
      fits := by decide }
  | v4 => {
      size := 48
      cells := [v4.cell .cpuFrequency, v4.cell .traceSize, v4.cell .traceBase, Cell.traceOffset₄,
        v4.cell .traceIndex, v4.cell .secureMode]
      ordered := by decide
      fits := by decide }
  | v5 => {
      size := 48
      cells := [v5.cell .cpuFrequency, v5.cell .traceBase, v5.cell .traceSize, v5.cell .traceIndex,
        v5.cell .secureMode]
      ordered := by decide
      fits := by decide }
  | v6 => {
      size := 60
      cells := [v6.cell .cpuFrequency, v6.cell .traceBase, v6.cell .traceSize, v6.cell .traceIndex,
        v6.cell .secureMode, Cell.superAddress, Cell.superSize, Cell.superIndex]
      ordered := by decide
      fits := by decide }

theorem toNat_traceUnits (s : Surface) :
    (traceUnits s).toNat = s.address.toNat % 0x100000000 / 0x100 := by
  rw [traceUnits, UInt32.toNat_div, UInt64.toNat_toUInt32]
  rfl

theorem effect_eq_paintAll (r : Revision) (u : Update) (b : Bytes) :
    (u.effect r).getD id b = Cell.paintAll r.layout.cells u b := by
  cases u with
  | cpuFrequency hz => cases r <;> rfl
  | secureMode n => cases r <;> rfl
  | traceSize n => cases r <;> rfl
  | traceIndex n => cases r <;> rfl
  | traceBase s =>
    cases r with
    | v3 => exact Field.traceBase₃.put_eq_write (toNat_traceUnits s) b
    | v4 =>
      have hunits := (UInt32.toNat_toUInt64 (traceUnits s)).trans (toNat_traceUnits s)
      have hbase := Field.traceBase₄.put_eq_write hunits b
      exact congrArg (Field.traceOffset₄.put 0) hbase
    | v5 | v6 => exact Field.trace.put_pack s.address s.size MemDesc.surfaceIndex b
  | superSurface s =>
    cases r with
    | v3 | v4 | v5 => rfl
    | v6 => exact Field.superSurface.put_pack s.address s.size MemDesc.surfaceIndex b

theorem Revision.size_layout (r : Revision) : r.layout.size = r.size := by
  cases r <;> rfl

theorem Revision.governs_layout (r : Revision) : r.layout.Governs fun u => r.run (.set u) := by
  intro u b hb
  rw [r.size_layout] at hb
  rw [← effect_eq_paintAll]
  simp only [run]
  cases u.effect r with
  | some change => exact Access.write_of_le hb change
  | none => rfl

def Query.number : (q : Query) → q.Answer → Nat
  | secureMode, n => n.toNat
  | traceBase, n => n.toNat
  | cpuFrequency, n | traceSize, n | traceIndex, n => n.toNat

theorem Query.number_value (r : Revision) (q : Query) {b : Bytes} (hb : r.size ≤ b.length) :
    q.number (q.value r b) = (r.cell q).span.read b := by
  cases q with
  | cpuFrequency => cases r <;> exact Field.toNat_get (Revision.cpuFrequency _) b
  | secureMode => cases r <;> exact Field.toNat_get (Revision.secureMode _) b
  | traceSize =>
    cases r with
    | v3 | v4 => exact Field.traceSize.toNat_get b
    | v5 | v6 => exact Field.trace.toNat_size_get (Nat.le_trans (by decide) hb)
  | traceBase =>
    cases r with
    | v3 => exact (UInt32.toNat_toUInt64 _).trans (Field.traceBase₃.toNat_get b)
    | v4 => exact Field.traceBase₄.toNat_get b
    | v5 | v6 => exact Field.trace.toNat_address_get b
  | traceIndex =>
    cases r with
    | v3 => exact Field.traceIndex₃.toNat_get b
    | v4 => exact Field.traceIndex₄.toNat_get b
    | v5 | v6 =>
      exact (UInt8.toNat_toUInt32 _).trans (Field.trace.toNat_index_get (Nat.le_trans (by decide) hb))

theorem Revision.cell_mem_layout (r : Revision) (q : Query) : r.cell q ∈ r.layout.cells := by
  cases r <;> cases q <;> simp [layout]

theorem Revision.merged_cell (r : Revision) (q : Query) (u : Update) :
    ((r.cell q).stroke u).merged? = none := by
  cases q with
  | cpuFrequency => cases r <;> exact FalconPmu.Cell.merged_plain _ _ u
  | secureMode => cases r <;> exact FalconPmu.Cell.merged_plain _ _ u
  | traceSize =>
    cases r with
    | v3 | v4 => exact FalconPmu.Cell.merged_plain _ _ u
    | v5 | v6 => exact Cell.merged_surfaceSize _ _ u
  | traceBase =>
    cases r with
    | v3 | v4 => cases u <;> rfl
    | v5 | v6 => exact FalconPmu.Cell.merged_plain _ _ u
  | traceIndex => cases r <;> exact FalconPmu.Cell.merged_plain _ _ u

/-- The descriptor of the super surface after a run of updates, from the one before it. -/
structure Redescribed (us : List Update) (d d' : MemDesc) : Prop where
  address : d'.address.toNat = latest (us.map Cell.superAddress.stroke) d.address.toNat
  size : d'.size.toNat = latest (us.map Cell.superSize.stroke) d.size.toNat
  index : d'.index.toNat = latest (us.map Cell.superIndex.stroke) d.index.toNat

theorem redescribed_superSurface {us : List Update} {b b' : Bytes}
    (written : Revision.v6.layout.Written us b b') (hb : Revision.v6.size ≤ b.length) :
    Redescribed us (Field.superSurface.get b) (Field.superSurface.get b') := by
  have hstop : Field.superSurface.stop ≤ b.length := Nat.le_trans (by decide) hb
  have hstop' : Field.superSurface.stop ≤ b'.length := by
    rw [written.length]
    exact hstop
  refine ⟨?_, ?_, ?_⟩
  · rw [Field.toNat_address_get, Field.toNat_address_get]
    exact written.read_eq_latest (c := Cell.superAddress) (by simp [Revision.layout])
      (FalconPmu.Cell.merged_plain _ _)
  · rw [Field.toNat_size_get _ hstop, Field.toNat_size_get _ hstop']
    exact written.read_eq_latest (c := Cell.superSize) (by simp [Revision.layout])
      (Cell.merged_surfaceSize _ _)
  · rw [Field.toNat_index_get _ hstop, Field.toNat_index_get _ hstop']
    exact written.read_eq_latest (c := Cell.superIndex) (by simp [Revision.layout])
      (FalconPmu.Cell.merged_plain _ _)

theorem written_block (r : Revision) (us : List Update) {b : Bytes} (hb : r.size ≤ b.length) :
    ∃ b', (us.forM fun u => r.run (.set u)) b = (.ok (), b') ∧ r.layout.Written us b b' ∧
      (∀ q : Query, ∃ a a', r.run (.get q) b = (.ok a, b) ∧ r.run (.get q) b' = (.ok a', b') ∧
        q.number a' = latest (us.map (r.cell q).stroke) (q.number a)) ∧
      (r = .v6 → ∃ d d', superSurface b = (.ok d, b) ∧ superSurface b' = (.ok d', b') ∧
        Redescribed us d d') := by
  have hsize : r.layout.size ≤ b.length := by
    rw [r.size_layout]
    exact hb
  have written := r.layout.written_after us hsize
  have hb' : r.size ≤ (r.layout.after us b).length := by
    rw [written.length]
    exact hb
  refine ⟨_, r.governs_layout.forM us hsize, written, ?_, ?_⟩
  · intro q
    refine ⟨_, _, Access.read_of_le hb (q.value r), Access.read_of_le hb' (q.value r), ?_⟩
    rw [q.number_value r hb, q.number_value r hb']
    exact written.read_eq_latest (r.cell_mem_layout q) (r.merged_cell q)
  · rintro rfl
    exact ⟨_, _, Access.read_of_le hb _, Access.read_of_le hb' _, redescribed_superSurface written hb⟩

theorem written_block_traced :
    let us : List Update := [.traceSize 7, .superSurface ⟨0x10, 0x20⟩,
      .traceBase ⟨0x123456789a, 0x5000030⟩, .cpuFrequency 1000, .traceIndex 9,
      .superSurface ⟨0x4000, 0x1000040⟩, .traceSize 8]
    let b : Bytes := List.replicate 61 0xff
    Revision.v6.size ≤ b.length ∧ ∃ b', (us.forM fun u => Revision.v6.run (.set u)) b = (.ok (), b') ∧
      (∃ a, Revision.v6.run (.get .traceSize) b' = (.ok a, b') ∧ a.toNat = 0x30) ∧
      (∃ a, Revision.v6.run (.get .secureMode) b' = (.ok a, b') ∧ a.toNat = 0xff) ∧
      (∃ d, superSurface b' = (.ok d, b') ∧ d.address.toNat = 0x4000 ∧ d.size.toNat = 0x40) ∧
      b'[32]? = some 0xff ∧ b'[60]? = some 0xff := by
  intro us b
  have hb : Revision.v6.size ≤ b.length := by decide
  obtain ⟨b', run, written, answers, described⟩ := written_block .v6 us hb
  refine ⟨hb, b', run, ?_, ?_, ?_, ?_, ?_⟩
  · obtain ⟨a, a', -, hget, hlatest⟩ := answers .traceSize
    exact ⟨a', hget, hlatest⟩
  · obtain ⟨a, a', hbefore, hget, hlatest⟩ := answers .secureMode
    have ha : a = 0xff := by
      rw [← Except.ok.inj (congrArg Prod.fst hbefore)]
      decide
    refine ⟨a', hget, hlatest.trans ?_⟩
    rw [ha]
    rfl
  · obtain ⟨d, d', -, hget, redescribed⟩ := described rfl
    exact ⟨d', hget, redescribed.address, redescribed.size⟩
  · exact written.elsewhere 32 (by decide)
  · exact written.elsewhere 60 (by decide)

end FalconPmu.BootArgs
