import FalconPmu.Proofs.Record.Layout
import FalconPmu.Record.PowerGating

namespace FalconPmu.PowerGating

namespace Cell

open FalconPmu.Cell (plain)

def commandType : Cell Update := plain 0 fun
  | .commandType n => some n
  | _ => none

def engineId : Cell Update := plain 1 fun
  | .engineId n => some n
  | _ => none

def bufferIndex : Cell Update := plain 2 fun
  | .bufferIndex n => some n
  | _ => none

def pad : Cell Update := plain 3 fun
  | .pad n => some n
  | _ => none

def bufferSize₀ : Cell Update := plain 4 fun
  | .bufferSize n => some n
  | _ => none

def dmaBase₀ : Cell Update where
  span := ⟨8, 4⟩
  stroke
    | .dmaBase a => .replace (a.toNat % 0x100000000 / 0x100)
    | .dmaAddress a => .replace (a.toNat / 0x100 % 0x100000000)
    | _ => .keep
  bounded u := by
    cases u with
    | dmaBase a =>
      change a.toNat % 0x100000000 / 0x100 < 0x100000000
      omega
    | dmaAddress a => exact Nat.mod_lt _ (by decide)
    | _ => trivial

def dmaOffset₀ : Cell Update where
  span := ⟨12, 1⟩
  stroke
    | .dmaOffset n => .replace n.toNat
    | .dmaAddress a => .replace (a.toNat % 0x100)
    | _ => .keep
  bounded u := by
    cases u with
    | dmaOffset n => exact n.toNat_lt
    | dmaAddress a => exact Nat.mod_lt _ (by decide)
    | _ => trivial

def dmaIndex₀ : Cell Update := plain 13 fun
  | .dmaIndex n => some n
  | _ => none

def address₁ : Cell Update where
  span := ⟨4, 8⟩
  stroke
    | .dmaAddress a => .replace a.toNat
    | .dmaBase a => .merge a.toNat
    | .dmaOffset n => .merge n.toNat
    | _ => .keep
  bounded u := by
    cases u with
    | dmaAddress a => exact a.toNat_lt
    | dmaBase a => exact a.toNat_lt
    | dmaOffset n => exact Nat.lt_trans n.toNat_lt (by decide)
    | _ => trivial

def bufferSize₁ : Cell Update := plain 12 fun
  | .bufferSize n => some n
  | _ => none

def dmaIndex₁ : Cell Update := plain 14 fun
  | .dmaIndex n => some n
  | _ => none

/-- What stands in both halves of a 64-bit word is a multiple of this. -/
def twice : Nat := 0x100000001

def address₂ : Cell Update where
  span := ⟨4, 8⟩
  stroke
    | .dmaAddress a => .replace a.toNat
    | .dmaBase a => .replace (a.toNat % 0x100000000 * twice)
    | .dmaOffset n => .merge (n.toNat * twice)
    | _ => .keep
  bounded u := by
    cases u with
    | dmaAddress a => exact a.toNat_lt
    | dmaBase a =>
      change a.toNat % 0x100000000 * 0x100000001 < 0x10000000000000000
      omega
    | dmaOffset n =>
      have hn := n.toNat_lt
      change n.toNat * 0x100000001 < 0x10000000000000000
      omega
    | _ => trivial

def params₂ : Cell Update where
  span := ⟨12, 4⟩
  stroke
    | .bufferSize n => .replace n.toNat
    | .dmaIndex n => .merge (n.toNat * 0x1000000)
    | _ => .keep
  bounded u := by
    cases u with
    | bufferSize n => exact Nat.lt_trans n.toNat_lt (by decide)
    | dmaIndex n =>
      have hn := n.toNat_lt
      change n.toNat * 0x1000000 < 0x100000000
      omega
    | _ => trivial

end Cell

open FalconPmu.PowerGating.Cell in
def Revision.layout : Revision → Layout Update
  | v0 => {
      size := 16
      cells := [commandType, engineId, bufferIndex, pad, bufferSize₀, dmaBase₀, dmaOffset₀, dmaIndex₀]
      ordered := by decide
      fits := by decide }
  | v1 => {
      size := 16
      cells := [commandType, engineId, bufferIndex, pad, address₁, bufferSize₁, dmaIndex₁]
      ordered := by decide
      fits := by decide }
  | v2 => {
      size := 16
      cells := [commandType, engineId, bufferIndex, pad, address₂, params₂]
      ordered := by decide
      fits := by decide }

theorem toNat_units (a : UInt64) : (a.toUInt32 >>> 8).toNat = a.toNat % 0x100000000 / 0x100 := by
  rw [UInt32.toNat_shiftRight, UInt64.toNat_toUInt32]
  exact Nat.shiftRight_eq_div_pow _ 8

theorem toNat_shiftRight_toUInt32 (a : UInt64) :
    (a >>> 8).toUInt32.toNat = a.toNat / 0x100 % 0x100000000 := by
  rw [UInt64.toNat_toUInt32, UInt64.toNat_shiftRight]
  exact congrArg (· % 0x100000000) (Nat.shiftRight_eq_div_pow _ 8)

theorem mul_twice {n : Nat} (h : n < 0x100000000) : n * Cell.twice = n <<< 32 ||| n := by
  have hshift : n <<< 32 = 0x100000000 * n := (Nat.shiftLeft_eq n 32).trans (Nat.mul_comm n _)
  have hsum : 0x100000000 * n + n = 0x100000000 * n ||| n := Nat.two_pow_add_eq_or_of_lt (i := 32) h n
  rw [hshift, ← hsum]
  change n * 0x100000001 = 0x100000000 * n + n
  omega

theorem toNat_both (n : UInt32) : (both n).toNat = n.toNat * Cell.twice := by
  have hn := n.toNat_lt
  have hhigh : (n.toUInt64 <<< 32).toNat = n.toNat <<< 32 := by
    rw [UInt64.toNat_shiftLeft, UInt32.toNat_toUInt64]
    change n.toNat <<< 32 % 2 ^ 64 = _
    rw [Nat.shiftLeft_eq]
    omega
  rw [both, UInt64.toNat_or, UInt32.toNat_toUInt64, hhigh, Nat.or_comm, mul_twice hn]

theorem modify_address (m : UInt64) {k : Nat} (h : m.toNat = k) (b : Bytes) :
    Field.address.modify (· ||| m) b = Span.write ⟨4, 8⟩ (Span.read ⟨4, 8⟩ b ||| k) b :=
  Field.address.modify_eq_write (fun a => (UInt64.toNat_or a m).trans (congrArg (a.toNat ||| ·) h)) b

theorem apply_eq_paintAll (r : Revision) (u : Update) (b : Bytes) :
    u.apply r b = Cell.paintAll r.layout.cells u b := by
  cases u with
  | commandType n => cases r <;> rfl
  | engineId n => cases r <;> rfl
  | bufferIndex n => cases r <;> rfl
  | pad n => cases r <;> rfl
  | bufferSize n =>
    cases r with
    | v0 | v1 => rfl
    | v2 => exact Field.params.put_eq_write (UInt16.toNat_toUInt32 n) b
  | dmaBase a =>
    cases r with
    | v0 => exact Field.dmaBase₀.put_eq_write (toNat_units a) b
    | v1 => exact modify_address a rfl b
    | v2 =>
      apply Field.address.put_eq_write
      exact (toNat_both a.toUInt32).trans (congrArg (· * Cell.twice) (UInt64.toNat_toUInt32 a))
  | dmaOffset n =>
    cases r with
    | v0 => rfl
    | v1 => exact modify_address n.toUInt64 (UInt8.toNat_toUInt64 n) b
    | v2 =>
      apply modify_address
      exact (toNat_both n.toUInt32).trans (congrArg (· * Cell.twice) (UInt8.toNat_toUInt32 n))
  | dmaIndex n =>
    cases r with
    | v0 | v1 => rfl
    | v2 =>
      have hindex (p : UInt32) :=
        (UInt32.toNat_or p _).trans (congrArg (p.toNat ||| ·) (MemDesc.toNat_shifted n))
      have hparams := Field.params.modify_eq_write hindex b
      exact hparams
  | dmaAddress a =>
    cases r with
    | v0 =>
      have hbase := Field.dmaBase₀.put_eq_write (toNat_shiftRight_toUInt32 a) b
      have hoffset := Field.dmaOffset₀.put_eq_write (UInt64.toNat_toUInt8 a)
      change Field.dmaOffset₀.put a.toUInt8 (Field.dmaBase₀.put (a >>> 8).toUInt32 b) = _
      rw [hbase, hoffset]
      rfl
    | v1 | v2 => rfl

theorem Revision.governs_layout (r : Revision) : r.layout.Governs fun u => r.run (.set u) := by
  intro u b hb
  have hsize : r.size ≤ b.length := by
    cases r <;> exact hb
  rw [← apply_eq_paintAll]
  exact Access.write_of_le hsize (u.apply r)

def Query.Reports : (r : Revision) → (q : Query) → Bytes → q.Answer → Prop
  | _, header, b, h =>
    h.commandType.toNat = Cell.commandType.span.read b ∧ h.engineId.toNat = Cell.engineId.span.read b ∧
      h.bufferIndex.toNat = Cell.bufferIndex.span.read b ∧ h.pad.toNat = Cell.pad.span.read b
  | .v0, bufferSize, b, n => n.toNat = Cell.bufferSize₀.span.read b
  | .v1, bufferSize, b, n => n.toNat = Cell.bufferSize₁.span.read b
  | .v2, bufferSize, b, n => n.toNat = Cell.params₂.span.read b
  | .v0, dmaBase, b, n => n.toNat = Cell.dmaBase₀.span.read b
  | .v1, dmaBase, b, n | .v1, dmaAddress, b, n => n.toNat = Cell.address₁.span.read b
  | .v2, dmaBase, b, n | .v2, dmaAddress, b, n => n.toNat = Cell.address₂.span.read b
  | .v0, dmaIndex, b, n => n.toNat = Cell.dmaIndex₀.span.read b
  | .v1, dmaIndex, b, n => n.toNat = Cell.dmaIndex₁.span.read b
  | .v2, dmaIndex, b, n => n.toNat = Cell.params₂.span.read b / 0x1000000
  | .v0, dmaAddress, b, n =>
    n.toNat = Cell.dmaBase₀.span.read b * 0x100 + Cell.dmaOffset₀.span.read b

theorem toNat_address₀ (base : UInt32) (offset : UInt8) :
    (base.toUInt64 <<< 8 ||| offset.toUInt64).toNat = base.toNat * 0x100 + offset.toNat := by
  have hbase := base.toNat_lt
  have hoffset : offset.toNat < 2 ^ 8 := offset.toNat_lt
  have hhigh : (base.toUInt64 <<< 8).toNat = 2 ^ 8 * base.toNat := by
    rw [UInt64.toNat_shiftLeft, UInt32.toNat_toUInt64]
    change base.toNat <<< 8 % 2 ^ 64 = _
    rw [Nat.shiftLeft_eq]
    omega
  rw [UInt64.toNat_or, UInt8.toNat_toUInt64, hhigh, ← Nat.two_pow_add_eq_or_of_lt hoffset,
    Nat.mul_comm]

theorem Query.reports_value (r : Revision) (q : Query) (b : Bytes) : q.Reports r b (q.value r b) := by
  cases q with
  | header =>
    cases r <;>
      exact ⟨Field.commandType.toNat_get b, Field.engineId.toNat_get b, Field.bufferIndex.toNat_get b,
        Field.pad.toNat_get b⟩
  | bufferSize =>
    cases r with
    | v0 => exact (UInt16.toNat_toUInt32 _).trans (Field.bufferSize₀.toNat_get b)
    | v1 => exact (UInt16.toNat_toUInt32 _).trans (Field.bufferSize₁.toNat_get b)
    | v2 => exact Field.params.toNat_get b
  | dmaBase =>
    cases r with
    | v0 => exact (UInt32.toNat_toUInt64 _).trans (Field.dmaBase₀.toNat_get b)
    | v1 | v2 => exact Field.address.toNat_get b
  | dmaIndex =>
    cases r with
    | v0 => exact Field.dmaIndex₀.toNat_get b
    | v1 => exact Field.dmaIndex₁.toNat_get b
    | v2 => exact (MemDesc.toNat_top _).trans (congrArg (· / 0x1000000) (Field.params.toNat_get b))
  | dmaAddress =>
    cases r with
    | v0 =>
      have hbase := Field.dmaBase₀.toNat_get b
      have hoffset := Field.dmaOffset₀.toNat_get b
      refine (toNat_address₀ _ _).trans ?_
      exact congrArg₂ (fun base offset => base * 0x100 + offset) hbase hoffset
    | v1 | v2 => exact Field.address.toNat_get b

theorem written_command (r : Revision) (us : List Update) {b : Bytes} (hb : 16 ≤ b.length) :
    ∃ b', (us.forM fun u => r.run (.set u)) b = (.ok (), b') ∧ r.layout.Written us b b' ∧
      ∀ q : Query, ∃ a, r.run (.get q) b' = (.ok a, b') ∧ q.Reports r b' a := by
  have hsize : r.layout.size ≤ b.length := by
    cases r <;> exact hb
  have written := r.layout.written_after us hsize
  refine ⟨_, r.governs_layout.forM us hsize, written, ?_⟩
  intro q
  have hlong : r.size ≤ (r.layout.after us b).length := by
    rw [written.length]
    cases r <;> exact hb
  exact ⟨_, Access.read_of_le hlong (q.value r), q.reports_value r _⟩

theorem written_command_gathered :
    let us : List Update := [.dmaAddress 0x123456789abcdef0, .dmaOffset 0x80, .dmaBase 0x2000001000,
      .dmaOffset 1, .dmaIndex 4, .dmaOffset 6, .bufferSize 0x40, .dmaIndex 2, .dmaIndex 8]
    let b : Bytes := List.replicate 17 0xff
    16 ≤ b.length ∧ ∃ b', (us.forM fun u => Revision.v2.run (.set u)) b = (.ok (), b') ∧
      Cell.address₂.span.read b' = 0x100700001007 ∧ Cell.params₂.span.read b' = 0xa000040 ∧
      b'[0]? = some 0xff ∧ b'[16]? = some 0xff := by
  intro us b
  have hb : 16 ≤ b.length := by decide
  obtain ⟨b', run, written, -⟩ := written_command .v2 us hb
  refine ⟨hb, b', run, ?_, ?_, ?_, ?_⟩
  · exact (written.cells Cell.address₂ (by simp [Revision.layout]) _ (.refl _)).trans (by decide)
  · exact (written.cells Cell.params₂ (by simp [Revision.layout]) _ (.refl _)).trans (by decide)
  · exact written.elsewhere 0 (by decide)
  · exact written.elsewhere 16 (by decide)

end FalconPmu.PowerGating
