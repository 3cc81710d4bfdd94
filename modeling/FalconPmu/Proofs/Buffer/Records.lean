import FalconPmu.Bundle
import FalconPmu.Proofs.Buffer.Confinement
import FalconPmu.Proofs.Buffer.Piece

namespace FalconPmu

open Access (Confined Serves)
open Bytes (Reads Writes)
open FalconPmu.Field (reads_get writes_put writes_modify)

namespace Counter

theorem reads_ofBytes (r : Revision) : Reads r.size ofBytes := by
  cases r
  intro head rest hhead
  simp only [ofBytes]
  congr 1
  all_goals exact reads_get (by decide) head rest hhead

theorem writes_apply (r : Revision) (u : Update) : Writes r.size u.apply := by
  cases r
  cases u <;> exact writes_put (by decide) _

namespace Revision

theorem confined_counter (r : Revision) : Confined r.size (r.run .counter) :=
  Access.confined_read (reads_ofBytes r)

theorem confined_set (r : Revision) (u : Update) : Confined r.size (r.run (.set u)) :=
  Access.confined_write (writes_apply r u)

end Revision

end Counter

theorem Bundle.confined_pinCounter (b : Bundle) : Confined b.counter.size b.pinCounter :=
  (b.counter.confined_set _).bind fun _ => (b.counter.confined_set _).serves

namespace BootArgs

theorem reads_value (r : Revision) (q : Query) : Reads r.size (q.value r) := by
  cases q with
  | cpuFrequency => cases r <;> exact reads_get (by decide)
  | secureMode => cases r <;> exact reads_get (by decide)
  | traceSize =>
    cases r with
    | v3 | v4 => exact reads_get (by decide)
    | v5 | v6 => exact (reads_get (f := Field.trace) (by decide)).map MemDesc.size
  | traceBase =>
    cases r with
    | v3 => exact (reads_get (f := Field.traceBase₃) (by decide)).map UInt32.toUInt64
    | v4 => exact reads_get (by decide)
    | v5 | v6 => exact (reads_get (f := Field.trace) (by decide)).map MemDesc.address
  | traceIndex =>
    cases r with
    | v3 | v4 => exact reads_get (by decide)
    | v5 | v6 => exact (reads_get (f := Field.trace) (by decide)).map fun d => d.index.toUInt32

theorem writes_effect {r : Revision} {u : Update} {change : Bytes → Bytes}
    (h : u.effect r = some change) : Writes r.size change := by
  cases u with
  | cpuFrequency hz => cases r <;> cases h <;> exact writes_put (by decide) _
  | secureMode n => cases r <;> cases h <;> exact writes_put (by decide) _
  | traceSize n => cases r <;> cases h <;> exact writes_put (by decide) _
  | traceIndex n => cases r <;> cases h <;> exact writes_put (by decide) _
  | superSurface s =>
    cases r <;> cases h
    exact writes_put (by decide) _
  | traceBase s =>
    cases r with
    | v4 =>
      cases h
      exact (writes_put (f := Field.traceBase₄) (by decide) _).comp
        (writes_put (f := Field.traceOffset₄) (by decide) _)
    | v3 | v5 | v6 =>
      cases h
      exact writes_put (by decide) _

namespace Revision

theorem confined_get (r : Revision) (q : Query) : Confined r.size (r.run (.get q)) :=
  Access.confined_read (reads_value r q)

theorem confined_set {r : Revision} {u : Update} {change : Bytes → Bytes}
    (h : u.effect r = some change) : Confined r.size (r.run (.set u)) := by
  rw [run, h]
  exact Access.confined_write (writes_effect h)

theorem run_set_of_no_effect {r : Revision} {u : Update} (h : u.effect r = none) :
    r.run (.set u) = pure () := by
  rw [run, h]

end Revision

end BootArgs

namespace Allocation.Revision

theorem frameBuffer_stop_le {r : Revision} {f : FalconPmu.Field MemDesc}
    (h : r.frameBuffer = .ok f) : f.stop ≤ r.size := by
  cases r <;> cases h
  decide

theorem confined_dmemSize (r : Revision) : Confined r.size (r.run (.get .dmemSize)) :=
  Access.confined_read (reads_get (by cases r <;> decide))

theorem confined_dmemOffset (r : Revision) : Confined r.size (r.run (.get .dmemOffset)) :=
  Access.confined_read (reads_get (by cases r <;> decide))

theorem confined_setDmemSize (r : Revision) (n : UInt16) :
    Confined r.size (r.run (.set (.dmemSize n))) :=
  Access.confined_write (writes_put (by cases r <;> decide) n)

theorem confined_setDmemOffset (r : Revision) (n : UInt32) :
    Confined r.size (r.run (.set (.dmemOffset n))) :=
  Access.confined_write (writes_put (by cases r <;> decide) n)

theorem confined_frameBuffer {r : Revision} {f : FalconPmu.Field MemDesc}
    (h : r.frameBuffer = .ok f) : Confined r.size (r.run (.get .frameBuffer)) := by
  have hrun : r.run (.get .frameBuffer) = Access.read r.size f.get := by
    rw [run, h]
    rfl
  rw [hrun]
  exact Access.confined_read (reads_get (frameBuffer_stop_le h))

theorem confined_setFrameBuffer {r : Revision} {f : FalconPmu.Field MemDesc}
    (h : r.frameBuffer = .ok f) (d : MemDesc) : Confined r.size (r.run (.set (.frameBuffer d))) := by
  have hrun : r.run (.set (.frameBuffer d)) = Access.write r.size (f.put d) := by
    rw [run, h]
    rfl
  rw [hrun]
  exact Access.confined_write (writes_put (frameBuffer_stop_le h) d)

theorem run_frameBuffer_of_error {r : Revision} {e : Fault} (h : r.frameBuffer = .error e) :
    r.run (.get .frameBuffer) = Access.fail e := by
  rw [run, h]
  rfl

theorem run_setFrameBuffer_of_error {r : Revision} {e : Fault} (h : r.frameBuffer = .error e)
    (d : MemDesc) : r.run (.set (.frameBuffer d)) = Access.fail e := by
  rw [run, h]
  rfl

end Allocation.Revision

namespace InitMessage

theorem Entry.reads_placement {e : Entry} {size : Nat} (hsize : e.size.stop ≤ size)
    (hoffset : e.offset.stop ≤ size) (hindex : e.index.stop ≤ size) : Reads size e.placement := by
  intro head rest hhead
  rw [placement, placement, reads_get hsize head rest hhead, reads_get hoffset head rest hhead,
    reads_get hindex head rest hhead]

namespace Tables

/-- The entries of every queue end within the record. As the entries of a table stand in order, so do
those before them. -/
structure Fits (t : Tables) (size : Nat) : Prop where
  start : t.start.stop ≤ size
  index : ∀ q, (t.index (t.entry q)).stop ≤ size
  sizes : ∀ q, (t.size (t.entry q)).stop ≤ size

theorem reads_sizeWord {t : Tables} {size i n : Nat} (h : (t.size n).stop ≤ size) (hi : i ≤ n) :
    Reads size fun b => t.sizeWord b i := by
  have hstop : (t.size i).stop ≤ size := by
    simp only [Tables.size, Field.stop] at h ⊢
    omega
  exact (reads_get hstop).map UInt16.toUInt32

theorem reads_roomBefore {t : Tables} {size i n : Nat} (h : (t.size n).stop ≤ size) (hi : i ≤ n) :
    Reads size fun b => t.roomBefore b i := by
  induction i with
  | zero =>
    intro head rest hhead
    rfl
  | succ i ih =>
    intro head rest hhead
    have hbefore := ih (by omega) head rest hhead
    have hword := reads_sizeWord h (show i ≤ n by omega) head rest hhead
    simp only [roomBefore] at hbefore hword ⊢
    rw [hbefore, hword]

theorem Fits.reads_placement {t : Tables} {size : Nat} (h : t.Fits size) (q : Queue) :
    Reads size (t.placement q) := by
  intro head rest hhead
  have hroom := reads_roomBefore (h.sizes q) (Nat.le_refl _) head rest hhead
  have hword := reads_sizeWord (h.sizes q) (Nat.le_refl _) head rest hhead
  simp only at hroom hword
  rw [placement, placement, reads_get h.start head rest hhead, reads_get (h.index q) head rest hhead,
    hroom, hword]

end Tables

namespace Revision

theorem fits_tables {r : Revision} {t : Tables} (h : r.tables = some t) : t.Fits r.size := by
  cases r <;> cases h <;>
    exact ⟨by decide, fun q => by cases q <;> decide, fun q => by cases q <;> decide⟩

theorem reads_placement (r : Revision) (q : Queue) : Reads r.size (r.placement q) := by
  rw [placement]
  cases h : r.tables with
  | some t => exact (fits_tables h).reads_placement q
  | none =>
    cases r <;> cases h
    cases q <;> exact Entry.reads_placement (by decide) (by decide) (by decide)

theorem confined_queue (r : Revision) (q : Queue) : Confined r.size (r.run (.queue q)) :=
  Access.confined_read (reads_placement r q)

theorem confined_managedAreaOffset (r : Revision) : Confined r.size (r.run .managedAreaOffset) :=
  Access.confined_read (reads_get (by cases r <;> decide))

theorem confined_managedAreaSize (r : Revision) : Confined r.size (r.run .managedAreaSize) :=
  Access.confined_read (reads_get (by cases r <;> decide))

end Revision

end InitMessage

namespace Sampling

namespace Revision

theorem reads_start (r : Revision) : Reads (r.size .start) Start.ofBytes := by
  intro head rest hhead
  simp only [Start.ofBytes]
  congr 1
  all_goals exact reads_get (by cases r <;> decide) head rest hhead

theorem reads_init (r : Revision) : Reads (r.size .init) r.init := by
  intro head rest hhead
  simp only [init]
  congr 1
  all_goals exact reads_get (by cases r <;> decide) head rest hhead

def piece (r : Revision) : Update → Piece
  | .startCommandType n => Field.commandType.piece n
  | .startGroupId n => Field.startGroupId.piece n
  | .startStateId n => Field.startStateId.piece n
  | .startFlags n => Field.startFlags.piece n
  | .initCommandType n => Field.commandType.piece n
  | .initSampleBuffer n => r.initSampleBuffer.piece n
  | .initDecreaseCount n => Field.initDecreaseCount.piece n
  | .initBaseCounterId n => Field.initBaseCounterId.piece n
  | .initSamplePeriod n => Field.initSamplePeriod.piece n
  | .initCounterCount n => r.initCounterCount.piece n
  | .initMovingAverage n => r.initMovingAverage.piece n

theorem apply_eq_write (r : Revision) (u : Update) : r.apply u = (r.piece u).write := by
  cases u <;> rfl

theorem stop_piece_le (r : Revision) (u : Update) : (r.piece u).stop ≤ r.size u.shape := by
  cases u <;> simp only [piece, Field.stop_piece, Update.shape] <;> cases r <;> decide

theorem clear_piece (r : Revision) (u : Update) :
    (r.piece u).stop ≤ u.shape.allocationOffset ∨
      u.shape.allocationOffset + r.allocationSize ≤ (r.piece u).offset := by
  cases u <;> simp only [piece, Field.offset_piece, Field.stop_piece, Update.shape] <;> cases r <;>
    decide

theorem confined_start (r : Revision) : Confined (r.size .start) (r.run .start) :=
  Access.confined_read (reads_start r)

theorem confined_startFlags (r : Revision) : Confined (r.size .start) (r.run .startFlags) :=
  Access.confined_read (reads_get (by cases r <;> decide))

theorem confined_init (r : Revision) : Confined (r.size .init) (r.run .init) :=
  Access.confined_read (reads_init r)

theorem confined_set (r : Revision) (u : Update) : Confined (r.size u.shape) (r.set u) := by
  apply Access.confined_write
  rw [apply_eq_write]
  exact Bytes.writes_splice (r.stop_piece_le u)

end Revision

theorem Command.shape_of_mem_updates (c : Command) : ∀ u ∈ c.updates, u.shape = c.shape := by
  cases c <;> simp [updates, shape, Update.shape]

theorem Command.updates_ne_nil (c : Command) : c.updates ≠ [] := by
  cases c <;> exact List.cons_ne_nil _ _

theorem Revision.confined_pack (r : Revision) (c : Command) : Confined (r.size c.shape) (r.pack c) := by
  have hupdates : Confined (r.size c.shape) (c.updates.forM r.set) := by
    apply Access.confined_forM c.updates_ne_nil
    intro u hu
    rw [← c.shape_of_mem_updates u hu]
    exact r.confined_set u
  exact hupdates.bind fun _ => Access.serves_pure _ _

end Sampling

namespace PowerGating

theorem reads_header (r : Revision) : Reads r.size Header.ofBytes := by
  intro head rest hhead
  simp only [Header.ofBytes]
  congr 1
  all_goals exact reads_get (by cases r <;> decide) head rest hhead

theorem reads_value (r : Revision) (q : Query) : Reads r.size (q.value r) := by
  cases q with
  | header => cases r <;> exact reads_header _
  | bufferSize =>
    cases r with
    | v0 => exact (reads_get (f := Field.bufferSize₀) (by decide)).map UInt16.toUInt32
    | v1 => exact (reads_get (f := Field.bufferSize₁) (by decide)).map UInt16.toUInt32
    | v2 => exact reads_get (by decide)
  | dmaBase =>
    cases r with
    | v0 => exact (reads_get (f := Field.dmaBase₀) (by decide)).map UInt32.toUInt64
    | v1 | v2 => exact reads_get (by decide)
  | dmaIndex =>
    cases r with
    | v0 | v1 => exact reads_get (by decide)
    | v2 => exact (reads_get (f := Field.params) (by decide)).map fun n => (n >>> 24).toUInt8
  | dmaAddress =>
    cases r with
    | v0 =>
      intro head rest hhead
      simp only [Query.value]
      rw [reads_get (f := Field.dmaBase₀) (by decide) head rest hhead,
        reads_get (f := Field.dmaOffset₀) (by decide) head rest hhead]
    | v1 | v2 => exact reads_get (by decide)

theorem writes_apply (r : Revision) (u : Update) : Writes r.size (u.apply r) := by
  cases u with
  | commandType n => cases r <;> exact writes_put (by decide) n
  | engineId n => cases r <;> exact writes_put (by decide) n
  | bufferIndex n => cases r <;> exact writes_put (by decide) n
  | pad n => cases r <;> exact writes_put (by decide) n
  | bufferSize n => cases r <;> exact writes_put (by decide) _
  | dmaBase a =>
    cases r with
    | v0 | v2 => exact writes_put (by decide) _
    | v1 => exact writes_modify (f := Field.address) (by decide) (· ||| a)
  | dmaOffset n =>
    cases r with
    | v0 => exact writes_put (by decide) n
    | v1 => exact writes_modify (f := Field.address) (by decide) (· ||| n.toUInt64)
    | v2 => exact writes_modify (f := Field.address) (by decide) (· ||| both n.toUInt32)
  | dmaIndex n =>
    cases r with
    | v0 | v1 => exact writes_put (by decide) n
    | v2 => exact writes_modify (f := Field.params) (by decide) (· ||| n.toUInt32 <<< 24)
  | dmaAddress a =>
    cases r with
    | v0 =>
      exact (writes_put (f := Field.dmaBase₀) (by decide) _).comp
        (writes_put (f := Field.dmaOffset₀) (by decide) _)
    | v1 | v2 => exact writes_put (by decide) a

namespace Revision

theorem confined_get (r : Revision) (q : Query) : Confined r.size (r.run (.get q)) :=
  Access.confined_read (reads_value r q)

theorem confined_set (r : Revision) (u : Update) : Confined r.size (r.run (.set u)) :=
  Access.confined_write (writes_apply r u)

end Revision

end PowerGating

end FalconPmu
