import FalconPmu.Proofs.Buffer.Records
import FalconPmu.Proofs.Publication
import FalconPmu.Proofs.Record.Layout

namespace FalconPmu.Counter

open FalconPmu.Cell (plain)

inductive Edit where
  | set (u : Update)
  | pin
  deriving DecidableEq

namespace Edit

def run (i : Interface) : Edit → Access Unit
  | set u => i.run (.counter (.set u))
  | pin => i.run .pinCounter

def apply : Edit → Bytes → Bytes
  | set u => u.apply
  | pin => fun b => Field.groupId.put 0 (Field.index.put 3 b)

def index? : Edit → Option UInt8
  | set (.index n) => some n
  | pin => some 3
  | _ => none

def groupId? : Edit → Option UInt8
  | set (.groupId n) => some n
  | pin => some 0
  | _ => none

def valid? : Edit → Option UInt8
  | set (.valid n) => some n
  | _ => none

def upperThreshold? : Edit → Option UInt16
  | set (.upperThreshold n) => some n
  | _ => none

def lowerThreshold? : Edit → Option UInt16
  | set (.lowerThreshold n) => some n
  | _ => none

def layout : Layout Edit where
  size := 12
  cells := [plain Field.index.offset index?, plain Field.flags.offset fun _ => (none : Option UInt8),
    plain Field.groupId.offset groupId?, plain Field.valid.offset valid?,
    plain Field.upperThreshold.offset upperThreshold?,
    plain Field.lowerThreshold.offset lowerThreshold?,
    plain Field.scale.offset fun _ => (none : Option UInt32)]
  ordered := by decide
  fits := by decide

theorem apply_eq_paintAll (e : Edit) (b : Bytes) : e.apply b = Cell.paintAll layout.cells e b := by
  cases e with
  | set u => cases u <;> rfl
  | pin => rfl

theorem run_eq_write {i : Interface} {bundle : Bundle} (h : i.active = some bundle) (e : Edit) :
    e.run i = Access.write 12 e.apply := by
  cases e with
  | set u =>
    rw [run, Interface.run_of_some h]
    rfl
  | pin =>
    rw [run, Interface.run_of_some h]
    exact bundle.pinCounter_eq

theorem governs_layout {i : Interface} {bundle : Bundle} (h : i.active = some bundle) :
    layout.Governs (run i) := by
  intro e b hb
  rw [run_eq_write h, ← apply_eq_paintAll]
  exact Access.write_of_le hb e.apply

theorem twelve_le_of_outside {k : Nat} (h : ∀ c ∈ layout.cells, c.Outside k) : 12 ≤ k := by
  -- the fields leave no gap, so each of the twelve indices is in one of them
  have hinside : ∀ k < 12, ¬ ∀ c ∈ layout.cells, c.Outside k := by decide
  by_contra hlt
  exact hinside k (by omega) h

theorem outside_of_written {k : Nat} (hk : k = 1 ∨ 8 ≤ k) :
    ∀ c ∈ layout.cells, ∀ e, c.stroke e ≠ .keep → c.Outside k := by
  simp only [layout, List.forall_mem_cons, List.not_mem_nil, false_implies, implies_true, and_true]
  refine ⟨fun _ _ => ?index, fun _ h => absurd rfl h, fun _ _ => ?groupId, fun _ _ => ?valid,
    fun _ _ => ?upperThreshold, fun _ _ => ?lowerThreshold, fun _ h => absurd rfl h⟩
  case index =>
    change k < 0 ∨ 1 ≤ k
    omega
  case groupId =>
    change k < 2 ∨ 3 ≤ k
    omega
  case valid =>
    change k < 3 ∨ 4 ≤ k
    omega
  case upperThreshold =>
    change k < 4 ∨ 6 ≤ k
    omega
  case lowerThreshold =>
    change k < 6 ∨ 8 ≤ k
    omega

end Edit

theorem ofBytes_injective {b b' : Bytes} (hb : b.length = 12) (hb' : b'.length = 12)
    (h : ofBytes b = ofBytes b') : b = b' := by
  simp only [ofBytes, mk.injEq] at h
  obtain ⟨hindex, hflags, hgroupId, hvalid, hupper, hlower, hscale⟩ := h
  apply Edit.layout.ext_cells (hb.trans hb'.symm)
  case cells =>
    simp only [Edit.layout, List.forall_mem_cons, List.not_mem_nil, false_implies, implies_true,
      and_true]
    exact ⟨FalconPmu.Field.read_eq_of_get_eq hindex, FalconPmu.Field.read_eq_of_get_eq hflags,
      FalconPmu.Field.read_eq_of_get_eq hgroupId, FalconPmu.Field.read_eq_of_get_eq hvalid,
      FalconPmu.Field.read_eq_of_get_eq hupper, FalconPmu.Field.read_eq_of_get_eq hlower,
      FalconPmu.Field.read_eq_of_get_eq hscale⟩
  case elsewhere =>
    intro k hk
    have hlong := Edit.twelve_le_of_outside hk
    rw [List.getElem?_eq_none (by omega), List.getElem?_eq_none (by omega)]

structure Edited (es : List Edit) (b b' : Bytes) (c c' : Counter) : Prop where
  length : b'.length = b.length
  index : c'.index = (es.filterMap Edit.index?).getLast?.getD c.index
  flags : c'.flags = c.flags
  groupId : c'.groupId = (es.filterMap Edit.groupId?).getLast?.getD c.groupId
  valid : c'.valid = (es.filterMap Edit.valid?).getLast?.getD c.valid
  upperThreshold :
    c'.upperThreshold = (es.filterMap Edit.upperThreshold?).getLast?.getD c.upperThreshold
  lowerThreshold :
    c'.lowerThreshold = (es.filterMap Edit.lowerThreshold?).getLast?.getD c.lowerThreshold
  scale : c'.scale = c.scale
  elsewhere : ∀ k, k = 1 ∨ 8 ≤ k → b'[k]? = b[k]?

theorem edited_after (es : List Edit) {b : Bytes} (hb : 12 ≤ b.length) :
    Edited es b (Edit.layout.after es b) (ofBytes b) (ofBytes (Edit.layout.after es b)) := by
  have written := Edit.layout.written_after es hb
  exact {
    length := written.length
    index := written.get_eq_last (f := Field.index) (by simp [Edit.layout])
    flags := written.get_eq (f := Field.flags) (by simp [Edit.layout])
    groupId := written.get_eq_last (f := Field.groupId) (by simp [Edit.layout])
    valid := written.get_eq_last (f := Field.valid) (by simp [Edit.layout])
    upperThreshold := written.get_eq_last (f := Field.upperThreshold) (by simp [Edit.layout])
    lowerThreshold := written.get_eq_last (f := Field.lowerThreshold) (by simp [Edit.layout])
    scale := written.get_eq (f := Field.scale) (by simp [Edit.layout])
    elsewhere := fun k hk =>
      written.elsewhere k fun c hc e _ => Edit.outside_of_written hk c hc e }

theorem ofBytes_take {b : Bytes} {c : Counter} (h : Revision.v2.run .counter b = (.ok c, b)) :
    (b.take 12).length = 12 ∧ ofBytes (b.take 12) = c := by
  cases Nat.lt_or_ge b.length 12 with
  | inl hb => cases h.symm.trans (Access.read_of_lt hb ofBytes)
  | inr hb =>
    cases h.symm.trans (Access.read_of_le hb ofBytes)
    have hlength : (b.take 12).length = 12 := by
      rw [List.length_take]
      omega
    have hreads := reads_ofBytes .v2 (b.take 12) (b.drop 12) hlength
    rw [List.take_append_drop] at hreads
    exact ⟨hlength, hreads.symm⟩

theorem take_eq_of_counter {b b' : Bytes} {c : Counter}
    (h : Revision.v2.run .counter b = (.ok c, b)) (h' : Revision.v2.run .counter b' = (.ok c, b')) :
    b.take 12 = b'.take 12 := by
  obtain ⟨hlength, hc⟩ := ofBytes_take h
  obtain ⟨hlength', hc'⟩ := ofBytes_take h'
  exact ofBytes_injective hlength hlength' (hc.trans hc'.symm)

/-- While a family is published, every edit goes through on a buffer that a counter fits in, and none
touches a shorter one. What the counter reads as tells its bytes. -/
theorem edited_counter (f : Family) (i : Interface) (es : List Edit) (b : Bytes) :
    let p := (Interface.publish f.number i).state
    (∀ call : Call, p.run (.counter call) = Revision.v2.run call) ∧
    (b.length < 12 → p.run (.counter .counter) b = (.error .invalidBufferSize, b) ∧
      ∀ e : Edit, e.run p b = (.error .invalidBufferSize, b)) ∧
    (12 ≤ b.length → ∃ b' c c', p.run (.counter .counter) b = (.ok c, b) ∧
      es.forM (Edit.run p) b = (.ok (), b') ∧ p.run (.counter .counter) b' = (.ok c', b') ∧
      Edited es b b' c c') ∧
    ∀ d c, p.run (.counter .counter) b = (.ok c, b) → p.run (.counter .counter) d = (.ok c, d) →
      b.take 12 = d.take 12 := by
  intro p
  have hp : p.active = some (.ofFamily f) := Interface.active_publish f i
  have hcounter (call : Call) : p.run (.counter call) = Revision.v2.run call := by
    rw [Interface.run_of_some hp]
    rfl
  refine ⟨hcounter, ?_, ?_, ?_⟩
  · intro hb
    refine ⟨?_, ?_⟩
    · rw [hcounter]
      exact Access.read_of_lt hb ofBytes
    · intro e
      rw [Edit.run_eq_write hp]
      exact Access.write_of_lt hb e.apply
  · intro hb
    have edited := edited_after es hb
    refine ⟨_, _, _, ?_, (Edit.governs_layout hp).forM es hb, ?_, edited⟩
    · rw [hcounter]
      exact Access.read_of_le hb ofBytes
    · rw [hcounter]
      exact Access.read_of_le (by rw [edited.length]; exact hb) ofBytes
  · intro d c hb hd
    rw [hcounter] at hb hd
    exact take_eq_of_counter hb hd

theorem edited_counter_pinned :
    let p := (Interface.publish Family.gm20b.number .empty).state
    let es : List Edit := [.set (.upperThreshold 3000), .set (.groupId 5), .pin, .set (.index 7),
      .set (.valid 1)]
    let b : Bytes := List.replicate 13 0xff
    (b.take 11).length < 12 ∧ Edit.pin.run p (b.take 11) = (.error .invalidBufferSize, b.take 11) ∧
      12 ≤ b.length ∧ ∃ b' c, es.forM (Edit.run p) b = (.ok (), b') ∧
        p.run (.counter .counter) b' = (.ok c, b') ∧
        c.index = 7 ∧ c.groupId = 0 ∧ c.upperThreshold = 3000 ∧ b'[1]? = some 0xff ∧
        b'[12]? = some 0xff ∧
        ∀ d, p.run (.counter .counter) d = (.ok c, d) → b'.take 12 = d.take 12 := by
  intro p es b
  have hshort : (b.take 11).length < 12 := by decide
  have hlong : 12 ≤ b.length := by decide
  obtain ⟨-, refused, -, -⟩ := edited_counter .gm20b .empty es (b.take 11)
  obtain ⟨-, -, written, -⟩ := edited_counter .gm20b .empty es b
  obtain ⟨b', c₀, c, -, run, hget, edited⟩ := written hlong
  obtain ⟨-, -, -, told⟩ := edited_counter .gm20b .empty es b'
  refine ⟨hshort, (refused hshort).2 .pin, hlong, b', c, run, hget, edited.index, edited.groupId,
    edited.upperThreshold, ?_, ?_, ?_⟩
  · exact edited.elsewhere 1 (by decide)
  · exact edited.elsewhere 12 (by decide)
  · intro d hd
    exact told d c hget hd

end FalconPmu.Counter
