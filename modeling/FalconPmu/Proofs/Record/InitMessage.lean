import FalconPmu.Proofs.Record.Word
import FalconPmu.Record.InitMessage

namespace FalconPmu.InitMessage

def Placement.stop (p : Placement) : Nat := p.offset.toNat + p.size.toNat

def Placement.Holds (p : Placement) (k : Nat) : Prop := p.offset.toNat ≤ k ∧ k < p.stop

/-- A table of indices, a table of as many sizes and the start word, back to back. -/
structure Sheet where
  indices : Nat
  sizes : Nat
  start : Nat
  count : Nat
  message : Nat
  indices_stop : indices + count = sizes
  sizes_stop : sizes + 2 * count = start
  message_lt : message < count
  two_le_message : 2 ≤ message
  message_le_three : message ≤ 3

namespace Sheet

def entry (s : Sheet) : Queue → Nat
  | .high => 0
  | .low => 1
  | .message => s.message

def tables (s : Sheet) : Tables := ⟨s.indices, s.sizes, ⟨s.start⟩, s.entry⟩

variable (s : Sheet) (b : Bytes)

def indexAt (i : Nat) : Nat := Span.read ⟨s.indices + i, 1⟩ b

def sizeAt (i : Nat) : Nat := Span.read ⟨s.sizes + 2 * i, 2⟩ b

def startAt : Nat := Span.read ⟨s.start, 2⟩ b

def room : Nat → Nat
  | 0 => 0
  | i + 1 => room i + s.sizeAt b i

theorem room_succ (i : Nat) : s.room b (i + 1) = s.room b i + s.sizeAt b i := rfl

theorem sizeAt_le (i : Nat) : s.sizeAt b i ≤ 0xffff := Nat.le_of_lt_succ (Span.read_lt _ b)

theorem startAt_le : s.startAt b ≤ 0xffff := Nat.le_of_lt_succ (Span.read_lt _ b)

theorem room_le (i : Nat) : s.room b i ≤ 0xffff * i := by
  induction i with
  | zero => exact Nat.le_refl 0
  | succ i ih =>
    have hsize := s.sizeAt_le b i
    rw [room_succ]
    omega

theorem room_add_sizeAt_le {i j : Nat} (h : i < j) : s.room b i + s.sizeAt b i ≤ s.room b j := by
  induction h with
  | refl => exact Nat.le_of_eq (s.room_succ b i).symm
  | step h ih =>
    rw [room_succ]
    exact Nat.le_add_right_of_le ih

theorem toNat_sizeWord (i : Nat) : (s.tables.sizeWord b i).toNat = s.sizeAt b i :=
  (UInt16.toNat_toUInt32 _).trans (Field.toNat_get (s.tables.size i) b)

theorem toNat_roomBefore {i : Nat} (h : i ≤ 0x10000) :
    (s.tables.roomBefore b i).toNat = s.room b i := by
  induction i with
  | zero => rfl
  | succ i ih =>
    have hroom := s.room_le b (i + 1)
    rw [Tables.roomBefore, UInt32.toNat_add, toNat_sizeWord, ih (by omega), ← room_succ]
    exact Nat.mod_eq_of_lt (by omega)

theorem entry_le_three (q : Queue) : s.entry q ≤ 3 := by
  have h := s.message_le_three
  cases q with
  | high => exact Nat.zero_le 3
  | low => exact Nat.le_of_ble_eq_true rfl
  | message => exact h

theorem entry_lt_count (q : Queue) : s.entry q < s.count := by
  have hlow := s.two_le_message
  have hcount := s.message_lt
  cases q with
  | high => exact Nat.zero_lt_of_lt hcount
  | low => exact Nat.lt_trans hlow hcount
  | message => exact hcount

theorem entry_injective {q q' : Queue} (h : s.entry q = s.entry q') : q = q' := by
  have hlow := s.two_le_message
  cases q <;> cases q' <;> simp only [entry] at h <;> first | rfl | omega

theorem toNat_index (q : Queue) : (s.tables.placement q b).index.toNat = s.indexAt b (s.entry q) :=
  (UInt8.toNat_toUInt32 _).trans (Field.toNat_get (s.tables.index (s.entry q)) b)

theorem toNat_size (q : Queue) : (s.tables.placement q b).size.toNat = s.sizeAt b (s.entry q) :=
  s.toNat_sizeWord b (s.entry q)

theorem toNat_offset (q : Queue) :
    (s.tables.placement q b).offset.toNat = s.startAt b + s.room b (s.entry q) := by
  have hentry := s.entry_le_three q
  have hroom := s.room_le b (s.entry q)
  have hstart := s.startAt_le b
  have hword : ((s.tables.start.get b).toUInt32).toNat = s.startAt b :=
    (UInt16.toNat_toUInt32 _).trans (Field.toNat_get s.tables.start b)
  change ((s.tables.start.get b).toUInt32 + s.tables.roomBefore b (s.entry q)).toNat = _
  rw [UInt32.toNat_add, hword, s.toNat_roomBefore b (by omega)]
  exact Nat.mod_eq_of_lt (by omega)

theorem stop_placement (q : Queue) :
    (s.tables.placement q b).stop = s.startAt b + (s.room b (s.entry q) + s.sizeAt b (s.entry q)) := by
  rw [Placement.stop, toNat_offset, toNat_size, Nat.add_assoc]

theorem stop_le_offset {q q' : Queue} (h : s.entry q < s.entry q') :
    (s.tables.placement q b).stop ≤ (s.tables.placement q' b).offset.toNat := by
  rw [stop_placement, toNat_offset]
  exact Nat.add_le_add_left (s.room_add_sizeAt_le b h) _

end Sheet

/-- The queues lie one after another, with a gap before the message queue, and their sizes and indices
are those of their entries. -/
structure Packed (s : Sheet) (gap : Nat) (b : Bytes) (place : Queue → Placement) : Prop where
  inRange : ∀ q, s.entry q < s.count
  index : ∀ q, (place q).index.toNat = s.indexAt b (s.entry q)
  size : ∀ q, (place q).size.toNat = s.sizeAt b (s.entry q)
  high : (place .high).offset.toNat = s.startAt b
  low : (place .low).offset.toNat = (place .high).stop
  message : (place .message).offset.toNat = (place .low).stop + gap
  ordered : (place .high).stop ≤ (place .low).offset.toNat ∧
    (place .low).stop ≤ (place .message).offset.toNat
  disjoint : ∀ q q' k, (place q).Holds k → (place q').Holds k → q = q'
  offset_le : ∀ q, (place q).offset.toNat ≤ 4 * 65535

theorem Sheet.packed_placement (s : Sheet) (b : Bytes) {gap : Nat}
    (hgap : s.room b s.message = s.room b 2 + gap) :
    Packed s gap b fun q => s.tables.placement q b where
  inRange := s.entry_lt_count
  index := s.toNat_index b
  size := s.toNat_size b
  high := s.toNat_offset b .high
  low := by
    rw [toNat_offset, stop_placement]
    exact congrArg (s.startAt b + ·) (s.room_succ b 0)
  message := by
    rw [toNat_offset, stop_placement, Nat.add_assoc]
    apply congrArg (s.startAt b + ·)
    exact hgap.trans (congrArg (· + gap) (s.room_succ b 1))
  ordered := ⟨s.stop_le_offset b Nat.zero_lt_one, s.stop_le_offset b s.two_le_message⟩
  disjoint q q' k h h' := by
    -- of two entries one comes first, and its queue ends before the other starts
    rcases Nat.lt_trichotomy (s.entry q) (s.entry q') with hlt | heq | hgt
    · exact absurd (Nat.lt_of_lt_of_le h.2 (s.stop_le_offset b hlt)) (Nat.not_lt_of_le h'.1)
    · exact s.entry_injective heq
    · exact absurd (Nat.lt_of_lt_of_le h'.2 (s.stop_le_offset b hgt)) (Nat.not_lt_of_le h.1)
  offset_le q := by
    have hentry := s.entry_le_three q
    have hroom := s.room_le b (s.entry q)
    have hstart := s.startAt_le b
    rw [toNat_offset]
    omega

structure Listed (b : Bytes) (q : Queue) (p : Placement) : Prop where
  inRange : q.number.toNat < 5
  size : p.size.toNat = Span.read ⟨4 + 6 * q.number.toNat, 2⟩ b
  offset : p.offset.toNat = Span.read ⟨4 + 6 * q.number.toNat + 2, 2⟩ b
  index : p.index.toNat = Span.read ⟨4 + 6 * q.number.toNat + 4, 1⟩ b

theorem listed_placement (b : Bytes) (q : Queue) : Listed b q ((Entry.ofQueue q).placement b) where
  inRange := by cases q <;> decide
  size := (UInt16.toNat_toUInt32 _).trans (Field.toNat_get (Entry.ofQueue q).size b)
  offset := (UInt16.toNat_toUInt32 _).trans (Field.toNat_get (Entry.ofQueue q).offset b)
  index := (UInt8.toNat_toUInt32 _).trans (Field.toNat_get (Entry.ofQueue q).index b)

def sheet₃ : Sheet := ⟨1, 4, 10, 3, 2, by decide, by decide, by decide, by decide, by decide⟩

def sheet₄ : Sheet := ⟨1, 6, 16, 5, 2, by decide, by decide, by decide, by decide, by decide⟩

def sheet₅ : Sheet := ⟨2, 6, 14, 4, 3, by decide, by decide, by decide, by decide, by decide⟩

def Revision.Tells (r : Revision) (b : Bytes) (place : Queue → Placement) : Prop :=
  match r with
  | v1 => ∀ q, Listed b q (place q)
  | v3 => Packed sheet₃ 0 b place
  | v4 => Packed sheet₄ 0 b place
  | v5 => Packed sheet₅ (sheet₅.sizeAt b 2) b place

theorem Revision.tells_placement (r : Revision) (b : Bytes) : r.Tells b fun q => r.placement q b := by
  cases r with
  | v1 => exact listed_placement b
  | v3 => exact sheet₃.packed_placement b rfl
  | v4 => exact sheet₄.packed_placement b rfl
  | v5 => exact sheet₅.packed_placement b (sheet₅.room_succ b 2)

theorem Revision.queueByNumber_number (r : Revision) (q : Queue) :
    r.queueByNumber q.number = r.run (.queue q) := by
  cases q <;> rfl

theorem placed_queues (r : Revision) {b : Bytes} (hb : r.size ≤ b.length) :
    ∃ place : Queue → Placement, (∀ q, r.run (.queue q) b = (.ok (place q), b)) ∧
      (∀ q, r.queueByNumber q.number b = (.ok (place q), b)) ∧ r.Tells b place := by
  have hrun : ∀ q, r.run (.queue q) b = (.ok (r.placement q b), b) := fun q =>
    Access.read_of_le hb (r.placement q)
  refine ⟨_, hrun, ?_, r.tells_placement b⟩
  intro q
  rw [r.queueByNumber_number]
  exact hrun q

theorem placed_queues_full :
    let b : Bytes := List.replicate 43 0xff
    Revision.v5.size ≤ b.length ∧ ∃ p, Revision.v5.run (.queue .message) b = (.ok p, b) ∧
      p.offset.toNat = 4 * 65535 ∧ p.size.toNat = 65535 := by
  intro b
  have hb : Revision.v5.size ≤ b.length := by decide
  obtain ⟨place, run, -, tells⟩ := placed_queues .v5 hb
  refine ⟨hb, place .message, run .message, ?_, ?_⟩
  · rw [tells.message, Placement.stop, tells.low, Placement.stop, tells.high, tells.size, tells.size]
    decide
  · rw [tells.size]
    decide

end FalconPmu.InitMessage
