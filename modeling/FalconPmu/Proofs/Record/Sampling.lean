import FalconPmu.Proofs.Buffer.Piece
import FalconPmu.Proofs.Buffer.Records

namespace FalconPmu.Sampling

def Revision.pieces (r : Revision) (c : Command) : List Piece := c.updates.map r.piece

/-- The bytes that a command has no field for: its allocation record, the pad byte of the longer command,
and all that lies behind the command. -/
def Leaves (r : Revision) (s : Shape) (k : Nat) : Prop :=
  s.allocationOffset ≤ k ∧ k < s.allocationOffset + r.allocationSize ∨ s = .init ∧ k = 3 ∨ r.size s ≤ k

namespace Revision

def decode (r : Revision) : Shape → Access Command
  | .start => do return .start (← r.run .start)
  | .init => do return .init (← r.run .init)

def value (r : Revision) : Shape → Bytes → Command
  | .start, b => .start (Start.ofBytes b)
  | .init, b => .init (r.init b)

@[simp] theorem shape_value (r : Revision) (s : Shape) (b : Bytes) : (r.value s b).shape = s := by
  cases s <;> rfl

theorem decode_of_le {r : Revision} {s : Shape} {b : Bytes} (h : r.size s ≤ b.length) :
    r.decode s b = (.ok (r.value s b), b) := by
  cases s with
  | start =>
    change (Access.read (r.size .start) Start.ofBytes >>= _) b = _
    rw [Access.bind_apply, Access.read_of_le h]
    rfl
  | init =>
    change (Access.read (r.size .init) r.init >>= _) b = _
    rw [Access.bind_apply, Access.read_of_le h]
    rfl

theorem stop_le_of_mem_pieces {r : Revision} {c : Command} {p : Piece} (hp : p ∈ r.pieces c) :
    p.stop ≤ r.size c.shape := by
  obtain ⟨u, hu, rfl⟩ := List.mem_map.1 hp
  rw [← c.shape_of_mem_updates u hu]
  exact r.stop_piece_le u

theorem apart_pieces (r : Revision) (c : Command) : (r.pieces c).Pairwise Piece.Apart := by
  cases c <;>
    simp only [pieces, Command.updates, List.map_cons, List.map_nil, piece, List.pairwise_cons,
      List.forall_mem_cons, Field.apart_piece_iff, List.not_mem_nil, false_implies, implies_true,
      List.Pairwise.nil] <;>
    cases r <;> decide

theorem not_covers_pad {r : Revision} {u : Update} (h : u.shape = .init) : ¬(r.piece u).Covers 3 := by
  cases u <;> cases h <;> rw [piece, Field.covers_piece_iff] <;> cases r <;> decide

theorem not_covers_of_leaves {r : Revision} {u : Update} {k : Nat} (h : Leaves r u.shape k) :
    ¬(r.piece u).Covers k := by
  have hclear := r.clear_piece u
  have hstop := r.stop_piece_le u
  obtain hallocation | ⟨hinit, rfl⟩ | hbehind := h
  · simp only [Piece.Covers]
    omega
  · exact not_covers_pad hinit
  · simp only [Piece.Covers]
    omega

theorem value_eq_iff {r : Revision} {c : Command} {b : Bytes} (h : r.size c.shape ≤ b.length) :
    r.value c.shape b = c ↔ ∀ p ∈ r.pieces c, p.Stands b := by
  have hstop (u : Update) (hu : u ∈ c.updates) : (r.piece u).stop ≤ b.length :=
    Nat.le_trans (stop_le_of_mem_pieces (List.mem_map_of_mem hu)) h
  cases c with
  | start c =>
    obtain ⟨t, g, s, f⟩ := c
    simp only [Command.updates, List.forall_mem_cons, piece, Field.stop_piece] at hstop
    simp [pieces, Command.updates, piece, Field.stands_piece_iff, hstop, value, Command.shape,
      Start.ofBytes]
  | init c =>
    obtain ⟨t, d, i, p, n, m, s⟩ := c
    simp only [Command.updates, List.forall_mem_cons, piece, Field.stop_piece] at hstop
    simp [pieces, Command.updates, piece, Field.stands_piece_iff, hstop, value, Command.shape, init]

theorem forM_set {r : Revision} {s : Shape} {us : List Update} (hus : ∀ u ∈ us, u.shape = s)
    {b : Bytes} (hb : r.size s ≤ b.length) :
    us.forM r.set b = (.ok (), Piece.writeAll (us.map r.piece) b) := by
  induction us generalizing b with
  | nil => rfl
  | cons u us ih =>
    have hset : r.set u b = (.ok (), (r.piece u).write b) := by
      rw [set, apply_eq_write, hus u List.mem_cons_self]
      exact Access.write_of_le hb _
    have hrest := ih (fun v hv => hus v (List.mem_cons_of_mem u hv)) (b := (r.piece u).write b)
      (by rw [Piece.length_write]; exact hb)
    change (r.set u >>= fun _ => us.forM r.set) b = _
    rw [Access.bind_apply, hset]
    exact hrest

theorem pack_of_le {r : Revision} {c : Command} {b : Bytes} (h : r.size c.shape ≤ b.length) :
    r.pack c b = (.ok (r.size c.shape), Piece.writeAll (r.pieces c) b) := by
  rw [pack, Access.bind_apply, forM_set c.shape_of_mem_updates h]
  rfl

end Revision

structure Packed (r : Revision) (c : Command) (b b' : Bytes) : Prop where
  length : b'.length = b.length
  decoded : r.decode c.shape b' = (.ok c, b')
  spared : ∀ k, Leaves r c.shape k → b'[k]? = b[k]?
  again : r.run (.pack c) b' = (.ok (r.size c.shape), b')

theorem packed_writeAll {r : Revision} {c : Command} {b : Bytes} (h : r.size c.shape ≤ b.length) :
    Packed r c b (Piece.writeAll (r.pieces c) b) := by
  have length := Piece.length_writeAll (r.pieces c) b
  have hlong : r.size c.shape ≤ (Piece.writeAll (r.pieces c) b).length := by
    rw [length]
    exact h
  have stands : ∀ p ∈ r.pieces c, p.Stands (Piece.writeAll (r.pieces c) b) := by
    apply Piece.stands_writeAll (r.apart_pieces c)
    intro p hp
    exact Nat.le_trans (Revision.stop_le_of_mem_pieces hp) h
  refine { length, decoded := ?_, spared := ?_, again := ?_ }
  · rw [Revision.decode_of_le hlong, (Revision.value_eq_iff hlong).2 stands]
  · intro k hk
    apply Piece.getElem?_writeAll_of_not_covers
    intro p hp
    obtain ⟨u, hu, rfl⟩ := List.mem_map.1 hp
    rw [← c.shape_of_mem_updates u hu] at hk
    exact Revision.not_covers_of_leaves hk
  · refine (Revision.pack_of_le hlong).trans ?_
    rw [Piece.writeAll_of_stands stands]

theorem pack_value {r : Revision} {s : Shape} {b : Bytes} (h : r.size s ≤ b.length) :
    r.pack (r.value s b) b = (.ok (r.size s), b) := by
  have hlong : r.size (r.value s b).shape ≤ b.length := by
    rw [Revision.shape_value]
    exact h
  have stands := (Revision.value_eq_iff hlong).1 (by rw [Revision.shape_value])
  rw [Revision.pack_of_le hlong, Piece.writeAll_of_stands stands, Revision.shape_value]

theorem packed_command (r : Revision) (c : Command) (b : Bytes) :
    (b.length < r.size c.shape → r.run (.pack c) b = (.error .invalidBufferSize, b)) ∧
    (r.size c.shape ≤ b.length →
      ∃ b', r.run (.pack c) b = (.ok (r.size c.shape), b') ∧ Packed r c b b') ∧
    ∀ s : Shape, r.size s ≤ b.length → ∃ d : Command, d.shape = s ∧
      r.decode s b = (.ok d, b) ∧ r.run (.pack d) b = (.ok (r.size s), b) := by
  refine ⟨(r.confined_pack c).refuses b, ?_, ?_⟩
  · intro h
    exact ⟨_, Revision.pack_of_le h, packed_writeAll h⟩
  · intro s h
    exact ⟨r.value s b, r.shape_value s b, Revision.decode_of_le h, pack_value h⟩

theorem packed_command_dirty :
    let c : Init := ⟨2, 15, 1, 0x2710, 3, 17, 0xbeef⟩
    let b : Bytes := List.replicate 33 0xff
    Revision.v2.size .init ≤ b.length ∧ ∃ b', Revision.v2.run (.pack (.init c)) b = (.ok 32, b') ∧
      Revision.v2.decode .init b' = (.ok (.init c), b') ∧ b'[3]? = some 0xff ∧ b'[8]? = some 0xff ∧
      b'[27]? = some 0xff ∧ b'[32]? = some 0xff ∧
      Revision.v2.run (.pack (.init c)) (b.take 31) = (.error .invalidBufferSize, b.take 31) := by
  intro c b
  have hb : Revision.v2.size .init ≤ b.length := by decide
  obtain ⟨b', run, packed⟩ := (packed_command .v2 (.init c) b).2.1 hb
  refine ⟨hb, b', run, packed.decoded, ?_, ?_, ?_, ?_, ?_⟩
  · exact packed.spared 3 (.inr (.inl ⟨rfl, rfl⟩))
  · exact packed.spared 8 (.inl (by decide))
  · exact packed.spared 27 (.inl (by decide))
  · exact packed.spared 32 (.inr (.inr (by decide)))
  · exact (packed_command .v2 (.init c) (b.take 31)).1 (by decide)

end FalconPmu.Sampling
