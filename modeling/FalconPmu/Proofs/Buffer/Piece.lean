import FalconPmu.Bytes.Field

namespace FalconPmu

structure Piece where
  offset : Nat
  bytes : Bytes

namespace Piece

def stop (p : Piece) : Nat := p.offset + p.bytes.length

def write (p : Piece) (b : Bytes) : Bytes := Bytes.splice b p.offset p.bytes

def writeAll (ps : List Piece) (b : Bytes) : Bytes := ps.foldl (fun b p => p.write b) b

def Stands (p : Piece) (b : Bytes) : Prop := Bytes.slice b p.offset p.bytes.length = p.bytes

def Apart (p q : Piece) : Prop := p.stop ≤ q.offset ∨ q.stop ≤ p.offset

def Covers (p : Piece) (k : Nat) : Prop := p.offset ≤ k ∧ k < p.stop

@[simp] theorem length_write (p : Piece) (b : Bytes) : (p.write b).length = b.length :=
  Bytes.length_splice _ _ _

@[simp] theorem length_writeAll (ps : List Piece) (b : Bytes) :
    (writeAll ps b).length = b.length := by
  induction ps generalizing b with
  | nil => rfl
  | cons p ps ih => exact (ih (p.write b)).trans (p.length_write b)

theorem stands_write {p : Piece} {b : Bytes} (h : p.stop ≤ b.length) : p.Stands (p.write b) :=
  Bytes.slice_splice h

theorem Stands.write {p q : Piece} {b : Bytes} (h : p.Stands b) (apart : p.Apart q) :
    p.Stands (q.write b) := by
  rw [Stands, Piece.write, Bytes.slice_splice_of_apart apart]
  exact h

theorem Stands.writeAll {p : Piece} {ps : List Piece} {b : Bytes} (h : p.Stands b)
    (apart : ∀ q ∈ ps, p.Apart q) : p.Stands (writeAll ps b) := by
  induction ps generalizing b with
  | nil => exact h
  | cons q ps ih =>
    apply ih (h.write (apart q List.mem_cons_self))
    intro q' hq'
    exact apart q' (List.mem_cons_of_mem q hq')

theorem stands_writeAll {ps : List Piece} (apart : ps.Pairwise Apart) {b : Bytes}
    (fits : ∀ p ∈ ps, p.stop ≤ b.length) : ∀ p ∈ ps, p.Stands (writeAll ps b) := by
  induction ps generalizing b with
  | nil => simp
  | cons q ps ih =>
    obtain ⟨first, rest⟩ := List.pairwise_cons.1 apart
    intro p hp
    cases List.mem_cons.1 hp with
    | inl heq =>
      rw [heq]
      exact (stands_write (fits q List.mem_cons_self)).writeAll first
    | inr hmem =>
      apply ih rest _ p hmem
      intro p' hp'
      rw [length_write]
      exact fits p' (List.mem_cons_of_mem q hp')

theorem getElem?_write_of_not_covers {p : Piece} {k : Nat} (hk : ¬p.Covers k) (b : Bytes) :
    (p.write b)[k]? = b[k]? := by
  rw [write, Bytes.getElem?_splice, if_neg]
  exact fun h => hk ⟨h.1, h.2.1⟩

theorem getElem?_writeAll_of_not_covers {ps : List Piece} {k : Nat} (hk : ∀ p ∈ ps, ¬p.Covers k)
    (b : Bytes) : (writeAll ps b)[k]? = b[k]? := by
  induction ps generalizing b with
  | nil => rfl
  | cons p ps ih =>
    refine (ih (fun q hq => hk q (List.mem_cons_of_mem p hq)) (p.write b)).trans ?_
    exact getElem?_write_of_not_covers (hk p List.mem_cons_self) b

theorem Stands.getElem?_write {p : Piece} {b b' : Bytes} (h : p.Stands b)
    (length : b'.length = b.length) {k : Nat} (hk : p.Covers k) : (p.write b')[k]? = b[k]? := by
  obtain ⟨hoffset, hstop⟩ := hk
  rw [stop] at hstop
  have hsize := congrArg List.length h
  rw [Bytes.length_slice] at hsize
  have hslice := Bytes.getElem?_slice b p.offset p.bytes.length (k - p.offset)
  rw [h, if_pos (by omega), Nat.add_sub_cancel' hoffset] at hslice
  rw [Piece.write, Bytes.getElem?_splice, if_pos (by omega), hslice]

theorem getElem?_writeAll_of_stands {ps : List Piece} {b b' : Bytes} (length : b'.length = b.length)
    (stands : ∀ p ∈ ps, p.Stands b) {k : Nat} (hk : b'[k]? = b[k]? ∨ ∃ p ∈ ps, p.Covers k) :
    (writeAll ps b')[k]? = b[k]? := by
  induction ps generalizing b' with
  | nil =>
    obtain hsame | ⟨p, hp, -⟩ := hk
    · exact hsame
    · cases hp
  | cons p ps ih =>
    apply ih ((p.length_write b').trans length) fun q hq => stands q (List.mem_cons_of_mem p hq)
    by_cases hp : p.Covers k
    · exact .inl ((stands p List.mem_cons_self).getElem?_write length hp)
    · rw [getElem?_write_of_not_covers hp]
      refine hk.imp_right ?_
      rintro ⟨q, hq, hcovers⟩
      cases List.mem_cons.1 hq with
      | inl heq => exact absurd (heq ▸ hcovers) hp
      | inr hmem => exact ⟨q, hmem, hcovers⟩

theorem writeAll_of_stands {ps : List Piece} {b : Bytes} (stands : ∀ p ∈ ps, p.Stands b) :
    writeAll ps b = b := by
  apply List.ext_getElem?
  intro k
  exact getElem?_writeAll_of_stands rfl stands (.inl rfl)

theorem writeAll_eq_of_stands {ps : List Piece} {b b' : Bytes} (length : b'.length = b.length)
    (stands : ∀ p ∈ ps, p.Stands b) (covered : ∀ k < b.length, ∃ p ∈ ps, p.Covers k) :
    writeAll ps b' = b := by
  apply List.ext_getElem?
  intro k
  apply getElem?_writeAll_of_stands length stands
  cases Nat.lt_or_ge k b.length with
  | inl hk => exact .inr (covered k hk)
  | inr hk =>
    rw [List.getElem?_eq_none hk, List.getElem?_eq_none (length ▸ hk)]
    exact .inl rfl

end Piece

namespace Field

variable {α : Type} [Wire α]

def piece (f : Field α) (a : α) : Piece := ⟨f.offset, Wire.encode a⟩

@[simp] theorem offset_piece (f : Field α) (a : α) : (f.piece a).offset = f.offset := rfl

@[simp] theorem stop_piece (f : Field α) (a : α) : (f.piece a).stop = f.stop :=
  congrArg (f.offset + ·) (Wire.length_encode a)

@[simp] theorem apart_piece_iff {β : Type} [Wire β] {f : Field α} {g : Field β} {a : α} {c : β} :
    (f.piece a).Apart (g.piece c) ↔ f.Apart g := by
  simp only [Piece.Apart, Apart, offset_piece, stop_piece]

@[simp] theorem covers_piece_iff {f : Field α} {a : α} {k : Nat} :
    (f.piece a).Covers k ↔ f.offset ≤ k ∧ k < f.stop := by
  simp only [Piece.Covers, offset_piece, stop_piece]

theorem stands_piece_iff {f : Field α} {b : Bytes} (h : f.stop ≤ b.length) {a : α} :
    (f.piece a).Stands b ↔ f.get b = a := by
  rw [Piece.Stands, piece, Wire.length_encode, get]
  constructor
  · intro hslice
    rw [hslice, Wire.decode_encode]
  · rintro rfl
    exact (Wire.encode_decode _ (Bytes.length_slice_of_le h)).symm

end Field

end FalconPmu
