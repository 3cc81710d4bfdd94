import FalconPmu.Proofs.Buffer.Confinement

/-!
A record inside a larger one. A call on the larger record that spares the bytes of the inner one, and a
call on the inner record alone, do not notice each other: both give the answers they would give alone,
and their order does not matter.
-/

namespace FalconPmu

namespace Bytes

variable {α : Type}

theorem slice_splice_same {b new : Bytes} {start size : Nat} (hnew : new.length = size)
    (h : start + size ≤ b.length) : slice (splice b start new) start size = new := by
  rw [← hnew] at h ⊢
  exact slice_splice h

end Bytes

namespace Access

open Bytes (slice splice)

variable {α β : Type}

def tail (start : Nat) (x : Access α) : Access α := fun b => window start b.length x b

/-- The call neither reads nor writes the `size` bytes from `start` on. -/
structure Spares (start size : Nat) (x : Access α) : Prop where
  length : ∀ b, (x b).2.length = b.length
  splice : ∀ b new, new.length = size →
    x (splice b start new) = ((x b).1, splice (x b).2 start new)

def Local (size : Nat) (x : Access α) : Prop :=
  ∀ head, head.length = size → ∃ r new, new.length = size ∧
    ∀ rest, x (head ++ rest) = (r, new ++ rest)

theorem Serves.isLocal {size : Nat} {x : Access α} (h : Serves size x) : Local size x := by
  intro head hhead
  obtain ⟨a, new, hnew, hx⟩ := h head hhead
  exact ⟨.ok a, new, hnew, hx⟩

theorem local_of_fixed {size : Nat} {x : Access α} {r : Except Fault α} (h : ∀ b, x b = (r, b)) :
    Local size x :=
  fun head hhead => ⟨r, head, hhead, fun rest => h (head ++ rest)⟩

section Spares

variable {start size : Nat}

theorem spares_pure (a : α) : Spares start size (pure a) where
  length := fun _ => rfl
  splice := fun _ _ _ => rfl

theorem spares_read {need : Nat} {value : Bytes → α}
    (h : ∀ b new, new.length = size → value (splice b start new) = value b) :
    Spares start size (read need value) where
  length := by
    intro b
    rw [read]
    split <;> rfl
  splice := by
    intro b new hnew
    rw [read, read, Bytes.length_splice, h b new hnew]
    split <;> rfl

theorem spares_write {need offset : Nat} {change : Bytes → Bytes} {piece : Bytes}
    (hchange : ∀ b, change b = splice b offset piece)
    (h : offset + piece.length ≤ start ∨ start + size ≤ offset) :
    Spares start size (write need change) where
  length := by
    intro b
    rw [write]
    split
    · rw [hchange, Bytes.length_splice]
    · rfl
  splice := by
    intro b new hnew
    rw [write, write, Bytes.length_splice, hchange, hchange]
    split
    · rw [Bytes.splice_comm]
      omega
    · rfl

theorem Spares.bind {x : Access α} {next : α → Access β} (hx : Spares start size x)
    (hnext : ∀ a, Spares start size (next a)) : Spares start size (x >>= next) where
  length := by
    intro b
    have hlength := hx.length b
    rw [bind_apply]
    split
    case h_1 a b' h =>
      rw [h] at hlength
      exact ((hnext a).length b').trans hlength
    case h_2 e b' h =>
      rw [h] at hlength
      exact hlength
  splice := by
    intro b new hnew
    rw [bind_apply, bind_apply, hx.splice b new hnew]
    cases h : x b with
    | mk r b' =>
      cases r with
      | ok a => exact (hnext a).splice b' new hnew
      | error e => rfl

theorem spares_forM {ι : Type} {x : ι → Access Unit} {is : List ι}
    (h : ∀ i ∈ is, Spares start size (x i)) : Spares start size (is.forM x) := by
  induction is with
  | nil => exact spares_pure ()
  | cons i is ih =>
    refine (h i List.mem_cons_self).bind fun _ => ih ?_
    intro j hj
    exact h j (List.mem_cons_of_mem i hj)

theorem Spares.slice_eq {x : Access α} (h : Spares start size x) {b : Bytes}
    (hb : start + size ≤ b.length) : slice (x b).2 start size = slice b start size := by
  have hsize := Bytes.length_slice_of_le hb
  have hx := h.splice b (Bytes.slice b start size) hsize
  rw [Bytes.splice_slice] at hx
  have hself : (x b).2 = Bytes.splice (x b).2 start (Bytes.slice b start size) :=
    congrArg Prod.snd hx
  rw [hself]
  apply Bytes.slice_splice_same hsize
  rw [h.length]
  exact hb

end Spares

theorem Local.tail {size : Nat} {y : Access α} (h : Local size y) {start : Nat} {b : Bytes}
    (hb : start + size ≤ b.length) :
    ∃ r new, new.length = size ∧ ∀ b', slice b' start size = slice b start size →
      b'.length = b.length → tail start y b' = (r, splice b' start new) := by
  have hhead := Bytes.length_slice_of_le hb
  obtain ⟨r, new, hnew, hy⟩ := h _ hhead
  refine ⟨r, new, hnew, ?_⟩
  intro b' hslice hlength
  apply window_of_head hy (hnew.trans hhead.symm)
  · rw [hhead, hslice]
  · rw [hhead, Bytes.length_slice]
    omega

structure Separate (x : Access α) (y : Access β) (b : Bytes) : Prop where
  left : (x (y b).2).1 = (x b).1
  right : (y (x b).2).1 = (y b).1
  commute : (y (x b).2).2 = (x (y b).2).2

theorem Spares.separate {start size : Nat} {x : Access α} {y : Access β} (hx : Spares start size x)
    (hy : Local size y) {b : Bytes} (hb : start + size ≤ b.length) :
    Separate x (Access.tail start y) b := by
  obtain ⟨r, new, hnew, hwindow⟩ := hy.tail hb
  have hbefore := hwindow b rfl rfl
  have hafter := hwindow (x b).2 (hx.slice_eq hb) (hx.length b)
  have hxy := hx.splice b new hnew
  constructor
  case left => rw [hbefore, hxy]
  case right => rw [hafter, hbefore]
  case commute => rw [hafter, hbefore, hxy]

end Access

end FalconPmu
