import FalconPmu.Bytes.Access

/-!
Calls confined to the head of their buffer. Such a call refuses a buffer shorter than its record and
leaves it alone; on any other it succeeds, and what lies behind the record it neither reads nor writes.
Run on a window, it keeps to the first bytes of the window.
-/

namespace FalconPmu

namespace Bytes

variable {α β : Type}

def Reads (size : Nat) (value : Bytes → α) : Prop :=
  ∀ head rest, head.length = size → value (head ++ rest) = value head

def Writes (size : Nat) (change : Bytes → Bytes) : Prop :=
  ∀ head rest, head.length = size →
    (change head).length = size ∧ change (head ++ rest) = change head ++ rest

theorem Reads.map {size : Nat} {value : Bytes → α} (h : Reads size value) (g : α → β) :
    Reads size fun b => g (value b) := by
  intro head rest hhead
  exact congrArg g (h head rest hhead)

theorem Writes.comp {size : Nat} {f g : Bytes → Bytes} (hf : Writes size f) (hg : Writes size g) :
    Writes size fun b => g (f b) := by
  intro head rest hhead
  obtain ⟨hlength, happend⟩ := hf head rest hhead
  simp only [happend]
  exact hg (f head) rest hlength

theorem writes_splice {offset size : Nat} {new : Bytes} (h : offset + new.length ≤ size) :
    Writes size fun b => splice b offset new := by
  intro head rest hhead
  rw [← hhead] at h
  exact ⟨(length_splice head offset new).trans hhead, splice_append h rest⟩

theorem take_append_slice_append_drop (b : Bytes) (start len : Nat) :
    b.take start ++ (slice b start len ++ b.drop (start + len)) = b := by
  rw [slice, ← List.drop_drop, List.take_append_drop, List.take_append_drop]

theorem slice_eq_append_drop {b : Bytes} {start size len : Nat}
    (h : size ≤ (slice b start len).length) :
    slice b start len = slice b start size ++ (slice b start len).drop size := by
  have hle : size ≤ len := by
    rw [length_slice] at h
    omega
  have hhead : slice b start size = (slice b start len).take size := by
    rw [slice, slice, List.take_take, Nat.min_eq_left hle]
  rw [hhead, List.take_append_drop]

theorem length_slice_of_long {b : Bytes} {start size len : Nat}
    (h : size ≤ (slice b start len).length) : (slice b start size).length = size := by
  rw [length_slice] at h ⊢
  omega

theorem drop_slice_append_drop {b : Bytes} {start len n : Nat} (h : n ≤ (slice b start len).length) :
    (slice b start len).drop n ++ b.drop (start + len) = b.drop (start + n) := by
  rw [← List.drop_append_of_le_length h, ← List.drop_drop, slice, List.take_append_drop,
    List.drop_drop]

theorem take_append_window_eq_splice {b new : Bytes} {start len : Nat}
    (h : new.length ≤ (slice b start len).length) :
    b.take start ++ ((new ++ (slice b start len).drop new.length) ++ b.drop (start + len)) =
      splice b start new := by
  have hfit : new.length ≤ b.length - start := by
    rw [length_slice] at h
    omega
  rw [List.append_assoc, drop_slice_append_drop h, splice, List.take_of_length_le hfit]

end Bytes

namespace Field

variable {α : Type} [Wire α]

theorem reads_get {f : Field α} {size : Nat} (h : f.stop ≤ size) : Bytes.Reads size f.get := by
  intro head rest hhead
  rw [← hhead] at h
  exact get_append h rest

theorem writes_put {f : Field α} {size : Nat} (h : f.stop ≤ size) (a : α) :
    Bytes.Writes size (f.put a) := by
  apply Bytes.writes_splice
  rw [Wire.length_encode]
  exact h

theorem writes_modify {f : Field α} {size : Nat} (h : f.stop ≤ size) (change : α → α) :
    Bytes.Writes size (f.modify change) := by
  intro head rest hhead
  rw [modify, modify, reads_get h head rest hhead]
  exact writes_put h _ head rest hhead

end Field

namespace Access

open Bytes (Reads Writes slice splice)

variable {α β : Type}

/-- On a buffer of at least `size` bytes the call succeeds and works on the head alone. -/
def Serves (size : Nat) (x : Access α) : Prop :=
  ∀ head, head.length = size → ∃ a new, new.length = size ∧
    ∀ rest, x (head ++ rest) = (.ok a, new ++ rest)

structure Confined (size : Nat) (x : Access α) : Prop where
  refuses : ∀ b, b.length < size → x b = (.error .invalidBufferSize, b)
  serves : Serves size x

theorem serves_pure (size : Nat) (a : α) : Serves size (pure a) :=
  fun head hhead => ⟨a, head, hhead, fun _ => rfl⟩

theorem Serves.bind {size : Nat} {x : Access α} {next : α → Access β} (hx : Serves size x)
    (hnext : ∀ a, Serves size (next a)) : Serves size (x >>= next) := by
  intro head hhead
  obtain ⟨a, mid, hmid, ha⟩ := hx head hhead
  obtain ⟨c, new, hnew, hc⟩ := hnext a mid hmid
  refine ⟨c, new, hnew, ?_⟩
  intro rest
  rw [bind_apply, ha]
  exact hc rest

theorem serves_forM {ι : Type} {size : Nat} {x : ι → Access Unit} {is : List ι}
    (h : ∀ i ∈ is, Serves size (x i)) : Serves size (is.forM x) := by
  induction is with
  | nil => exact serves_pure size ()
  | cons i is ih =>
    refine (h i List.mem_cons_self).bind fun _ => ih ?_
    intro j hj
    exact h j (List.mem_cons_of_mem i hj)

theorem confined_read {size : Nat} {value : Bytes → α} (h : Reads size value) :
    Confined size (read size value) where
  refuses := by
    intro b hb
    exact read_of_lt hb value
  serves := by
    intro head hhead
    refine ⟨value head, head, hhead, ?_⟩
    intro rest
    rw [read_of_le (by simp [hhead]), h head rest hhead]

theorem confined_write {size : Nat} {change : Bytes → Bytes} (h : Writes size change) :
    Confined size (write size change) where
  refuses := by
    intro b hb
    exact write_of_lt hb change
  serves := by
    intro head hhead
    refine ⟨(), change head, (h head [] hhead).1, ?_⟩
    intro rest
    rw [write_of_le (by simp [hhead]), (h head rest hhead).2]

theorem Confined.bind {size : Nat} {x : Access α} {next : α → Access β} (hx : Confined size x)
    (hnext : ∀ a, Serves size (next a)) : Confined size (x >>= next) where
  refuses := by
    intro b hb
    rw [bind_apply, hx.refuses b hb]
  serves := hx.serves.bind hnext

theorem confined_forM {ι : Type} {size : Nat} {x : ι → Access Unit} {is : List ι} (hne : is ≠ [])
    (h : ∀ i ∈ is, Confined size (x i)) : Confined size (is.forM x) := by
  cases is with
  | nil => exact absurd rfl hne
  | cons i is =>
    refine (h i List.mem_cons_self).bind fun _ => serves_forM ?_
    intro j hj
    exact (h j (List.mem_cons_of_mem i hj)).serves

theorem window_apply (start len : Nat) (x : Access α) (b : Bytes) :
    window start len x b =
      ((x (slice b start len)).1,
        b.take start ++ ((x (slice b start len)).2 ++ b.drop (start + len))) := rfl

theorem window_of_unchanged {start len : Nat} {x : Access α} {b : Bytes} {r : Except Fault α}
    (h : x (slice b start len) = (r, slice b start len)) : window start len x b = (r, b) := by
  rw [window_apply, h, Bytes.take_append_slice_append_drop]

theorem window_of_head {x : Access α} {head new : Bytes} {r : Except Fault α}
    (hx : ∀ rest, x (head ++ rest) = (r, new ++ rest)) (hnew : new.length = head.length)
    {start len : Nat} {b : Bytes} (hslice : slice b start head.length = head)
    (hlong : head.length ≤ (slice b start len).length) :
    window start len x b = (r, splice b start new) := by
  have hwindow := Bytes.slice_eq_append_drop hlong
  rw [hslice] at hwindow
  have hpart : x (slice b start len) = (r, new ++ (slice b start len).drop head.length) :=
    (congrArg x hwindow).trans (hx _)
  rw [← hnew] at hlong hpart
  rw [window_apply, hpart, Bytes.take_append_window_eq_splice hlong]

/-- What a caller sees of a call on a window of a larger buffer. -/
structure Bounded (size : Nat) (x : Access α) : Prop where
  refuses : ∀ start len b, (slice b start len).length < size →
    window start len x b = (.error .invalidBufferSize, b)
  succeeds : ∀ start len b, size ≤ (slice b start len).length →
    ∃ a, (window start len x b).1 = .ok a
  determined : ∀ start len b start' len' b', size ≤ (slice b start len).length →
    size ≤ (slice b' start' len').length → slice b start size = slice b' start' size →
    (window start len x b).1 = (window start' len' x b').1
  length : ∀ start len b, (window start len x b).2.length = b.length
  elsewhere : ∀ start len b i, i < start ∨ start + size ≤ i →
    (window start len x b).2[i]? = b[i]?

theorem Confined.window_of_short {size start len : Nat} {x : Access α} {b : Bytes}
    (h : Confined size x) (hb : (slice b start len).length < size) :
    window start len x b = (.error .invalidBufferSize, b) :=
  window_of_unchanged (h.refuses _ hb)

theorem Serves.window {size : Nat} {x : Access α} (h : Serves size x) {head : Bytes}
    (hhead : head.length = size) :
    ∃ a new, new.length = size ∧ ∀ start len b, slice b start size = head →
      size ≤ (slice b start len).length → window start len x b = (.ok a, splice b start new) := by
  obtain ⟨a, new, hnew, hx⟩ := h head hhead
  refine ⟨a, new, hnew, ?_⟩
  intro start len b hslice hlong
  rw [← hhead] at hnew hslice hlong
  exact window_of_head hx hnew hslice hlong

theorem Confined.window_of_long {size start len : Nat} {x : Access α} {b : Bytes}
    (h : Confined size x) (hb : size ≤ (slice b start len).length) :
    ∃ a new, new.length = size ∧ window start len x b = (.ok a, splice b start new) := by
  obtain ⟨a, new, hnew, hx⟩ := h.serves.window (Bytes.length_slice_of_long hb)
  exact ⟨a, new, hnew, hx start len b rfl hb⟩

theorem Confined.bounded {size : Nat} {x : Access α} (h : Confined size x) : Bounded size x where
  refuses := fun _ _ _ hb => h.window_of_short hb
  succeeds := by
    intro start len b hb
    obtain ⟨a, new, -, hx⟩ := h.window_of_long hb
    exact ⟨a, congrArg Prod.fst hx⟩
  determined := by
    intro start len b start' len' b' hb hb' hslice
    obtain ⟨a, new, -, hx⟩ := h.serves.window (Bytes.length_slice_of_long hb')
    rw [hx start len b hslice hb, hx start' len' b' rfl hb']
  length := by
    intro start len b
    cases Nat.lt_or_ge (slice b start len).length size with
    | inl hb => rw [h.window_of_short hb]
    | inr hb =>
      obtain ⟨a, new, -, hx⟩ := h.window_of_long hb
      rw [hx, Bytes.length_splice]
  elsewhere := by
    intro start len b i hi
    cases Nat.lt_or_ge (slice b start len).length size with
    | inl hb => rw [h.window_of_short hb]
    | inr hb =>
      obtain ⟨a, new, hnew, hx⟩ := h.window_of_long hb
      rw [hx, Bytes.getElem?_splice, hnew, if_neg (by omega)]

end Access

end FalconPmu
