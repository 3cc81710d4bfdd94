import FalconPmu.Bytes.Field
import FalconPmu.Fault

/-!
Fallible calls on a byte buffer. The buffer left behind is part of the outcome whether the call
succeeds or not, so a call that fails half way would show it.
-/

namespace FalconPmu

def Access (α : Type) := Bytes → Except Fault α × Bytes

namespace Access

variable {α β : Type}

def bind (x : Access α) (next : α → Access β) : Access β := fun b =>
  match x b with
  | (.ok a, b') => next a b'
  | (.error e, b') => (.error e, b')

instance : Monad Access where
  pure a := fun b => (.ok a, b)
  bind := bind

def fail (e : Fault) : Access α := fun b => (.error e, b)

def ofExcept (r : Except Fault α) : Access α := fun b => (r, b)

def read (size : Nat) (value : Bytes → α) : Access α := fun b =>
  if size ≤ b.length then (.ok (value b), b) else (.error .invalidBufferSize, b)

def write (size : Nat) (change : Bytes → Bytes) : Access Unit := fun b =>
  if size ≤ b.length then (.ok (), change b) else (.error .invalidBufferSize, b)

/-- Runs a call on the part of the buffer that begins at `start` and has at most `size` bytes. -/
def window (start size : Nat) (x : Access α) : Access α := fun b =>
  let (r, part) := x (Bytes.slice b start size)
  (r, b.take start ++ (part ++ b.drop (start + size)))

@[simp] theorem pure_apply (a : α) (b : Bytes) : (pure a : Access α) b = (.ok a, b) := rfl

theorem bind_apply (x : Access α) (next : α → Access β) (b : Bytes) :
    (x >>= next) b = match x b with
      | (.ok a, b') => next a b'
      | (.error e, b') => (.error e, b') := rfl

@[simp] theorem fail_apply (e : Fault) (b : Bytes) : (fail e : Access α) b = (.error e, b) := rfl

theorem read_of_le {size : Nat} {b : Bytes} (h : size ≤ b.length) (value : Bytes → α) :
    read size value b = (.ok (value b), b) := if_pos h

theorem read_of_lt {size : Nat} {b : Bytes} (h : b.length < size) (value : Bytes → α) :
    read size value b = (.error .invalidBufferSize, b) := if_neg (by omega)

theorem state_read (size : Nat) (value : Bytes → α) (b : Bytes) : (read size value b).2 = b := by
  rw [read]
  split <;> rfl

theorem write_of_le {size : Nat} {b : Bytes} (h : size ≤ b.length) (change : Bytes → Bytes) :
    write size change b = (.ok (), change b) := if_pos h

theorem write_of_lt {size : Nat} {b : Bytes} (h : b.length < size) (change : Bytes → Bytes) :
    write size change b = (.error .invalidBufferSize, b) := if_neg (by omega)

theorem length_write {change : Bytes → Bytes} (h : ∀ b, (change b).length = b.length) (size : Nat)
    (b : Bytes) : (write size change b).2.length = b.length := by
  rw [write]
  split
  · exact h b
  · rfl

theorem write_bind_write {size : Nat} {first second : Bytes → Bytes}
    (h : ∀ b, (first b).length = b.length) :
    (write size first >>= fun _ => write size second) = write size fun b => second (first b) := by
  funext b
  rw [bind_apply]
  cases Nat.lt_or_ge b.length size with
  | inl hb => rw [write_of_lt hb, write_of_lt hb]
  | inr hb =>
    rw [write_of_le hb, write_of_le hb]
    exact write_of_le (by rw [h]; exact hb) second

end Access

end FalconPmu
