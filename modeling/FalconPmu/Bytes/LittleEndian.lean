namespace FalconPmu

abbrev Bytes := List UInt8

namespace LittleEndian

def encode : Nat → Nat → Bytes
  | 0, _ => []
  | width + 1, n => UInt8.ofNat n :: encode width (n / 256)

def decode : Bytes → Nat
  | [] => 0
  | b :: bs => b.toNat + 256 * decode bs

def count : Nat → Nat
  | 0 => 1
  | width + 1 => 256 * count width

@[simp] theorem length_encode (width n : Nat) : (encode width n).length = width := by
  induction width generalizing n with
  | zero => rfl
  | succ width ih => simp [encode, ih]

theorem decode_lt (bs : Bytes) : decode bs < count bs.length := by
  induction bs with
  | nil => exact Nat.one_pos
  | cons b bs ih =>
    have hb : b.toNat < 256 := b.toNat_lt
    simp only [decode, List.length_cons, count]
    omega

theorem decode_encode (width n : Nat) : decode (encode width n) = n % count width := by
  induction width generalizing n with
  | zero => simp [encode, decode, count, Nat.mod_one]
  | succ width ih =>
    have hb : (UInt8.ofNat n).toNat = n % 256 := UInt8.toNat_ofNat'
    rw [encode, decode, ih, hb, count, Nat.mod_mul]

theorem encode_decode (bs : Bytes) : encode bs.length (decode bs) = bs := by
  induction bs with
  | nil => rfl
  | cons b bs ih =>
    have hb : b.toNat < 256 := b.toNat_lt
    have hlow : UInt8.ofNat (b.toNat + 256 * decode bs) = b := by
      apply UInt8.toNat.inj
      rw [UInt8.toNat_ofNat']
      omega
    have hhigh : (b.toNat + 256 * decode bs) / 256 = decode bs := by omega
    simp only [decode, List.length_cons, encode, hlow, hhigh, ih]

theorem encode_decode_of_length {bs : Bytes} {width : Nat} (h : bs.length = width) :
    encode width (decode bs) = bs := by
  rw [← h, encode_decode]

theorem count_eq_pow (width : Nat) : count width = Nat.pow 2 (8 * width) := by
  induction width with
  | zero => rfl
  | succ width ih =>
    change 256 * count width = 2 ^ (8 * width + 8)
    rw [ih, Nat.pow_add, Nat.mul_comm]
    rfl

theorem count_le_count {v w : Nat} (h : v ≤ w) : count v ≤ count w := by
  rw [count_eq_pow, count_eq_pow]
  exact Nat.pow_le_pow_right (by decide) (Nat.mul_le_mul_left 8 h)

theorem count_add (v w : Nat) : count (v + w) = count v * count w := by
  rw [count_eq_pow, count_eq_pow, count_eq_pow, Nat.mul_add]
  exact Nat.pow_add 2 (8 * v) (8 * w)

theorem or_lt_count {width m n : Nat} (hm : m < count width) (hn : n < count width) :
    m ||| n < count width := by
  rw [count_eq_pow] at *
  exact Nat.or_lt_two_pow hm hn

theorem decode_mod_count {bs : Bytes} {width : Nat} (h : bs.length ≤ width) :
    decode bs % count width = decode bs :=
  Nat.mod_eq_of_lt (Nat.lt_of_lt_of_le (decode_lt bs) (count_le_count h))

theorem encode_mod_count (width n : Nat) : encode width (n % count width) = encode width n := by
  rw [← decode_encode, encode_decode_of_length (length_encode width n)]

theorem encode_add (v w n : Nat) :
    encode (v + w) n = encode v n ++ encode w (n / count v) := by
  induction v generalizing n with
  | zero => simp [encode, count]
  | succ v ih =>
    rw [Nat.succ_add, encode, ih, Nat.div_div_eq_div_mul, encode, count, List.cons_append]

theorem encode_append {v m : Nat} (hm : m < count v) (w n : Nat) :
    encode v m ++ encode w n = encode (v + w) (m + count v * n) := by
  have hlow : (m + count v * n) % count v = m := by
    rw [Nat.add_mul_mod_self_left, Nat.mod_eq_of_lt hm]
  have hhigh : (m + count v * n) / count v = n := by
    rw [Nat.add_mul_div_left _ _ (by omega), Nat.div_eq_of_lt hm, Nat.zero_add]
  rw [encode_add, hhigh, ← encode_mod_count v (m + count v * n), hlow]

theorem decode_append (bs ds : Bytes) :
    decode (bs ++ ds) = decode bs + count bs.length * decode ds := by
  induction bs with
  | nil => simp [decode, count]
  | cons b bs ih =>
    simp only [List.cons_append, decode, List.length_cons, count, ih]
    rw [Nat.mul_add, Nat.mul_assoc, Nat.add_assoc]

theorem decode_take_drop (v : Nat) (bs : Bytes) :
    decode (bs.take v) + count v * decode (bs.drop v) = decode bs := by
  cases Nat.lt_or_ge bs.length v with
  | inl hshort =>
    rw [List.take_of_length_le (by omega), List.drop_eq_nil_of_le (by omega)]
    rfl
  | inr hlong =>
    have happend := decode_append (bs.take v) (bs.drop v)
    rw [List.take_append_drop, List.length_take, Nat.min_eq_left hlong] at happend
    exact happend.symm

end LittleEndian

end FalconPmu
