import FalconPmu.Proofs.Record.PowerGating

namespace FalconPmu.PowerGating

open FalconPmu.PowerGating.Cell (twice)

theorem or_mod_self (n : Nat) : n ||| n % 0x100 = n := by
  apply Nat.eq_of_testBit_eq
  intro i
  have hmod : (n % 0x100).testBit i = (decide (i < 8) && n.testBit i) := Nat.testBit_mod_two_pow n 8 i
  rw [Nat.testBit_or, hmod]
  cases n.testBit i <;> simp

theorem or_eq_right_iff {m n : Nat} :
    m ||| n = n ↔ ∀ i, m.testBit i = true → n.testBit i = true := by
  constructor
  · intro h i hi
    rw [← h, Nat.testBit_or, hi, Bool.true_or]
  · intro h
    apply Nat.eq_of_testBit_eq
    intro i
    rw [Nat.testBit_or]
    cases hi : m.testBit i with
    | false => exact Bool.false_or _
    | true => rw [h i hi, Bool.true_or]

theorem fifth_byte_eq_zero_iff {n : Nat} :
    n / 0x100000000 % 0x100 = 0 ↔ ∀ i, 32 ≤ i → i < 40 → n.testBit i = false := by
  have hbit (i : Nat) :
      (n / 0x100000000 % 0x100).testBit i = (decide (i < 8) && n.testBit (i + 32)) := by
    refine (Nat.testBit_mod_two_pow _ 8 i).trans ?_
    rw [← Nat.testBit_div_two_pow]
  constructor
  · intro h i hlow hhigh
    have hzero := hbit (i - 32)
    rw [h, Nat.zero_testBit, Nat.sub_add_cancel hlow, decide_eq_true (by omega)] at hzero
    exact hzero.symm
  · intro h
    apply Nat.eq_of_testBit_eq
    intro i
    rw [hbit, Nat.zero_testBit]
    by_cases hi : i < 8
    · rw [h (i + 32) (by omega) (by omega), Bool.and_false]
    · rw [decide_eq_false hi, Bool.false_and]

theorem or_mul_twice {m n : Nat} (hm : m < 0x100000000) (hn : n < 0x100000000) :
    m * twice ||| n * twice = (m ||| n) * twice := by
  have hor : m ||| n < 0x100000000 := Nat.or_lt_two_pow (n := 32) hm hn
  rw [mul_twice hm, mul_twice hn, mul_twice hor, Nat.shiftLeft_or_distrib]
  rw [Nat.or_assoc, Nat.or_assoc, ← Nat.or_assoc m, Nat.or_comm m, Nat.or_assoc]

def Update.whole (a : UInt64) : List Update := [.dmaAddress a]

def Update.split (a : UInt64) : List Update := [.dmaBase a, .dmaOffset a.toUInt8]

open Update (whole split)

namespace Revision

def kept : Revision → UInt64 → Nat
  | v0, a => a.toNat % 0x10000000000
  | v1, a | v2, a => a.toNat

def addressSpan : Revision → Span
  | v0 => ⟨8, 5⟩
  | v1 | v2 => ⟨4, 8⟩

/-- Base and offset leave the command as the whole address does. -/
def Agrees : Revision → UInt64 → Bytes → Prop
  | v0, a, _ => ∀ i, 32 ≤ i → i < 40 → a.toNat.testBit i = false
  | v1, a, b => ∀ i, (Span.read ⟨4, 8⟩ b).testBit i = true → a.toNat.testBit i = true
  | v2, a, _ => a.toNat / 0x100000000 = a.toNat % 0x100000000

def SameWords : Revision → UInt64 → Bytes → Prop
  | v0, a, _ =>
    a.toNat % 0x100000000 / 0x100 = a.toNat / 0x100 % 0x100000000 ∧ a.toUInt8.toNat = a.toNat % 0x100
  | v1, a, b => Span.read ⟨4, 8⟩ b ||| a.toNat ||| a.toUInt8.toNat = a.toNat
  | v2, a, _ => a.toNat % 0x100000000 * twice ||| a.toUInt8.toNat * twice = a.toNat

theorem size_layout_le (r : Revision) {b : Bytes} (hb : 16 ≤ b.length) : r.layout.size ≤ b.length := by
  cases r <;> exact hb

theorem after_split_eq_iff (r : Revision) (a : UInt64) {b : Bytes} (hb : 16 ≤ b.length) :
    r.layout.after (split a) b = r.layout.after (whole a) b ↔ r.SameWords a b := by
  rw [Layout.after_eq_iff (r.size_layout_le hb)]
  cases r <;>
    simp only [layout, List.forall_mem_cons, List.not_mem_nil, false_implies, implies_true, split,
      whole, List.map_cons, List.map_nil, List.foldl_cons, List.foldl_nil, Stroke.apply,
      FalconPmu.Cell.plain, Cell.commandType, Cell.engineId, Cell.bufferIndex, Cell.pad,
      Cell.bufferSize₀, Cell.dmaBase₀, Cell.dmaOffset₀, Cell.dmaIndex₀, Cell.address₁,
      Cell.bufferSize₁, Cell.dmaIndex₁, Cell.address₂, Cell.params₂, and_true, true_and, SameWords]

theorem sameWords_iff (r : Revision) (a : UInt64) (b : Bytes) : r.SameWords a b ↔ r.Agrees a b := by
  have hbyte : a.toUInt8.toNat = a.toNat % 0x100 := UInt64.toNat_toUInt8 a
  cases r with
  | v0 =>
    rw [SameWords, Agrees, ← fifth_byte_eq_zero_iff]
    omega
  | v1 => rw [SameWords, Agrees, ← or_eq_right_iff, hbyte, Nat.or_assoc, or_mod_self]
  | v2 =>
    have hlow : a.toNat % 0x100000000 < 0x100000000 := Nat.mod_lt _ (by decide)
    -- The offset is the low byte of the half that the base has written twice, so it adds nothing.
    have hoffset : a.toUInt8.toNat = a.toNat % 0x100000000 % 0x100 := by omega
    rw [SameWords, Agrees, hoffset, or_mul_twice hlow (by omega), or_mod_self, twice]
    omega

theorem outside_of_whole {r : Revision} {a : UInt64} {k : Nat}
    (hk : k < r.addressSpan.offset ∨ r.addressSpan.stop ≤ k) :
    ∀ c ∈ r.layout.cells, ∀ u ∈ whole a, c.stroke u ≠ .keep → c.Outside k := by
  cases r <;>
    simp [layout, whole, addressSpan, Span.stop, FalconPmu.Cell.Outside, FalconPmu.Cell.plain,
      Cell.commandType, Cell.engineId, Cell.bufferIndex, Cell.pad, Cell.bufferSize₀, Cell.dmaBase₀,
      Cell.dmaOffset₀, Cell.dmaIndex₀, Cell.address₁, Cell.bufferSize₁, Cell.dmaIndex₁,
      Cell.address₂, Cell.params₂] at hk ⊢ <;>
    omega

theorem toNat_eq_kept {r : Revision} {a x : UInt64} {b : Bytes} (hb : 16 ≤ b.length)
    (h : Query.Reports r .dmaAddress (r.layout.after (whole a) b) x) : x.toNat = r.kept a := by
  cases r with
  | v0 =>
    have hbase := Layout.read_after (l := v0.layout) (c := Cell.dmaBase₀) (by simp [layout])
      (whole a) hb
    have hoffset := Layout.read_after (l := v0.layout) (c := Cell.dmaOffset₀) (by simp [layout])
      (whole a) hb
    simp only [Query.Reports, hbase, hoffset] at h
    simp only [whole, Cell.dmaBase₀, Cell.dmaOffset₀, List.map_cons, List.map_nil, List.foldl_cons,
      List.foldl_nil, Stroke.apply] at h
    rw [h, kept]
    omega
  | v1 => exact h.trans (Layout.read_after (l := v1.layout) (by simp [layout]) (whole a) hb)
  | v2 => exact h.trans (Layout.read_after (l := v2.layout) (by simp [layout]) (whole a) hb)

theorem agrees_of_zeroed (a : UInt64) {b : Bytes} (h : b.take 16 = List.replicate 16 0) :
    v1.Agrees a b := by
  have hzero : Span.read ⟨4, 8⟩ (List.replicate 16 0 ++ b.drop 16) = 0 := by
    rw [Span.read, Bytes.slice_append (by decide)]
    rfl
  rw [← h, List.take_append_drop] at hzero
  intro i hi
  rw [hzero, Nat.zero_testBit] at hi
  cases hi

end Revision

structure Addressed (r : Revision) (a : UInt64) (b b' b'' : Bytes) : Prop where
  length : b'.length = b.length
  kept : ∃ x, r.run (.get .dmaAddress) b' = (.ok x, b') ∧ x.toNat = r.kept a
  elsewhere : ∀ k, k < r.addressSpan.offset ∨ r.addressSpan.stop ≤ k → b'[k]? = b[k]?
  agrees_iff : b'' = b' ↔ r.Agrees a b
  zeroed : r = .v1 → b.take 16 = List.replicate 16 0 → b'' = b'

theorem addressed_after (r : Revision) (a : UInt64) {b : Bytes} (hb : 16 ≤ b.length) :
    Addressed r a b (r.layout.after (whole a) b) (r.layout.after (split a) b) where
  length := r.layout.length_after _ b
  kept := by
    have hlong : r.size ≤ (r.layout.after (whole a) b).length := by
      rw [Layout.length_after]
      cases r <;> exact hb
    have hreports := Query.reports_value r .dmaAddress (r.layout.after (whole a) b)
    exact ⟨_, Access.read_of_le hlong (Query.value r .dmaAddress), r.toNat_eq_kept hb hreports⟩
  elsewhere := fun k hk => Layout.getElem?_after (Revision.outside_of_whole hk) b
  agrees_iff := (r.after_split_eq_iff a hb).trans (r.sameWords_iff a b)
  zeroed := by
    rintro rfl hzero
    have hagrees := Revision.agrees_of_zeroed a hzero
    exact ((Revision.v1.after_split_eq_iff a hb).trans (Revision.v1.sameWords_iff a b)).2 hagrees

theorem addressed_command (r : Revision) (a : UInt64) {b : Bytes} (hb : 16 ≤ b.length) :
    ∃ b' b'', r.run (.set (.dmaAddress a)) b = (.ok (), b') ∧
      (do r.run (.set (.dmaBase a)); r.run (.set (.dmaOffset a.toUInt8)) : Access Unit) b =
        (.ok (), b'') ∧
      Addressed r a b b' b'' := by
  have hsize := r.size_layout_le hb
  have hbase : r.run (.set (.dmaBase a)) b = (.ok (), r.layout.after [.dmaBase a] b) :=
    r.governs_layout _ b hsize
  have hlong : r.layout.size ≤ (r.layout.after [.dmaBase a] b).length := by
    rw [Layout.length_after]
    exact hsize
  refine ⟨_, _, r.governs_layout (.dmaAddress a) b hsize, ?_, addressed_after r a hb⟩
  rw [Access.bind_apply, hbase]
  exact r.governs_layout (.dmaOffset a.toUInt8) _ hlong

theorem addressed_command_dirty :
    let a : UInt64 := 0x123456789abcdef0
    let b : Bytes := List.replicate 17 0xff
    16 ≤ b.length ∧
      (∃ b' x, Revision.v0.run (.set (.dmaAddress a)) b = (.ok (), b') ∧
        Revision.v0.run (.get .dmaAddress) b' = (.ok x, b') ∧ x.toNat = 0x789abcdef0 ∧
        b'[13]? = some 0xff) ∧
      ∃ b' b'', Revision.v1.run (.set (.dmaAddress a)) b = (.ok (), b') ∧
        (do Revision.v1.run (.set (.dmaBase a)); Revision.v1.run (.set (.dmaOffset a.toUInt8)) :
          Access Unit) b = (.ok (), b'') ∧
        b'' ≠ b' := by
  intro a b
  have hb : 16 ≤ b.length := by decide
  refine ⟨hb, ?_, ?_⟩
  · obtain ⟨b', b'', hwhole, -, addressed⟩ := addressed_command .v0 a hb
    obtain ⟨x, hget, hx⟩ := addressed.kept
    exact ⟨b', x, hwhole, hget, hx.trans (by decide +kernel), addressed.elsewhere 13 (by decide)⟩
  · obtain ⟨b', b'', hwhole, hsplit, addressed⟩ := addressed_command .v1 a hb
    refine ⟨b', b'', hwhole, hsplit, ?_⟩
    intro heq
    have hbit := addressed.agrees_iff.1 heq 0 (by decide +kernel)
    exact absurd hbit (by decide +kernel)

end FalconPmu.PowerGating
