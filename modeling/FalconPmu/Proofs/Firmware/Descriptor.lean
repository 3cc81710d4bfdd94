import FalconPmu.Firmware.Descriptor
import FalconPmu.Proofs.Buffer.Confinement
import FalconPmu.Proofs.Buffer.Piece
import FalconPmu.Proofs.Record.Word
import Mathlib.Data.List.Basic

namespace FalconPmu

theorem Bytes.flatMap_slice (b : Bytes) (offset width n : Nat) :
    (List.range n).flatMap (fun i => slice b (offset + width * i) width) =
      slice b offset (width * n) := by
  induction n with
  | zero => rfl
  | succ n ih =>
    rw [List.range_succ, List.flatMap_append, ih, List.flatMap_singleton, Nat.mul_succ, slice_add]

namespace Descriptor

open Bytes (slice)

def words (d : Descriptor) : List (Nat × UInt32) :=
  [(0, d.descriptorSize), (4, d.imageSize), (8, d.toolsVersion), (12, d.appVersion),
    (80, d.bootloaderStartOffset), (84, d.bootloaderSize), (88, d.bootloaderImemOffset),
    (92, d.bootloaderEntryPoint), (96, d.appStartOffset), (100, d.appSize), (104, d.appImemOffset),
    (108, d.appImemEntry), (112, d.appDmemOffset), (116, d.appResidentCodeOffset),
    (120, d.appResidentCodeSize), (124, d.appResidentDataOffset), (128, d.appResidentDataSize),
    (132, d.overlayCount)] ++
  d.overlayTable.zipIdx.flatMap (fun (o, i) => [(136 + 8 * i, o.start), (140 + 8 * i, o.size)]) ++
  [(392, d.compressed)]

def pieces (d : Descriptor) : List Piece :=
  ⟨16, d.date⟩ :: d.words.map fun (offset, w) => ⟨offset, Wire.encode w⟩

def wordOffsets : List Nat := (List.range 4 ++ List.range' 20 79).map (4 * ·)

theorem mem_wordOffsets {o : Nat} :
    o ∈ wordOffsets ↔ ∃ j, (j < 4 ∨ 20 ≤ j ∧ j < 99) ∧ 4 * j = o := by
  simp [wordOffsets, or_and_right, exists_or]

theorem words_ofBytes (b : Bytes) : (ofBytes b).words = wordOffsets.map fun o => (o, word o b) := rfl

theorem mem_pieces_ofBytes {b : Bytes} {p : Piece} :
    p ∈ (ofBytes b).pieces ↔
      p = ⟨16, slice b 16 64⟩ ∨ ∃ o ∈ wordOffsets, p = (Field.mk o).piece (word o b) := by
  rw [pieces, words_ofBytes, List.map_map, List.mem_cons, List.mem_map]
  refine or_congr Iff.rfl (exists_congr fun o => and_congr_right fun _ => ?_)
  exact eq_comm

theorem stands_pieces_ofBytes {b : Bytes} (hb : 396 ≤ b.length) :
    ∀ p ∈ (ofBytes b).pieces, p.Stands b := by
  intro p hp
  obtain rfl | ⟨o, ho, rfl⟩ := mem_pieces_ofBytes.1 hp
  · have hlength : (slice b 16 64).length = 64 := Bytes.length_slice_of_le (by omega)
    rw [Piece.Stands, hlength]
  · obtain ⟨j, hj, rfl⟩ := mem_wordOffsets.1 ho
    have hstop : (Field.mk (4 * j) : Field UInt32).stop ≤ b.length := by
      change 4 * j + 4 ≤ b.length
      omega
    exact (Field.stands_piece_iff hstop).2 rfl

theorem covers_pieces_ofBytes {b : Bytes} (hb : 396 ≤ b.length) {k : Nat} (hk : k < 396) :
    ∃ p ∈ (ofBytes b).pieces, p.Covers k := by
  by_cases hdate : 16 ≤ k ∧ k < 80
  · refine ⟨_, mem_pieces_ofBytes.2 (.inl rfl), hdate.1, ?_⟩
    have hlength : (slice b 16 64).length = 64 := Bytes.length_slice_of_le (by omega)
    rw [Piece.stop, hlength]
    exact hdate.2
  · -- Outside the date the bytes go by words, and this one is in the word at `4 * (k / 4)`.
    have ho : 4 * (k / 4) ∈ wordOffsets := mem_wordOffsets.2 ⟨k / 4, by omega, rfl⟩
    refine ⟨_, mem_pieces_ofBytes.2 (.inr ⟨_, ho, rfl⟩), Field.covers_piece_iff.2 ?_⟩
    change 4 * (k / 4) ≤ k ∧ k < 4 * (k / 4) + 4
    omega

theorem writeAll_pieces_ofBytes {b c : Bytes} (hb : b.length = 396) (hc : c.length = 396) :
    Piece.writeAll (ofBytes b).pieces c = b := by
  apply Piece.writeAll_eq_of_stands (hc.trans hb.symm) (stands_pieces_ofBytes (by omega))
  intro k hk
  exact covers_pieces_ofBytes (by omega) (hb ▸ hk)

theorem encode_word {o : Nat} {b : Bytes} (h : o + 4 ≤ b.length) :
    Wire.encode (word o b) = slice b o 4 :=
  Wire.encode_decode _ (Bytes.length_slice_of_le h)

theorem flatMap_encode_word {b : Bytes} (offset n : Nat) (h : offset + 4 * n ≤ b.length) :
    ((List.range n).map fun i => word (offset + 4 * i) b).flatMap Wire.encode =
      slice b offset (4 * n) := by
  rw [← Bytes.flatMap_slice, List.flatMap_map]
  apply List.flatMap_congr
  intro i hi
  have hlt := List.mem_range.1 hi
  exact encode_word (by omega)

theorem flatMap_encode_overlay {b : Bytes} {n : Nat} (h : 136 + 8 * n ≤ b.length) :
    ((List.range n).map fun i => overlay i b).flatMap
      (fun o => Wire.encode o.start ++ Wire.encode o.size) = slice b 136 (8 * n) := by
  rw [← Bytes.flatMap_slice, List.flatMap_map]
  apply List.flatMap_congr
  intro i hi
  have hlt := List.mem_range.1 hi
  have hstart := encode_word (b := b) (o := 136 + 8 * i) (by omega)
  have hsize := encode_word (b := b) (o := 136 + 8 * i + 4) (by omega)
  rw [overlay]
  exact (congrArg₂ (· ++ ·) hstart hsize).trans (Bytes.slice_add b (136 + 8 * i) 4 4).symm

theorem toBytes_ofBytes {b : Bytes} (hb : b.length = 396) : (ofBytes b).toBytes = b := by
  have hfirst := flatMap_encode_word (b := b) 0 4 (by omega)
  have hwords := flatMap_encode_word (b := b) 80 14 (by omega)
  have htable := flatMap_encode_overlay (b := b) (n := 32) (by omega)
  have hlast := encode_word (b := b) (o := 392) (by omega)
  calc (ofBytes b).toBytes
    _ = slice b 0 16 ++ slice b 16 64 ++ slice b 80 56 ++ slice b 136 256 ++ slice b 392 4 := by
      rw [← hfirst, ← hwords, ← htable, ← hlast]
      rfl
    _ = slice b 0 80 ++ slice b 80 56 ++ slice b 136 256 ++ slice b 392 4 := by
      rw [← Bytes.slice_add b 0 16 64]
    _ = slice b 0 136 ++ slice b 136 256 ++ slice b 392 4 := by
      rw [← Bytes.slice_add b 0 80 56]
    _ = slice b 0 392 ++ slice b 392 4 := by
      rw [← Bytes.slice_add b 0 136 256]
    _ = slice b 0 396 := (Bytes.slice_add b 0 392 4).symm
    _ = b := by
      rw [slice, List.drop_zero, ← hb, List.take_length]

theorem reads_ofBytes : Bytes.Reads 396 ofBytes := by
  intro head rest hhead
  have hword (o : Nat) (ho : o + 4 ≤ 396) : word o (head ++ rest) = word o head :=
    Field.reads_get (f := Field.mk o) ho head rest hhead
  have hdate : slice (head ++ rest) dateOffset dateSize = slice head dateOffset dateSize :=
    Bytes.slice_append (by rw [hhead]; decide) rest
  have htable : (List.range tableLength).map (fun i => overlay i (head ++ rest)) =
      (List.range tableLength).map fun i => overlay i head := by
    apply List.map_congr_left
    intro i hi
    have hlt : i < 32 := List.mem_range.1 hi
    rw [overlay, overlay, tableOffset, hword _ (by omega), hword _ (by omega)]
  simp (disch := decide) only [ofBytes, hword, hdate, htable]

structure Lists (os : List Overlay) (count : Nat) (head : Bytes) : Prop where
  length : os.length = count
  entry : ∀ i < count, ∃ o, os[i]? = some o ∧
    o.start.toNat = Span.read ⟨136 + 8 * i, 4⟩ head ∧ o.size.toNat = Span.read ⟨140 + 8 * i, 4⟩ head

theorem toNat_word (o : Nat) (b : Bytes) : (word o b).toNat = Span.read ⟨o, 4⟩ b :=
  Field.toNat_get (⟨o⟩ : Field UInt32) b

theorem lists_overlays (b : Bytes) (n : UInt32) :
    Lists { ofBytes b with overlayCount := n }.overlays (min n.toNat 32) b where
  length := by
    simp [overlays, ofBytes, tableLength]
  entry := by
    intro i hi
    have hn : i < n.toNat := by omega
    have htable : i < 32 := by omega
    refine ⟨overlay i b, ?_, toNat_word _ b, ?_⟩
    · simp [overlays, ofBytes, tableLength, hn, htable]
    · have hoffset : 136 + 8 * i + 4 = 140 + 8 * i := by omega
      rw [← hoffset]
      exact toNat_word _ b

structure Mirrors (d : Descriptor) (head : Bytes) : Prop where
  date : d.date.length = 64
  table : d.overlayTable.length = 32
  restored : ∀ c : Bytes, c.length = 396 → Piece.writeAll d.pieces c = head
  toBytes : d.toBytes = head
  overlayCount : d.overlayCount.toNat = Span.read ⟨132, 4⟩ head
  overlays : ∀ n : UInt32, Lists { d with overlayCount := n }.overlays (min n.toNat 32) head

theorem mirrors_ofBytes {head : Bytes} (h : head.length = 396) : (ofBytes head).Mirrors head where
  date := Bytes.length_slice_of_le (by rw [h]; decide)
  table := by simp [ofBytes, tableLength]
  restored := fun _ hc => writeAll_pieces_ofBytes h hc
  toBytes := toBytes_ofBytes h
  overlayCount := toNat_word 132 head
  overlays := lists_overlays head

theorem parse_of_le {b : Bytes} (h : 396 ≤ b.length) : parse b = .ok (ofBytes (b.take 396)) := by
  have hreads := reads_ofBytes (b.take 396) (b.drop 396) (List.length_take_of_le h)
  rw [List.take_append_drop] at hreads
  exact (if_pos h).trans (congrArg Except.ok hreads)

/-- A descriptor is read off every byte string that is long enough for it, and it is worth just as much
as the bytes at the head of that string. -/
theorem mirrored_parse (b : Bytes) :
    (parse b = .error .malformedDescriptor ↔ b.length < 396) ∧
    (396 ≤ b.length → ∃ d, parse b = .ok d ∧ d.Mirrors (b.take 396)) ∧
    ∀ b' : Bytes, 396 ≤ b.length → 396 ≤ b'.length →
      (parse b = parse b' ↔ b.take 396 = b'.take 396) := by
  refine ⟨?_, ?_, ?_⟩
  · constructor
    · intro herror
      by_contra hlong
      rw [parse_of_le (by omega)] at herror
      cases herror
    · intro hshort
      exact if_neg (Nat.not_le.2 hshort)
  · intro hlong
    exact ⟨_, parse_of_le hlong, mirrors_ofBytes (List.length_take_of_le hlong)⟩
  · intro b' hlong hlong'
    rw [parse_of_le hlong, parse_of_le hlong']
    constructor
    · intro hparse
      have hdescriptor := Except.ok.inj hparse
      have hmirrors := mirrors_ofBytes (List.length_take_of_le hlong)
      have hmirrors' := mirrors_ofBytes (List.length_take_of_le hlong')
      rw [← hmirrors.toBytes, hdescriptor, hmirrors'.toBytes]
    · intro hhead
      rw [hhead]

theorem mirrored_parse_crowded :
    let b : Bytes := List.replicate 400 0xff
    396 ≤ b.length ∧ parse (b.take 395) = .error .malformedDescriptor ∧
      ∃ d, parse b = .ok d ∧ d.toBytes = b.take 396 ∧ d.overlayCount = 0xffffffff ∧
        d.overlays.length = 32 := by
  intro b
  have hlong : 396 ≤ b.length := by decide +kernel
  obtain ⟨d, hparse, mirrors⟩ := (mirrored_parse b).2.1 hlong
  have hcount : d.overlayCount = 0xffffffff := by
    apply UInt32.toNat.inj
    exact mirrors.overlayCount.trans (by decide)
  refine ⟨hlong, ?_, d, hparse, mirrors.toBytes, hcount, ?_⟩
  · exact (mirrored_parse (b.take 395)).1.2 (by decide +kernel)
  · refine (mirrors.overlays d.overlayCount).length.trans ?_
    rw [hcount]
    decide

end Descriptor

end FalconPmu
