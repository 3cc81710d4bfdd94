import FalconPmu.Proofs.Firmware.Delivery

namespace FalconPmu

theorem checkedAdd_of_lt {x y : UInt64} (h : x.toNat + y.toNat < 0x10000000000000000) :
    ∃ sum, checkedAdd x y = some sum ∧ sum.toNat = x.toNat + y.toNat := by
  refine ⟨x + y, if_pos h, ?_⟩
  rw [UInt64.toNat_add]
  exact Nat.mod_eq_of_lt h

theorem Bytes.range?_add (b : Bytes) (start size : Nat) :
    b.range? start (start + size) =
      if start + size ≤ b.length then some (slice b start size) else none := by
  rw [range?, List.drop_take, Nat.add_sub_cancel_left, slice]
  simp

namespace Descriptor

theorem imageBounds?_eq (d : Descriptor) :
    ∃ start stop, d.imageBounds? = some (start, stop) ∧ start.toNat = d.descriptorSize.toNat ∧
      stop.toNat = d.descriptorSize.toNat + (d.appStartOffset.toNat + d.appSize.toNat) := by
  have hstart := d.descriptorSize.toNat_lt
  have hoffset := d.appStartOffset.toNat_lt
  have happ := d.appSize.toNat_lt
  -- Three words of 32 bits never add up to more than one of 64 bits holds.
  obtain ⟨size, hsize, hsizeNat⟩ := checkedAdd_of_lt (x := d.appStartOffset.toUInt64)
    (y := d.appSize.toUInt64) (by rw [UInt32.toNat_toUInt64, UInt32.toNat_toUInt64]; omega)
  rw [UInt32.toNat_toUInt64, UInt32.toNat_toUInt64] at hsizeNat
  obtain ⟨stop, hstop, hstopNat⟩ := checkedAdd_of_lt (x := d.descriptorSize.toUInt64) (y := size)
    (by rw [UInt32.toNat_toUInt64, hsizeNat]; omega)
  rw [UInt32.toNat_toUInt64, hsizeNat] at hstopNat
  refine ⟨_, stop, ?_, UInt32.toNat_toUInt64 _, hstopNat⟩
  rw [imageBounds?, hsize]
  change (checkedAdd d.descriptorSize.toUInt64 size >>= _) = _
  rw [hstop]
  rfl

end Descriptor

theorem Blobs.exists_unlocked {B : Type} {blobs : Blobs B} (h : blobs.isSecure = false) :
    ∃ combined, blobs = .unlocked combined := by
  cases blobs with
  | unlocked combined => exact ⟨combined, rfl⟩
  | secure => cases h

theorem Blobs.exists_secure {B : Type} {blobs : Blobs B} (h : blobs.isSecure = true) :
    ∃ image descriptor signature, blobs = .secure image descriptor signature := by
  cases blobs with
  | unlocked => cases h
  | secure image descriptor signature => exact ⟨image, descriptor, signature, rfl⟩

namespace Firmware

variable {L B : Type} [Blob B]

/-- The image, with its bounds added up in numbers that have no end. -/
def imageExact (f : Firmware B) : Except Fault Bytes :=
  match f.blobs with
  | .secure image _ _ => .ok (Blob.bytes image)
  | .unlocked combined =>
    let start := f.descriptor.descriptorSize.toNat
    let size := f.descriptor.appStartOffset.toNat + f.descriptor.appSize.toNat
    if start + size ≤ (Blob.bytes combined).length then
      .ok (Bytes.slice (Blob.bytes combined) start size)
    else
      .error .malformedDescriptor

theorem image_eq_imageExact (f : Firmware B) : f.image = f.imageExact := by
  obtain ⟨start, stop, hbounds, hstart, hstop⟩ := f.descriptor.imageBounds?_eq
  cases hblobs : f.blobs with
  | secure => rw [image, imageExact, hblobs]
  | unlocked combined =>
    simp only [image, imageExact, hblobs, hbounds, hstart, hstop, Bytes.range?_add]
    by_cases hfits : f.descriptor.descriptorSize.toNat +
        (f.descriptor.appStartOffset.toNat + f.descriptor.appSize.toNat) ≤
        (Blob.bytes combined).length
    · simp only [if_pos hfits]
    · simp only [if_neg hfits]

theorem image_of_unlocked {f : Firmware B} {combined : B} (hblobs : f.blobs = .unlocked combined) :
    f.image =
      if f.descriptor.descriptorSize.toNat +
          (f.descriptor.appStartOffset.toNat + f.descriptor.appSize.toNat) ≤
          (Blob.bytes combined).length then
        .ok (Bytes.slice (Blob.bytes combined) f.descriptor.descriptorSize.toNat
          (f.descriptor.appStartOffset.toNat + f.descriptor.appSize.toNat))
      else
        .error .malformedDescriptor := by
  rw [image_eq_imageExact, imageExact, hblobs]

structure Located (b : Bytes) (start size : Nat) (r : Except Fault Bytes) : Prop where
  accepted_iff : (∃ image, r = .ok image) ↔ start + size ≤ b.length
  accepted : ∀ image, r = .ok image → image = (b.drop start).take size ∧ image.length = size
  refused : ∀ e, r = .error e → e = .malformedDescriptor

theorem located_ite (b : Bytes) (start size : Nat) :
    Located b start size
      (if start + size ≤ b.length then .ok (Bytes.slice b start size)
        else .error .malformedDescriptor) := by
  by_cases hfits : start + size ≤ b.length
  · rw [if_pos hfits]
    refine { accepted_iff := ⟨fun _ => hfits, fun _ => ⟨_, rfl⟩⟩, accepted := ?_, refused := nofun }
    rintro _ ⟨⟩
    exact ⟨rfl, Bytes.length_slice_of_le hfits⟩
  · rw [if_neg hfits]
    refine { accepted_iff := ⟨nofun, fun h => absurd h hfits⟩, accepted := nofun, refused := ?_ }
    rintro _ ⟨⟩
    rfl

theorem MadeOf.descriptor_eq {secure : Bool} {h : Haul L B} {f : Firmware B}
    (made : MadeOf secure h f) : f.descriptor = .ofBytes (Blob.bytes f.blobs.carrier) := by
  obtain ⟨b, family, hcarried, announced, hparse, -⟩ := made.described
  have hcarrier : h.carried secure = some (Blob.bytes f.blobs.carrier) := by
    rw [Haul.carried, ← made.parts]
    exact (Haul.carried_parts made.mode : (Haul.mk f.blobs.parts h.absent h.loader).carried secure = _)
  have hb : b = Blob.bytes f.blobs.carrier := Option.some.inj (hcarried.symm.trans hcarrier)
  rw [announced.parse, hb] at hparse
  exact (Except.ok.inj hparse).symm

variable [Loader L B]

/-- What the image of a firmware is, by the blobs that it was made of. The words that place it in open
firmware are those of the blob itself. -/
structure Imaged (secure : Bool) (l : L) (f : Firmware B) : Prop where
  parts : (gather (parts secure) l).acquired = f.blobs.parts
  unlocked : secure = false → ∃ combined, f.blobs = .unlocked combined ∧
    Located (Blob.bytes combined) (Span.read ⟨0, 4⟩ (Blob.bytes combined))
      (Span.read ⟨96, 4⟩ (Blob.bytes combined) + Span.read ⟨100, 4⟩ (Blob.bytes combined)) f.image
  secured : secure = true → ∃ image descriptor signature,
    f.blobs = .secure image descriptor signature ∧
      ∀ d : Descriptor, { f with descriptor := d }.image = .ok (Blob.bytes image)
  lossless : f.image = f.imageExact

theorem imaged_load (secure : Bool) (l : L) {f : Firmware B} (h : (load secure l).result = .ok f) :
    Imaged secure l f := by
  rw [load_apply] at h
  obtain ⟨made, -, -⟩ := (fetched_fetch secure l).of_ok h
  refine ⟨made.parts.symm, ?unlocked, ?secured, f.image_eq_imageExact⟩
  case unlocked =>
    rintro rfl
    obtain ⟨combined, hblobs⟩ := Blobs.exists_unlocked made.mode
    have hdescriptor := made.descriptor_eq
    rw [hblobs] at hdescriptor
    refine ⟨combined, hblobs, ?_⟩
    rw [image_of_unlocked hblobs, hdescriptor, ← Descriptor.toNat_word 0, ← Descriptor.toNat_word 96,
      ← Descriptor.toNat_word 100]
    exact located_ite _ _ _
  case secured =>
    rintro rfl
    obtain ⟨image, descriptor, signature, hblobs⟩ := Blobs.exists_secure made.mode
    refine ⟨image, descriptor, signature, hblobs, ?_⟩
    intro d
    rw [Firmware.image, hblobs]

/-- An image that ends with its blob, and one whose end comes within the blob only where words of 32 bits
add up. -/
theorem imaged_load_tight :
    let blob (start offset size : Nat) : Bytes :=
      LittleEndian.encode 4 start ++ (List.replicate 8 0 ++ ([0x0d, 0xa8, 0x38, 0x01] ++
        (List.replicate 80 0 ++ (LittleEndian.encode 4 offset ++ (LittleEndian.encode 4 size ++
          (List.replicate 292 0 ++ [5, 6, 7, 8]))))))
    let shelf (b : Bytes) : Shelf := ⟨[(Part.combined.fileName, b)], 0⟩
    (∃ f, (load false (shelf (blob 396 1 3))).result = .ok f ∧ f.image = .ok [5, 6, 7, 8]) ∧
      ∃ f, (load false (shelf (blob 0xffffffff 0xffffffff 2))).result = .ok f ∧
        f.image = .error .malformedDescriptor := by
  intro blob shelf
  have located {b : Bytes} (announced : Announces b .gm20b) :
      ∃ f, (load false (shelf b)).result = .ok f ∧ Located b (Span.read ⟨0, 4⟩ b)
        (Span.read ⟨96, 4⟩ b + Span.read ⟨100, 4⟩ b) f.image := by
    have accepted := (fetched_fetch false (shelf b)).accepted_iff.2 ⟨rfl, b, .gm20b, rfl, announced⟩
    obtain ⟨f, hf⟩ := accepted
    have hload : (load false (shelf b)).result = .ok f := by
      rw [load_apply]
      exact hf
    have imaged := imaged_load false (shelf b) hload
    obtain ⟨combined, hblobs, hlocated⟩ := imaged.unlocked rfl
    have parts := imaged.parts
    rw [hblobs] at parts
    cases parts
    exact ⟨f, hload, hlocated⟩
  refine ⟨?_, ?_⟩
  · obtain ⟨f, hf, hlocated⟩ := located (b := blob 396 1 3) ⟨by decide +kernel, by decide +kernel⟩
    obtain ⟨image, himage⟩ := hlocated.accepted_iff.2 (by decide +kernel)
    refine ⟨f, hf, himage.trans (congrArg Except.ok ?_)⟩
    exact (hlocated.accepted image himage).1.trans (by decide +kernel)
  · obtain ⟨f, hf, hlocated⟩ := located (b := blob 0xffffffff 0xffffffff 2)
      ⟨by decide +kernel, by decide +kernel⟩
    refine ⟨f, hf, ?_⟩
    cases himage : f.image with
    | ok image => exact absurd (hlocated.accepted_iff.1 ⟨image, himage⟩) (by decide +kernel)
    | error e => rw [hlocated.refused e himage]

end Firmware

end FalconPmu
