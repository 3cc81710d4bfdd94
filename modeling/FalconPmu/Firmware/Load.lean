import FalconPmu.Action
import FalconPmu.Firmware.Descriptor
import FalconPmu.Firmware.Loader

/-!
Loading firmware. An open firmware is one blob, the descriptor followed by the image; a secure one
comes as image, descriptor and signature. Whatever fails, the blobs acquired so far go back to the
loader, last acquired first.
-/

namespace FalconPmu

inductive Part where
  | combined
  | image
  | descriptor
  | signature
  deriving DecidableEq

def Part.fileName : Part → String
  | combined => "gpmu_ucode.bin"
  | image => "gpmu_ucode_image.bin"
  | descriptor => "gpmu_ucode_desc.bin"
  | signature => "pmu_sig.bin"

inductive Blobs (B : Type) where
  | unlocked (combined : B)
  | secure (image descriptor signature : B)
  deriving DecidableEq

namespace Blobs

variable {B : Type}

def isSecure : Blobs B → Bool
  | unlocked _ => false
  | secure _ _ _ => true

def carrier : Blobs B → B
  | unlocked combined => combined
  | secure _ descriptor _ => descriptor

def newestFirst : Blobs B → List B
  | unlocked combined => [combined]
  | secure image descriptor signature => [signature, descriptor, image]

end Blobs

structure Firmware (B : Type) where
  blobs : Blobs B
  descriptor : Descriptor
  bundle : Bundle

namespace Firmware

variable {L B : Type}

def image [Blob B] (f : Firmware B) : Except Fault Bytes :=
  match f.blobs with
  | .secure image _ _ => .ok (Blob.bytes image)
  | .unlocked combined =>
    match f.descriptor.imageBounds? with
    | none => .error .malformedDescriptor
    | some (start, stop) =>
      match (Blob.bytes combined).range? start.toNat stop.toNat with
      | none => .error .malformedDescriptor
      | some image => .ok image

variable [Loader L B]

def releaseAll (blobs : List B) (l : L) : L := blobs.foldl (fun l b => Loader.release b l) l

def release (f : Firmware B) : L → L := releaseAll f.blobs.newestFirst

/-- If the step fails, gives back the blobs held. -/
def holding {α : Type} (blobs : List B) (x : Action L α) : Action L α := do
  match ← x.attempt with
  | .ok a => return a
  | .error e =>
    Action.modify (releaseAll blobs)
    Action.fail e

def request (p : Part) : Action L B := do
  Action.note (.blobRequested p.fileName)
  match ← Action.update (Loader.request p.fileName) with
  | some b => return b
  | none =>
    Action.note (.blobMissing p.fileName)
    Action.fail (.firmwareLoad p.fileName)

def select (b : Bytes) : Action L (Descriptor × Bundle) := do
  let d ← (Action.ofExcept (Descriptor.parse b)).noteFailure fun _ => .descriptorMalformed
  let bundle ← (Action.ofExcept (Bundle.select d.appVersion)).noteFailure
    fun _ => .versionUnsupported d.appVersion
  Action.note (.versionSelected d.appVersion bundle.family)
  return (d, bundle)

variable [Blob B]

def loadUnlocked : Action L (Firmware B) := do
  let combined ← request .combined
  let (d, bundle) ← holding [combined] (select (Blob.bytes combined))
  return ⟨.unlocked combined, d, bundle⟩

def loadSecure : Action L (Firmware B) := do
  let image ← request .image
  let descriptor ← holding [image] (request .descriptor)
  let signature ← holding [descriptor, image] (request .signature)
  let (d, bundle) ← holding [signature, descriptor, image] (select (Blob.bytes descriptor))
  return ⟨.secure image descriptor signature, d, bundle⟩

def load (secure : Bool) : Action L (Firmware B) := if secure then loadSecure else loadUnlocked

end Firmware

end FalconPmu
