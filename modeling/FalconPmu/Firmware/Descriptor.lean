import FalconPmu.Bytes.Access

namespace FalconPmu

def checkedAdd (x y : UInt64) : Option UInt64 :=
  if x.toNat + y.toNat < 0x10000000000000000 then some (x + y) else none

structure Overlay where
  start : UInt32
  size : UInt32
  deriving DecidableEq

structure Descriptor where
  descriptorSize : UInt32
  imageSize : UInt32
  toolsVersion : UInt32
  appVersion : UInt32
  date : Bytes
  bootloaderStartOffset : UInt32
  bootloaderSize : UInt32
  bootloaderImemOffset : UInt32
  bootloaderEntryPoint : UInt32
  appStartOffset : UInt32
  appSize : UInt32
  appImemOffset : UInt32
  appImemEntry : UInt32
  appDmemOffset : UInt32
  appResidentCodeOffset : UInt32
  appResidentCodeSize : UInt32
  appResidentDataOffset : UInt32
  appResidentDataSize : UInt32
  overlayCount : UInt32
  overlayTable : List Overlay
  compressed : UInt32
  deriving DecidableEq

namespace Descriptor

def size : Nat := 396

def dateOffset : Nat := 16

def dateSize : Nat := 64

def tableOffset : Nat := 136

def tableLength : Nat := 32

def word (offset : Nat) (b : Bytes) : UInt32 := (Field.mk offset : Field UInt32).get b

def overlay (i : Nat) (b : Bytes) : Overlay where
  start := word (tableOffset + 8 * i) b
  size := word (tableOffset + 8 * i + 4) b

def ofBytes (b : Bytes) : Descriptor where
  descriptorSize := word 0 b
  imageSize := word 4 b
  toolsVersion := word 8 b
  appVersion := word 12 b
  date := Bytes.slice b dateOffset dateSize
  bootloaderStartOffset := word 80 b
  bootloaderSize := word 84 b
  bootloaderImemOffset := word 88 b
  bootloaderEntryPoint := word 92 b
  appStartOffset := word 96 b
  appSize := word 100 b
  appImemOffset := word 104 b
  appImemEntry := word 108 b
  appDmemOffset := word 112 b
  appResidentCodeOffset := word 116 b
  appResidentCodeSize := word 120 b
  appResidentDataOffset := word 124 b
  appResidentDataSize := word 128 b
  overlayCount := word 132 b
  overlayTable := (List.range tableLength).map fun i => overlay i b
  compressed := word 392 b

def parse (b : Bytes) : Except Fault Descriptor :=
  if size ≤ b.length then .ok (ofBytes b) else .error .malformedDescriptor

def toBytes (d : Descriptor) : Bytes :=
  [d.descriptorSize, d.imageSize, d.toolsVersion, d.appVersion].flatMap Wire.encode ++ d.date ++
  [d.bootloaderStartOffset, d.bootloaderSize, d.bootloaderImemOffset, d.bootloaderEntryPoint,
    d.appStartOffset, d.appSize, d.appImemOffset, d.appImemEntry, d.appDmemOffset,
    d.appResidentCodeOffset, d.appResidentCodeSize, d.appResidentDataOffset,
    d.appResidentDataSize, d.overlayCount].flatMap Wire.encode ++
  d.overlayTable.flatMap (fun o => Wire.encode o.start ++ Wire.encode o.size) ++
  Wire.encode d.compressed

def dateText (d : Descriptor) : Option String :=
  String.fromUTF8? (d.date.takeWhile (· != 0)).toByteArray

/-- The entries of the table in use; a count beyond the table stands for all of it. -/
def overlays (d : Descriptor) : List Overlay := d.overlayTable.take d.overlayCount.toNat

def imageBounds? (d : Descriptor) : Option (UInt64 × UInt64) := do
  let start := d.descriptorSize.toUInt64
  let size ← checkedAdd d.appStartOffset.toUInt64 d.appSize.toUInt64
  let stop ← checkedAdd start size
  return (start, stop)

end Descriptor

end FalconPmu
