import FalconPmu.Bytes.Field

namespace FalconPmu

structure Surface where
  address : UInt64
  size : UInt32
  deriving DecidableEq

/-- An address with a parameter word: the size in the low 24 bits, the DMA index in the high 8. -/
structure MemDesc where
  address : UInt64
  params : UInt32
  deriving DecidableEq

namespace MemDesc

def sizeMask : UInt32 := 0xffffff

def indexShift : UInt32 := 24

def surfaceIndex : UInt8 := 1

def pack (address : UInt64) (size : UInt32) (index : UInt8) : MemDesc :=
  ⟨address, (size &&& sizeMask) ||| (index.toUInt32 <<< indexShift)⟩

def ofSurface (s : Surface) : MemDesc := pack s.address s.size surfaceIndex

def size (d : MemDesc) : UInt32 := d.params &&& sizeMask

def index (d : MemDesc) : UInt8 := (d.params >>> indexShift).toUInt8

instance : Wire MemDesc :=
  Wire.ofEquiv (fun d => ((d.address, d.params) : UInt64 × UInt32)) (fun p => ⟨p.1, p.2⟩)
    (fun _ => rfl) (fun _ => rfl)

end MemDesc

end FalconPmu
