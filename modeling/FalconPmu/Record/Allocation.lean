import FalconPmu.Bytes.Access
import FalconPmu.Memory

namespace FalconPmu.Allocation

inductive Revision where
  | v1
  | v2
  | v3
  deriving DecidableEq

inductive Update where
  | dmemSize (n : UInt16)
  | dmemOffset (n : UInt32)
  | frameBuffer (d : MemDesc)
  deriving DecidableEq

inductive Query where
  | dmemSize
  | dmemOffset
  | frameBuffer
  deriving DecidableEq

abbrev Query.Answer : Query → Type
  | dmemSize => UInt16
  | dmemOffset => UInt32
  | frameBuffer => MemDesc

inductive Call where
  | size
  | dmemOffsetPosition
  | frameBufferSpan
  | get (q : Query)
  | set (u : Update)
  deriving DecidableEq

abbrev Call.Answer : Call → Type
  | size | dmemOffsetPosition => Nat
  | frameBufferSpan => Nat × Nat
  | get q => q.Answer
  | set _ => Unit

namespace Field

def dmemSize : Field UInt16 := ⟨0⟩
def dmemOffset : Field UInt32 := ⟨4⟩

end Field

namespace Revision

def number : Revision → Nat
  | v1 => 1
  | v2 => 2
  | v3 => 3

def all : List Revision := [v1, v2, v3]

def ofNumber? (n : Nat) : Option Revision := all.find? (fun r => r.number == n)

def size : Revision → Nat
  | v1 => 16
  | v2 => 20
  | v3 => 20

def frameBuffer : Revision → Except Fault (Field MemDesc)
  | v1 | v2 => .error .noFrameBuffer
  | v3 => .ok ⟨8⟩

def frameBufferSpan (r : Revision) : Except Fault (Nat × Nat) :=
  r.frameBuffer.map fun f => (f.offset, Wire.width MemDesc)

/-- A call on a missing frame buffer part fails before it looks at the buffer. -/
def run (r : Revision) : (c : Call) → Access c.Answer
  | .size => pure r.size
  | .dmemOffsetPosition => pure Field.dmemOffset.offset
  | .frameBufferSpan => Access.ofExcept r.frameBufferSpan
  | .get .dmemSize => Access.read r.size Field.dmemSize.get
  | .get .dmemOffset => Access.read r.size Field.dmemOffset.get
  | .get .frameBuffer => do
    let f ← Access.ofExcept r.frameBuffer
    Access.read r.size f.get
  | .set (.dmemSize n) => Access.write r.size (Field.dmemSize.put n)
  | .set (.dmemOffset n) => Access.write r.size (Field.dmemOffset.put n)
  | .set (.frameBuffer d) => do
    let f ← Access.ofExcept r.frameBuffer
    Access.write r.size (f.put d)

end Revision

end FalconPmu.Allocation
