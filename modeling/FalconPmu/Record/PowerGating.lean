import FalconPmu.Bytes.Access

/-!
The command that hands a power gating engine its buffer.

Revision 0 keeps the buffer address as a base in units of 256 bytes and a byte offset. Revisions 1
and 2 keep a 64-bit address. In revision 1 a base or an offset only sets bits of it. In revision 2 the
low word of a base replaces both halves and an offset sets bits in both; size and DMA index share one
parameter word there, into which an index only sets bits.
-/

namespace FalconPmu.PowerGating

inductive Revision where
  | v0
  | v1
  | v2
  deriving DecidableEq

structure Header where
  commandType : UInt8
  engineId : UInt8
  bufferIndex : UInt8
  pad : UInt8
  deriving DecidableEq

inductive Update where
  | commandType (n : UInt8)
  | engineId (n : UInt8)
  | bufferIndex (n : UInt8)
  | pad (n : UInt8)
  | bufferSize (n : UInt16)
  | dmaBase (a : UInt64)
  | dmaOffset (n : UInt8)
  | dmaIndex (n : UInt8)
  | dmaAddress (a : UInt64)
  deriving DecidableEq

inductive Query where
  | header
  | bufferSize
  | dmaBase
  | dmaIndex
  | dmaAddress
  deriving DecidableEq

abbrev Query.Answer : Query → Type
  | header => Header
  | bufferSize => UInt32
  | dmaIndex => UInt8
  | dmaBase | dmaAddress => UInt64

inductive Call where
  | size
  | get (q : Query)
  | set (u : Update)
  deriving DecidableEq

abbrev Call.Answer : Call → Type
  | size => Nat
  | get q => q.Answer
  | set _ => Unit

namespace Field

def commandType : Field UInt8 := ⟨0⟩
def engineId : Field UInt8 := ⟨1⟩
def bufferIndex : Field UInt8 := ⟨2⟩
def pad : Field UInt8 := ⟨3⟩

def bufferSize₀ : Field UInt16 := ⟨4⟩
def dmaBase₀ : Field UInt32 := ⟨8⟩
def dmaOffset₀ : Field UInt8 := ⟨12⟩
def dmaIndex₀ : Field UInt8 := ⟨13⟩

def address : Field UInt64 := ⟨4⟩

def bufferSize₁ : Field UInt16 := ⟨12⟩
def dmaIndex₁ : Field UInt8 := ⟨14⟩

def params : Field UInt32 := ⟨12⟩

end Field

def both (n : UInt32) : UInt64 := n.toUInt64 ||| n.toUInt64 <<< 32

def Update.apply : Revision → Update → Bytes → Bytes
  | _, commandType n => Field.commandType.put n
  | _, engineId n => Field.engineId.put n
  | _, bufferIndex n => Field.bufferIndex.put n
  | _, pad n => Field.pad.put n
  | .v0, bufferSize n => Field.bufferSize₀.put n
  | .v1, bufferSize n => Field.bufferSize₁.put n
  | .v2, bufferSize n => Field.params.put n.toUInt32
  | .v0, dmaBase a => Field.dmaBase₀.put (a.toUInt32 >>> 8)
  | .v1, dmaBase a => Field.address.modify (· ||| a)
  | .v2, dmaBase a => Field.address.put (both a.toUInt32)
  | .v0, dmaOffset n => Field.dmaOffset₀.put n
  | .v1, dmaOffset n => Field.address.modify (· ||| n.toUInt64)
  | .v2, dmaOffset n => Field.address.modify (· ||| both n.toUInt32)
  | .v0, dmaIndex n => Field.dmaIndex₀.put n
  | .v1, dmaIndex n => Field.dmaIndex₁.put n
  | .v2, dmaIndex n => Field.params.modify (· ||| n.toUInt32 <<< 24)
  | .v0, dmaAddress a => fun b =>
    Field.dmaOffset₀.put a.toUInt8 (Field.dmaBase₀.put (a >>> 8).toUInt32 b)
  | .v1, dmaAddress a | .v2, dmaAddress a => Field.address.put a

def Header.ofBytes (b : Bytes) : Header where
  commandType := Field.commandType.get b
  engineId := Field.engineId.get b
  bufferIndex := Field.bufferIndex.get b
  pad := Field.pad.get b

def Query.value : Revision → (q : Query) → Bytes → q.Answer
  | _, header => Header.ofBytes
  | .v0, bufferSize => fun b => (Field.bufferSize₀.get b).toUInt32
  | .v1, bufferSize => fun b => (Field.bufferSize₁.get b).toUInt32
  | .v2, bufferSize => Field.params.get
  | .v0, dmaBase => fun b => (Field.dmaBase₀.get b).toUInt64
  | .v1, dmaBase | .v2, dmaBase => Field.address.get
  | .v0, dmaIndex => Field.dmaIndex₀.get
  | .v1, dmaIndex => Field.dmaIndex₁.get
  | .v2, dmaIndex => fun b => (Field.params.get b >>> 24).toUInt8
  | .v0, dmaAddress => fun b =>
    (Field.dmaBase₀.get b).toUInt64 <<< 8 ||| (Field.dmaOffset₀.get b).toUInt64
  | .v1, dmaAddress | .v2, dmaAddress => Field.address.get

namespace Revision

def number : Revision → Nat
  | v0 => 0
  | v1 => 1
  | v2 => 2

def all : List Revision := [v0, v1, v2]

def ofNumber? (n : Nat) : Option Revision := all.find? (fun r => r.number == n)

def size : Revision → Nat
  | v0 => 16
  | v1 => 16
  | v2 => 16

def run (r : Revision) : (c : Call) → Access c.Answer
  | .size => pure r.size
  | .get q => Access.read r.size (q.value r)
  | .set u => Access.write r.size (u.apply r)

end Revision

end FalconPmu.PowerGating
