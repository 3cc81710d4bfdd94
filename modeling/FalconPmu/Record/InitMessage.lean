import FalconPmu.Bytes.Access
import FalconPmu.Queue

/-!
The message the unit sends once it has booted. It tells where the queues lie.

Revision 1 stores size, offset and index of every queue. Later revisions store a table of indices, a
table of sizes and one start offset: the queues lie back to back in the order of the tables.
-/

namespace FalconPmu.InitMessage

inductive Revision where
  | v1
  | v3
  | v4
  | v5
  deriving DecidableEq

structure Placement where
  index : UInt32
  offset : UInt32
  size : UInt32
  deriving DecidableEq

inductive Call where
  | size
  | queue (q : Queue)
  | managedAreaOffset
  | managedAreaSize
  deriving DecidableEq

abbrev Call.Answer : Call → Type
  | size => Nat
  | queue _ => Placement
  | managedAreaOffset | managedAreaSize => UInt16

structure Entry where
  size : Field UInt16
  offset : Field UInt16
  index : Field UInt8

namespace Entry

def ofQueue (q : Queue) : Entry where
  size := ⟨4 + 6 * q.number.toNat⟩
  offset := ⟨4 + 6 * q.number.toNat + 2⟩
  index := ⟨4 + 6 * q.number.toNat + 4⟩

def placement (e : Entry) (b : Bytes) : Placement where
  index := (e.index.get b).toUInt32
  offset := (e.offset.get b).toUInt32
  size := (e.size.get b).toUInt32

end Entry

/-- Where a later revision keeps its tables, and which entry of them belongs to a queue. -/
structure Tables where
  indices : Nat
  sizes : Nat
  start : Field UInt16
  entry : Queue → Nat

namespace Tables

def index (t : Tables) (i : Nat) : Field UInt8 := ⟨t.indices + i⟩

def size (t : Tables) (i : Nat) : Field UInt16 := ⟨t.sizes + 2 * i⟩

def sizeWord (t : Tables) (b : Bytes) (i : Nat) : UInt32 := ((t.size i).get b).toUInt32

def roomBefore (t : Tables) (b : Bytes) : Nat → UInt32
  | 0 => 0
  | i + 1 => t.roomBefore b i + t.sizeWord b i

def placement (t : Tables) (q : Queue) (b : Bytes) : Placement where
  index := ((t.index (t.entry q)).get b).toUInt32
  offset := (t.start.get b).toUInt32 + t.roomBefore b (t.entry q)
  size := t.sizeWord b (t.entry q)

def third : Queue → Nat
  | .high => 0
  | .low => 1
  | .message => 2

/-- The message queue is fourth, after a queue that the host has no name for. -/
def fourth : Queue → Nat
  | .high => 0
  | .low => 1
  | .message => 3

end Tables

namespace Revision

def number : Revision → Nat
  | v1 => 1
  | v3 => 3
  | v4 => 4
  | v5 => 5

def all : List Revision := [v1, v3, v4, v5]

def ofNumber? (n : Nat) : Option Revision := all.find? (fun r => r.number == n)

def size : Revision → Nat
  | v1 => 38
  | v3 => 36
  | v4 => 42
  | v5 => 42

def tables : Revision → Option Tables
  | v1 => none
  | v3 => some ⟨1, 4, ⟨10⟩, Tables.third⟩
  | v4 => some ⟨1, 6, ⟨16⟩, Tables.third⟩
  | v5 => some ⟨2, 6, ⟨14⟩, Tables.fourth⟩

def placement (r : Revision) (q : Queue) : Bytes → Placement :=
  match r.tables with
  | none => (Entry.ofQueue q).placement
  | some t => t.placement q

def managedAreaOffset : Revision → Field UInt16
  | v1 => ⟨34⟩
  | v3 => ⟨12⟩
  | v4 => ⟨18⟩
  | v5 => ⟨16⟩

def managedAreaSize : Revision → Field UInt16
  | v1 => ⟨36⟩
  | v3 => ⟨14⟩
  | v4 => ⟨20⟩
  | v5 => ⟨18⟩

def run (r : Revision) : (c : Call) → Access c.Answer
  | .size => pure r.size
  | .queue q => Access.read r.size (r.placement q)
  | .managedAreaOffset => Access.read r.size r.managedAreaOffset.get
  | .managedAreaSize => Access.read r.size r.managedAreaSize.get

def queueByNumber (r : Revision) (n : UInt32) : Access Placement := do
  let q ← Access.ofExcept (Queue.ofNumber n)
  r.run (.queue q)

end Revision

end FalconPmu.InitMessage
