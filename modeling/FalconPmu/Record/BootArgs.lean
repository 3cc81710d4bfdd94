import FalconPmu.Bytes.Access
import FalconPmu.Memory

/-!
The block of arguments the unit reads when it boots.

Revisions 3 and 4 hold the trace buffer as separate words, its base in units of 256 bytes; 5 and 6
hold it as one descriptor and fix the clock frequency. Only revision 6 describes a super surface.
-/

namespace FalconPmu.BootArgs

inductive Revision where
  | v3
  | v4
  | v5
  | v6
  deriving DecidableEq

inductive Update where
  | cpuFrequency (hz : UInt32)
  | secureMode (n : UInt8)
  | traceSize (n : UInt32)
  | traceBase (s : Surface)
  | traceIndex (n : UInt32)
  | superSurface (s : Surface)
  deriving DecidableEq

inductive Query where
  | cpuFrequency
  | secureMode
  | traceSize
  | traceBase
  | traceIndex
  deriving DecidableEq

abbrev Query.Answer : Query → Type
  | secureMode => UInt8
  | traceBase => UInt64
  | cpuFrequency | traceSize | traceIndex => UInt32

inductive Call where
  | size
  | get (q : Query)
  | set (u : Update)
  deriving DecidableEq

abbrev Call.Answer : Call → Type
  | size => Nat
  | get q => q.Answer
  | set _ => Unit

def fixedFrequency : UInt32 := 204000000

def traceUnits (s : Surface) : UInt32 := s.address.toUInt32 / 0x100

namespace Revision

def number : Revision → Nat
  | v3 => 3
  | v4 => 4
  | v5 => 5
  | v6 => 6

def all : List Revision := [v3, v4, v5, v6]

def ofNumber? (n : Nat) : Option Revision := all.find? (fun r => r.number == n)

def size : Revision → Nat
  | v3 => 32
  | v4 => 48
  | v5 => 48
  | v6 => 60

def cpuFrequency : Revision → Field UInt32
  | v3 | v4 => ⟨4⟩
  | v5 | v6 => ⟨0⟩

def secureMode : Revision → Field UInt8
  | v3 => ⟨20⟩
  | v4 => ⟨28⟩
  | v5 | v6 => ⟨16⟩

end Revision

namespace Field

def traceSize : Field UInt32 := ⟨8⟩
def traceBase₃ : Field UInt32 := ⟨12⟩
def traceIndex₃ : Field UInt32 := ⟨16⟩

-- the base and, above it, a word that extends it
def traceBase₄ : Field UInt64 := ⟨12⟩
def traceOffset₄ : Field UInt8 := ⟨20⟩
def traceIndex₄ : Field UInt32 := ⟨24⟩

def trace : Field MemDesc := ⟨4⟩
def superSurface : Field MemDesc := ⟨44⟩

end Field

def Update.effect : Revision → Update → Option (Bytes → Bytes)
  | .v3, cpuFrequency hz => some (Revision.v3.cpuFrequency.put hz)
  | .v4, cpuFrequency hz => some (Revision.v4.cpuFrequency.put hz)
  | .v5, cpuFrequency _ => some (Revision.v5.cpuFrequency.put fixedFrequency)
  | .v6, cpuFrequency _ => some (Revision.v6.cpuFrequency.put fixedFrequency)
  | r, secureMode n => some (r.secureMode.put n)
  | .v3, traceSize n | .v4, traceSize n => some (Field.traceSize.put n)
  | .v3, traceBase s => some (Field.traceBase₃.put (traceUnits s))
  | .v4, traceBase s => some fun b =>
    Field.traceOffset₄.put 0 (Field.traceBase₄.put (traceUnits s).toUInt64 b)
  | .v5, traceBase s | .v6, traceBase s => some (Field.trace.put (.ofSurface s))
  | .v3, traceIndex n => some (Field.traceIndex₃.put n)
  | .v4, traceIndex n => some (Field.traceIndex₄.put n)
  | .v6, superSurface s => some (Field.superSurface.put (.ofSurface s))
  | .v5, traceSize _ | .v6, traceSize _ => none
  | .v5, traceIndex _ | .v6, traceIndex _ => none
  | .v3, superSurface _ | .v4, superSurface _ | .v5, superSurface _ => none

def Query.value : Revision → (q : Query) → Bytes → q.Answer
  | r, cpuFrequency => r.cpuFrequency.get
  | r, secureMode => r.secureMode.get
  | .v3, traceSize | .v4, traceSize => Field.traceSize.get
  | .v5, traceSize | .v6, traceSize => fun b => (Field.trace.get b).size
  | .v3, traceBase => fun b => (Field.traceBase₃.get b).toUInt64
  | .v4, traceBase => Field.traceBase₄.get
  | .v5, traceBase | .v6, traceBase => fun b => (Field.trace.get b).address
  | .v3, traceIndex => Field.traceIndex₃.get
  | .v4, traceIndex => Field.traceIndex₄.get
  | .v5, traceIndex | .v6, traceIndex => fun b => (Field.trace.get b).index.toUInt32

/-- An update that the revision has no place for succeeds on any buffer and changes nothing. -/
def Revision.run (r : Revision) : (c : Call) → Access c.Answer
  | .size => pure r.size
  | .get q => Access.read r.size (q.value r)
  | .set u =>
    match u.effect r with
    | some change => Access.write r.size change
    | none => pure ()

def superSurface : Access MemDesc := Access.read Revision.v6.size Field.superSurface.get

end FalconPmu.BootArgs
