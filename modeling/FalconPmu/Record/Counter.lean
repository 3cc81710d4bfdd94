import FalconPmu.Bytes.Access

namespace FalconPmu

structure Counter where
  index : UInt8
  flags : UInt8
  groupId : UInt8
  valid : UInt8
  upperThreshold : UInt16
  lowerThreshold : UInt16
  scale : UInt32
  deriving DecidableEq

namespace Counter

abbrev Buffer := { b : Bytes // b.length = 12 }

inductive Revision where
  | v2
  deriving DecidableEq

namespace Field

def index : Field UInt8 := ⟨0⟩
def flags : Field UInt8 := ⟨1⟩
def groupId : Field UInt8 := ⟨2⟩
def valid : Field UInt8 := ⟨3⟩
def upperThreshold : Field UInt16 := ⟨4⟩
def lowerThreshold : Field UInt16 := ⟨6⟩
def scale : Field UInt32 := ⟨8⟩

end Field

inductive Update where
  | upperThreshold (n : UInt16)
  | lowerThreshold (n : UInt16)
  | valid (n : UInt8)
  | index (n : UInt8)
  | groupId (n : UInt8)
  deriving DecidableEq

def Update.apply : Update → Bytes → Bytes
  | upperThreshold n => Field.upperThreshold.put n
  | lowerThreshold n => Field.lowerThreshold.put n
  | valid n => Field.valid.put n
  | index n => Field.index.put n
  | groupId n => Field.groupId.put n

@[simp] theorem Update.length_apply (u : Update) (b : Bytes) : (u.apply b).length = b.length := by
  cases u <;> exact Field.length_put _ _ _

def ofBytes (b : Bytes) : Counter where
  index := Field.index.get b
  flags := Field.flags.get b
  groupId := Field.groupId.get b
  valid := Field.valid.get b
  upperThreshold := Field.upperThreshold.get b
  lowerThreshold := Field.lowerThreshold.get b
  scale := Field.scale.get b

inductive Call where
  | size
  | counter
  | set (u : Update)
  deriving DecidableEq

abbrev Call.Answer : Call → Type
  | size => Nat
  | counter => Counter
  | set _ => Unit

namespace Revision

def number : Revision → Nat
  | v2 => 2

def all : List Revision := [v2]

def ofNumber? (n : Nat) : Option Revision := all.find? (fun r => r.number == n)

def size : Revision → Nat
  | v2 => 12

theorem size_eq (r : Revision) : r.size = 12 := by
  cases r
  rfl

def run (r : Revision) : (c : Call) → Access c.Answer
  | .size => pure r.size
  | .counter => Access.read r.size ofBytes
  | .set u => Access.write r.size u.apply

end Revision

end Counter

end FalconPmu
