import FalconPmu.Bytes.Access

namespace FalconPmu.Sampling

inductive Revision where
  | v1
  | v2
  | v3
  deriving DecidableEq

inductive Shape where
  | start
  | init
  deriving DecidableEq

def Shape.allocationOffset : Shape → Nat
  | start => 4
  | init => 8

structure Start where
  commandType : UInt8
  groupId : UInt8
  stateId : UInt8
  flags : UInt8
  deriving DecidableEq

structure Init where
  commandType : UInt8
  decreaseCount : UInt8
  baseCounterId : UInt8
  samplePeriod : UInt32
  counterCount : UInt8
  movingAverage : UInt8
  sampleBuffer : UInt16
  deriving DecidableEq

inductive Command where
  | start (c : Start)
  | init (c : Init)
  deriving DecidableEq

def Command.shape : Command → Shape
  | start _ => .start
  | init _ => .init

inductive Update where
  | startCommandType (n : UInt8)
  | startGroupId (n : UInt8)
  | startStateId (n : UInt8)
  | startFlags (n : UInt8)
  | initCommandType (n : UInt8)
  | initSampleBuffer (n : UInt16)
  | initDecreaseCount (n : UInt8)
  | initBaseCounterId (n : UInt8)
  | initSamplePeriod (n : UInt32)
  | initCounterCount (n : UInt8)
  | initMovingAverage (n : UInt8)
  deriving DecidableEq

def Update.shape : Update → Shape
  | startCommandType _ | startGroupId _ | startStateId _ | startFlags _ => .start
  | _ => .init

def Command.updates : Command → List Update
  | start c => [
      .startCommandType c.commandType,
      .startGroupId c.groupId,
      .startStateId c.stateId,
      .startFlags c.flags]
  | init c => [
      .initCommandType c.commandType,
      .initDecreaseCount c.decreaseCount,
      .initBaseCounterId c.baseCounterId,
      .initSamplePeriod c.samplePeriod,
      .initCounterCount c.counterCount,
      .initMovingAverage c.movingAverage,
      .initSampleBuffer c.sampleBuffer]

inductive Call where
  | size (s : Shape)
  | allocationOffset (s : Shape)
  | start
  | startFlags
  | init
  | set (u : Update)
  | pack (c : Command)
  deriving DecidableEq

abbrev Call.Answer : Call → Type
  | size _ | allocationOffset _ | pack _ => Nat
  | start => Start
  | startFlags => UInt8
  | init => Init
  | set _ => Unit

namespace Field

def commandType : Field UInt8 := ⟨0⟩

def startGroupId : Field UInt8 := ⟨1⟩
def startStateId : Field UInt8 := ⟨2⟩
def startFlags : Field UInt8 := ⟨3⟩

def initDecreaseCount : Field UInt8 := ⟨1⟩
def initBaseCounterId : Field UInt8 := ⟨2⟩
def initSamplePeriod : Field UInt32 := ⟨4⟩

end Field

def Start.ofBytes (b : Bytes) : Start where
  commandType := Field.commandType.get b
  groupId := Field.startGroupId.get b
  stateId := Field.startStateId.get b
  flags := Field.startFlags.get b

namespace Revision

def number : Revision → Nat
  | v1 => 1
  | v2 => 2
  | v3 => 3

def all : List Revision := [v1, v2, v3]

def ofNumber? (n : Nat) : Option Revision := all.find? (fun r => r.number == n)

def allocationSize : Revision → Nat
  | v1 => 16
  | v2 | v3 => 20

def size (r : Revision) : Shape → Nat
  | .start => Shape.start.allocationOffset + r.allocationSize
  | .init => Shape.init.allocationOffset + r.allocationSize + 4

def initCounterCount (r : Revision) : Field UInt8 := ⟨Shape.init.allocationOffset + r.allocationSize⟩

def initMovingAverage (r : Revision) : Field UInt8 := ⟨Shape.init.allocationOffset + r.allocationSize + 1⟩

def initSampleBuffer (r : Revision) : Field UInt16 := ⟨Shape.init.allocationOffset + r.allocationSize + 2⟩

def apply (r : Revision) : Update → Bytes → Bytes
  | .startCommandType n => Field.commandType.put n
  | .startGroupId n => Field.startGroupId.put n
  | .startStateId n => Field.startStateId.put n
  | .startFlags n => Field.startFlags.put n
  | .initCommandType n => Field.commandType.put n
  | .initSampleBuffer n => r.initSampleBuffer.put n
  | .initDecreaseCount n => Field.initDecreaseCount.put n
  | .initBaseCounterId n => Field.initBaseCounterId.put n
  | .initSamplePeriod n => Field.initSamplePeriod.put n
  | .initCounterCount n => r.initCounterCount.put n
  | .initMovingAverage n => r.initMovingAverage.put n

def init (r : Revision) (b : Bytes) : Init where
  commandType := Field.commandType.get b
  decreaseCount := Field.initDecreaseCount.get b
  baseCounterId := Field.initBaseCounterId.get b
  samplePeriod := Field.initSamplePeriod.get b
  counterCount := r.initCounterCount.get b
  movingAverage := r.initMovingAverage.get b
  sampleBuffer := r.initSampleBuffer.get b

def set (r : Revision) (u : Update) : Access Unit := Access.write (r.size u.shape) (r.apply u)

def pack (r : Revision) (c : Command) : Access Nat := do
  c.updates.forM r.set
  return r.size c.shape

def run (r : Revision) : (c : Call) → Access c.Answer
  | .size s => pure (r.size s)
  | .allocationOffset s => pure s.allocationOffset
  | .start => Access.read (r.size .start) Start.ofBytes
  | .startFlags => Access.read (r.size .start) Field.startFlags.get
  | .init => Access.read (r.size .init) r.init
  | .set u => r.set u
  | .pack c => r.pack c

end Revision

end FalconPmu.Sampling
