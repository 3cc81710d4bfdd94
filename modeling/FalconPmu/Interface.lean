import FalconPmu.Action

namespace FalconPmu

structure Interface where
  active : Option Bundle

namespace Interface

inductive Call where
  | family
  | zbcSave
  | bundle
  | zbcUpdateCommand
  | counterIndex
  | counterGroup
  | pinCounter
  | counter (c : Counter.Call)
  | bootArgs (c : BootArgs.Call)
  | allocation (c : Allocation.Call)
  | initMessage (c : InitMessage.Call)
  | queue (number : UInt32)
  | sampling (c : Sampling.Call)
  | powerGating (c : PowerGating.Call)
  deriving DecidableEq

abbrev Call.Answer : Call → Type
  | family => Family
  | zbcSave => Bool
  | bundle => Bundle
  | zbcUpdateCommand => UInt32
  | counterIndex | counterGroup => UInt8
  | pinCounter => Unit
  | counter c => c.Answer
  | bootArgs c => c.Answer
  | allocation c => c.Answer
  | initMessage c => c.Answer
  | queue _ => InitMessage.Placement
  | sampling c => c.Answer
  | powerGating c => c.Answer

end Interface

def Bundle.run (b : Bundle) : (c : Interface.Call) → Access c.Answer
  | .family => pure b.family
  | .zbcSave => pure b.zbcSave
  | .bundle => pure b
  | .zbcUpdateCommand => pure b.zbcUpdateCommand
  | .counterIndex => pure b.counterIndex
  | .counterGroup => pure b.counterGroup
  | .pinCounter => b.pinCounter
  | .counter c => b.counter.run c
  | .bootArgs c => b.bootArgs.run c
  | .allocation c => b.allocation.run c
  | .initMessage c => b.initMessage.run c
  | .queue number => b.initMessage.queueByNumber number
  | .sampling c => b.sampling.run c
  | .powerGating c => b.powerGating.run c

namespace Interface

def empty : Interface := ⟨none⟩

def isInitialized (i : Interface) : Bool := i.active.isSome

def run (i : Interface) (c : Call) : Access c.Answer :=
  match i.active with
  | none => Access.fail .notInitialized
  | some b => b.run c

theorem length_run_pinCounter (i : Interface) (buffer : Bytes) :
    (i.run .pinCounter buffer).2.length = buffer.length := by
  rw [run]
  cases i.active with
  | none => rfl
  | some b => exact b.length_pinCounter buffer

def install (b : Bundle) : Action Interface Unit := do
  Action.note (.published b.family b.versions)
  Action.modify fun _ => ⟨some b⟩

def publish (version : UInt32) : Action Interface Family :=
  match Bundle.select version with
  | .error e => Action.fail e
  | .ok b => do
    install b
    return b.family

def clear : Action Interface Unit := Action.modify fun _ => empty

def outline (i : Interface) : Outline :=
  .fields "PmuAbi" [
    ("bundle", match i.active with
      | none => .atom "None"
      | some b => .wrapped "Some" b.outline)]

end Interface

end FalconPmu
