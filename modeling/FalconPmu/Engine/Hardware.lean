import FalconPmu.Fault

namespace FalconPmu

class Hardware (H : Type) where
  inReset : H → Bool
  release : Bool → H → Except Fault Unit × H
  setInterrupt : Bool → H → H
  awaitScrub : H → Except Fault Unit × H
  awaitIdle : H → Except Fault Unit × H
  loadSecondLevelGating : H → H := id
  loadBlockLevelGating : H → H := id
  supported : H → Bool := fun _ => true

/-- Hardware whose reset line only successful releases move. -/
class LawfulHardware (H : Type) [Hardware H] : Prop where
  inReset_release (on : Bool) (h : H) :
    Hardware.inReset (Hardware.release on h).2 =
      match (Hardware.release on h).1 with
      | .ok () => !on
      | .error _ => Hardware.inReset h
  inReset_setInterrupt (on : Bool) (h : H) :
    Hardware.inReset (Hardware.setInterrupt on h) = Hardware.inReset h
  inReset_awaitScrub (h : H) : Hardware.inReset (Hardware.awaitScrub h).2 = Hardware.inReset h
  inReset_awaitIdle (h : H) : Hardware.inReset (Hardware.awaitIdle h).2 = Hardware.inReset h
  inReset_loadSecondLevelGating (h : H) :
    Hardware.inReset (Hardware.loadSecondLevelGating h) = Hardware.inReset h
  inReset_loadBlockLevelGating (h : H) :
    Hardware.inReset (Hardware.loadBlockLevelGating h) = Hardware.inReset h

attribute [simp] LawfulHardware.inReset_setInterrupt LawfulHardware.inReset_awaitScrub
  LawfulHardware.inReset_awaitIdle LawfulHardware.inReset_loadSecondLevelGating
  LawfulHardware.inReset_loadBlockLevelGating

namespace Hardware

inductive Call where
  | release (on : Bool)
  | setInterrupt (on : Bool)
  | awaitScrub
  | awaitIdle
  | loadSecondLevelGating
  | loadBlockLevelGating
  deriving DecidableEq

structure Event where
  call : Call
  result : Except Fault Unit

structure Traced (H : Type) where
  hardware : H
  events : List Event

namespace Traced

variable {H : Type} [Hardware H]

def answer (t : Traced H) (c : Call) (r : Except Fault Unit × H) : Except Fault Unit × Traced H :=
  (r.1, ⟨r.2, t.events ++ [⟨c, r.1⟩]⟩)

def effect (t : Traced H) (c : Call) (h : H) : Traced H := ⟨h, t.events ++ [⟨c, .ok ()⟩]⟩

instance : Hardware (Traced H) where
  inReset t := Hardware.inReset t.hardware
  release on t := t.answer (.release on) (Hardware.release on t.hardware)
  setInterrupt on t := t.effect (.setInterrupt on) (Hardware.setInterrupt on t.hardware)
  awaitScrub t := t.answer .awaitScrub (Hardware.awaitScrub t.hardware)
  awaitIdle t := t.answer .awaitIdle (Hardware.awaitIdle t.hardware)
  loadSecondLevelGating t :=
    t.effect .loadSecondLevelGating (Hardware.loadSecondLevelGating t.hardware)
  loadBlockLevelGating t :=
    t.effect .loadBlockLevelGating (Hardware.loadBlockLevelGating t.hardware)
  supported t := Hardware.supported t.hardware

instance [LawfulHardware H] : LawfulHardware (Traced H) where
  inReset_release on t := LawfulHardware.inReset_release on t.hardware
  inReset_setInterrupt on t := LawfulHardware.inReset_setInterrupt on t.hardware
  inReset_awaitScrub t := LawfulHardware.inReset_awaitScrub t.hardware
  inReset_awaitIdle t := LawfulHardware.inReset_awaitIdle t.hardware
  inReset_loadSecondLevelGating t := LawfulHardware.inReset_loadSecondLevelGating t.hardware
  inReset_loadBlockLevelGating t := LawfulHardware.inReset_loadBlockLevelGating t.hardware

end Traced

structure Plain (H : Type) where
  hardware : H

instance {H : Type} [Hardware H] : Hardware (Plain H) where
  inReset p := Hardware.inReset p.hardware
  release on p := ((Hardware.release on p.hardware).1, ⟨(Hardware.release on p.hardware).2⟩)
  setInterrupt on p := ⟨Hardware.setInterrupt on p.hardware⟩
  awaitScrub p := ((Hardware.awaitScrub p.hardware).1, ⟨(Hardware.awaitScrub p.hardware).2⟩)
  awaitIdle p := ((Hardware.awaitIdle p.hardware).1, ⟨(Hardware.awaitIdle p.hardware).2⟩)

instance {H : Type} [Hardware H] [LawfulHardware H] : LawfulHardware (Plain H) where
  inReset_release on p := LawfulHardware.inReset_release on p.hardware
  inReset_setInterrupt on p := LawfulHardware.inReset_setInterrupt on p.hardware
  inReset_awaitScrub p := LawfulHardware.inReset_awaitScrub p.hardware
  inReset_awaitIdle p := LawfulHardware.inReset_awaitIdle p.hardware
  inReset_loadSecondLevelGating _ := rfl
  inReset_loadBlockLevelGating _ := rfl

end Hardware

end FalconPmu
