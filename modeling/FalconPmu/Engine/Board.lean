import FalconPmu.Engine.Hardware

namespace FalconPmu

inductive Script where
  | always (r : Option Fault)
  | inTurn (rs : List (Option Fault))

namespace Script

def result : Option Fault → Except Fault Unit
  | none => .ok ()
  | some e => .error e

def next : Script → Except Fault Unit × Script
  | always r => (result r, .always r)
  | inTurn [] => (.ok (), .inTurn [])
  | inTurn (r :: rs) => (result r, .inTurn rs)

end Script

structure Board where
  inReset : Bool
  supported : Bool
  releaseOn : Script
  releaseOff : Script
  scrub : Script
  idle : Script

namespace Board

def release (on : Bool) (b : Board) : Except Fault Unit × Board :=
  let (r, script) := (if on then b.releaseOn else b.releaseOff).next
  let b := if on then { b with releaseOn := script } else { b with releaseOff := script }
  match r with
  | .ok () => (.ok (), { b with inReset := !on })
  | .error e => (.error e, b)

instance : Hardware Board where
  inReset := inReset
  release := release
  setInterrupt _ b := b
  awaitScrub b := (b.scrub.next.1, { b with scrub := b.scrub.next.2 })
  awaitIdle b := (b.idle.next.1, { b with idle := b.idle.next.2 })
  supported := supported

instance : LawfulHardware Board where
  inReset_release on b := by
    cases on <;> simp only [Hardware.release, Hardware.inReset, release] <;> split <;> rfl
  inReset_setInterrupt _ _ := rfl
  inReset_awaitScrub _ := rfl
  inReset_awaitIdle _ := rfl
  inReset_loadSecondLevelGating _ := rfl
  inReset_loadBlockLevelGating _ := rfl

end Board

end FalconPmu
