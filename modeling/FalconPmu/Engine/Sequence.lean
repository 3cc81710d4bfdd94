import FalconPmu.Action
import FalconPmu.Engine.Hardware

namespace FalconPmu

inductive Engine.State where
  | disabled
  | inReset
  | scrubbing
  | enabled
  deriving DecidableEq

def Engine.State.name : Engine.State → String
  | disabled => "Disabled"
  | inReset => "InReset"
  | scrubbing => "ScrubbingPending"
  | enabled => "Enabled"

structure Engine (H : Type) where
  hardware : H
  state : Engine.State
  manageInterrupt : Bool

namespace Engine

variable {H : Type}

def new (hardware : H) (manageInterrupt : Bool) : Engine H := ⟨hardware, .disabled, manageInterrupt⟩

def setState (s : State) : Action (Engine H) Unit := Action.modify fun e => { e with state := s }

def call (f : H → Except Fault Unit × H) : Action (Engine H) Unit :=
  Action.external fun e => ((f e.hardware).1, { e with hardware := (f e.hardware).2 })

def perform (f : H → H) : Action (Engine H) Unit :=
  Action.modify fun e => { e with hardware := f e.hardware }

variable [Hardware H]

/-- Puts the engine back in reset after a scrub that did not finish. Whether that works or not, the
engine counts as in reset. -/
def recover : Action (Engine H) Unit := do
  match ← (call (Hardware.release false)).attempt with
  | .ok () => pure ()
  | .error e => Action.note (.resetRecoveryFailed e)
  setState .inReset

def enable : Action (Engine H) Unit := do
  Action.note .engineEnabling
  (call (Hardware.release true)).noteFailure .resetReleaseFailed
  perform Hardware.loadSecondLevelGating
  perform Hardware.loadBlockLevelGating
  setState .scrubbing
  match ← (call Hardware.awaitScrub).attempt with
  | .error _ =>
    Action.note .scrubTimedOut
    recover
    Action.fail .scrubTimeout
  | .ok () =>
    match ← (call Hardware.awaitIdle).attempt with
    | .error _ =>
      Action.note .idleTimedOut
      Action.fail .enableTimeout
    | .ok () =>
      setState .enabled
      Action.note .engineEnabled

def disable : Action (Engine H) Unit := do
  Action.note .engineDisabling
  let e ← Action.get
  if Hardware.inReset e.hardware then
    Action.note .alreadyInReset
    setState .inReset
  else
    if e.manageInterrupt then
      perform (Hardware.setInterrupt false)
    (call (Hardware.release false)).noteFailure .resetFailed
    setState .inReset

def reset : Action (Engine H) Unit := do
  Action.note .engineResetting
  disable
  enable
  Action.note .engineReset

inductive Step where
  | enable
  | disable
  | reset
  deriving DecidableEq

def run : Step → Action (Engine H) Unit
  | .enable => enable
  | .disable => disable
  | .reset => reset

end Engine

end FalconPmu
