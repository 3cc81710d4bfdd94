import FalconPmu.Engine.Sequence
import FalconPmu.Firmware.Load
import FalconPmu.Interface

/-!
The controller of the unit: its capabilities, the engine, the firmware, and the interface published
for it. Steps that need firmware act on the controller together with a loader.
-/

namespace FalconPmu

structure Capabilities where
  lsPmu : Bool
  privSecurity : Bool
  perfmon : Bool
  canElpg : Bool
  elpgEnabled : Bool
  aelpgEnabled : Bool
  zbcSave : Bool
  manageInterrupt : Bool
  deriving DecidableEq

def Capabilities.withoutUnit (c : Capabilities) : Capabilities :=
  { c with
    lsPmu := false
    canElpg := false
    elpgEnabled := false
    aelpgEnabled := false
    perfmon := false }

structure Controller (H B : Type) where
  capabilities : Capabilities
  interface : Interface
  engine : Engine H
  firmware : Option (Firmware B)
  counter : Counter.Buffer

namespace Controller

variable {H L B : Type}

def blankCounter : Counter.Buffer := ⟨List.replicate 12 0, rfl⟩

def new (hardware : H) (c : Capabilities) : Controller H B where
  capabilities := c
  interface := .empty
  engine := .new hardware c.manageInterrupt
  firmware := none
  counter := blankCounter

def onEngine {α : Type} (x : Action (Engine H) α) : Action (Controller H B) α :=
  Action.focus engine (fun e c => { c with engine := e }) x

def onInterface {α : Type} (x : Action Interface α) : Action (Controller H B) α :=
  Action.focus interface (fun i c => { c with interface := i }) x

def alone {α : Type} (x : Action (Controller H B) α) : Action (Controller H B × L) α :=
  Action.focus Prod.fst (fun c s => (c, s.2)) x

def withLoader {α : Type} (x : Action L α) : Action (Controller H B × L) α :=
  Action.focus Prod.snd (fun l s => (s.1, l)) x

def pinCounter : Action (Controller H B) Unit :=
  Action.external fun c =>
    let pinned := c.interface.run .pinCounter c.counter
    (pinned.1,
      { c with counter := ⟨pinned.2, (c.interface.length_run_pinCounter _).trans c.counter.2⟩ })

def adopt (f : Firmware B) : Action (Controller H B) Unit := do
  onInterface (Interface.install f.bundle)
  Action.modify fun c =>
    { c with
      capabilities.zbcSave := f.bundle.zbcSave
      firmware := some f }
  pinCounter

variable [Hardware H]

def earlyInit : Action (Controller H B) Unit := do
  let c ← Action.get
  if c.capabilities.lsPmu && !Hardware.supported c.engine.hardware then
    Action.note .unitUnsupported
    Action.modify fun c => { c with capabilities := c.capabilities.withoutUnit }

variable [Blob B] [Loader L B]

/-- Loads the firmware and publishes the bundle it calls for. Skipped if firmware is loaded, or if
the unit is not in use. -/
def initSoftware : Action (Controller H B × L) Unit := do
  match (← Action.get).1.firmware with
  | some _ => Action.note .setupSkipped
  | none =>
    alone earlyInit
    let c := (← Action.get).1.capabilities
    if c.lsPmu then
      let f ← withLoader (Firmware.load c.privSecurity)
      alone (adopt f)

def removeSupport : Action (Controller H B × L) Unit :=
  Action.modify fun (c, l) =>
    ({ c with firmware := none, interface := .empty, counter := blankCounter },
      match c.firmware with
      | some f => f.release l
      | none => l)

inductive Step where
  | earlyInit
  | initSoftware
  | removeSupport
  | engine (s : Engine.Step)
  deriving DecidableEq

def run : Step → Action (Controller H B × L) Unit
  | .earlyInit => alone Controller.earlyInit
  | .initSoftware => Controller.initSoftware
  | .removeSupport => Controller.removeSupport
  | .engine s => alone (onEngine (Engine.run s))

end Controller

end FalconPmu
