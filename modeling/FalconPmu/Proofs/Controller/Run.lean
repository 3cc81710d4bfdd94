import FalconPmu.Controller
import FalconPmu.Proofs.Firmware.Course

namespace FalconPmu.Controller

variable {H L B : Type}

def pinned (b : Bundle) (counter : Counter.Buffer) : Counter.Buffer :=
  ⟨(b.pinCounter counter).2, (b.length_pinCounter counter).trans counter.2⟩

theorem pinned_blankCounter (b : Bundle) :
    (pinned b blankCounter).val = 3 :: List.replicate 11 0 := by
  change (b.pinCounter blankCounter).2 = _
  rw [b.pinCounter_eq]
  cases b.counter
  rfl

def adopted (f : Firmware B) (c : Controller H B) : Controller H B where
  capabilities := { c.capabilities with zbcSave := f.bundle.zbcSave }
  interface := ⟨some f.bundle⟩
  engine := c.engine
  firmware := some f
  counter := pinned f.bundle c.counter

theorem adopt_apply (f : Firmware B) (c : Controller H B) :
    adopt f c = ⟨.ok (), c.adopted f, [.published f.bundle.family f.bundle.versions]⟩ := by
  rw [← f.bundle.pinCounter_ok c.counter.2]
  rfl

def withdrawn (c : Controller H B) : Controller H B where
  capabilities := c.capabilities
  interface := .empty
  engine := c.engine
  firmware := none
  counter := blankCounter

theorem removeSupport_apply [Loader L B] (c : Controller H B) (l : L) :
    removeSupport (c, l) = (⟨.ok (), (c.withdrawn, match c.firmware with
      | some f => f.release l
      | none => l), []⟩ : Outcome (Controller H B × L) Unit) := rfl

variable [Hardware H]

def usable (c : Controller H B) : Bool :=
  c.capabilities.lsPmu && Hardware.supported c.engine.hardware

def remaining (c : Controller H B) : Capabilities :=
  if c.capabilities.lsPmu && !Hardware.supported c.engine.hardware then
    c.capabilities.withoutUnit
  else c.capabilities

def gated (c : Controller H B) : Controller H B := { c with capabilities := c.remaining }

def gateNotices (c : Controller H B) : List Notice :=
  if c.capabilities.lsPmu && !Hardware.supported c.engine.hardware then [.unitUnsupported] else []

theorem earlyInit_apply (c : Controller H B) :
    earlyInit c = ⟨.ok (), c.gated, c.gateNotices⟩ := by
  simp only [earlyInit, gated, remaining, gateNotices, Action.bind_apply, Action.get_apply]
  cases c.capabilities.lsPmu && !Hardware.supported c.engine.hardware <;> rfl

theorem gated_of_usable {c : Controller H B} (h : c.usable = true) :
    c.gated = c ∧ c.gateNotices = [] := by
  simp only [usable, Bool.and_eq_true] at h
  simp [gated, remaining, gateNotices, h.2]

theorem lsPmu_gated (c : Controller H B) : c.gated.capabilities.lsPmu = c.usable := by
  simp only [gated, remaining, usable]
  cases hl : c.capabilities.lsPmu <;> cases Hardware.supported c.engine.hardware <;>
    simp [hl, Capabilities.withoutUnit]

theorem privSecurity_gated (c : Controller H B) :
    c.gated.capabilities.privSecurity = c.capabilities.privSecurity := by
  simp only [gated, remaining]
  split <;> rfl

theorem zbcSave_gated (c : Controller H B) :
    c.gated.capabilities.zbcSave = c.capabilities.zbcSave := by
  simp only [gated, remaining]
  split <;> rfl

variable [Blob B] [Loader L B]

open Firmware (Course)

theorem run_earlyInit (c : Controller H B) (l : L) :
    run .earlyInit (c, l) = ⟨.ok (), (c.gated, l), c.gateNotices⟩ := by
  rw [run, alone, Action.focus_apply, earlyInit_apply]

inductive Setup (c : Controller H B) (l : L) : Outcome (Controller H B × L) Unit → Prop
  | skipped {f} (held : c.firmware = some f) : Setup c l ⟨.ok (), (c, l), [.setupSkipped]⟩
  | unused (vacant : c.firmware = none) (unit : c.usable = false) :
      Setup c l ⟨.ok (), (c.gated, l), c.gateNotices⟩
  | refused {course l' e} (vacant : c.firmware = none) (unit : c.usable = true)
      (fetched : Firmware.fetch c.capabilities.privSecurity l = (course, l'))
      (failed : course.result = .error e) : Setup c l ⟨.error e, (c, l'), course.notices⟩
  | loaded {f l'} (vacant : c.firmware = none) (unit : c.usable = true)
      (fetched : Firmware.fetch c.capabilities.privSecurity l = (.loaded f, l')) :
      Setup c l ⟨.ok (), (c.adopted f, l'),
        (Course.loaded f).notices ++ [.published f.bundle.family f.bundle.versions]⟩

theorem setup_initSoftware (c : Controller H B) (l : L) : Setup c l (initSoftware (c, l)) := by
  rw [initSoftware, Action.bind_apply]
  cases hf : c.firmware with
  | some f =>
    simp only [Action.get_apply, hf]
    exact .skipped hf
  | none =>
    simp only [Action.get_apply, hf, Action.bind_apply, alone, Action.focus_apply, earlyInit_apply,
      lsPmu_gated]
    cases hu : c.usable with
    | false =>
      simpa using Setup.unused hf hu
    | true =>
      simp only [gated_of_usable hu, if_true, Action.bind_apply, withLoader, Action.focus_apply,
        Firmware.load_apply]
      cases hc : Firmware.fetch c.capabilities.privSecurity l with
      | mk course l' =>
        cases hr : course.result with
        | error e => simpa [hr] using Setup.refused hf hu hc hr
        | ok f =>
          cases Course.eq_loaded_of_result hr
          simpa [hr, adopt_apply] using Setup.loaded hf hu hc

end FalconPmu.Controller
