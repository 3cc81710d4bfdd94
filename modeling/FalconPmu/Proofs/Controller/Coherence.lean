import FalconPmu.Proofs.Controller.Play

namespace FalconPmu.Controller

variable {H L B : Type} [Blob B]

structure InForce (c : Controller H B) (f : Firmware B) : Prop where
  active : c.interface.active = some f.bundle
  family : f.bundle.family.number = f.descriptor.appVersion
  parsed : Descriptor.parse (Blob.bytes f.blobs.carrier) = .ok f.descriptor
  mode : f.blobs.isSecure = c.capabilities.privSecurity
  zbcSave : c.capabilities.zbcSave = f.bundle.zbcSave
  counter : c.counter.val = [3, 0, 0, 0, 0, 0, 0, 0, 0, 0, 0, 0]

structure Coherent (c : Controller H B) : Prop where
  initialized : c.firmware.isSome = c.interface.isInitialized
  inForce : ∀ f, c.firmware = some f → c.InForce f
  vacant : c.firmware = none → c.counter.val = List.replicate 12 0

theorem coherent_of_none {c : Controller H B} (firmware : c.firmware = none)
    (interface : c.interface.active = none) (counter : c.counter = blankCounter) : Coherent c where
  initialized := by rw [firmware, Interface.isInitialized, interface, Option.isSome, Option.isSome]
  inForce := by
    intro f hf
    rw [firmware] at hf
    cases hf
  vacant := fun _ => congrArg Subtype.val counter

theorem Coherent.frame {c : Controller H B} (h : Coherent c) (e : Engine H) (k : Capabilities)
    (privSecurity : k.privSecurity = c.capabilities.privSecurity)
    (zbcSave : k.zbcSave = c.capabilities.zbcSave) :
    Coherent { c with engine := e, capabilities := k } where
  initialized := h.initialized
  inForce := by
    intro f hf
    have hc := h.inForce f hf
    exact ⟨hc.active, hc.family, hc.parsed, hc.mode.trans privSecurity.symm,
      zbcSave.trans hc.zbcSave, hc.counter⟩
  vacant := h.vacant

theorem Coherent.adopted {c : Controller H B} {f : Firmware B} (h : Coherent c)
    (vacant : c.firmware = none) (genuine : f.Genuine c.capabilities.privSecurity) :
    Coherent (c.adopted f) where
  initialized := rfl
  inForce := by
    intro g hg
    cases hg
    refine ⟨rfl, (Bundle.select_eq_ok genuine.selected).2, genuine.parsed, genuine.mode, rfl, ?_⟩
    have hcounter : c.counter = blankCounter := Subtype.ext (h.vacant vacant)
    rw [Controller.adopted, hcounter, pinned_blankCounter]
    rfl
  vacant := by
    intro hnone
    cases hnone

variable [Hardware H] [Loader L B]

theorem Setup.coherent {c : Controller H B} {l : L} {o : Outcome (Controller H B × L) Unit}
    (s : Setup c l o) (h : Coherent c) : Coherent o.state.1 := by
  cases s with
  | skipped held => exact h
  | unused vacant unit => exact h.frame _ _ (privSecurity_gated c) (zbcSave_gated c)
  | refused vacant unit fetched failed => exact h
  | loaded vacant unit fetched =>
    exact h.adopted vacant (Firmware.genuine_of_fetch (congrArg Prod.fst fetched))

theorem Coherent.run {c : Controller H B} (h : Coherent c) (x : Step) (l : L) :
    Coherent (run x (c, l)).state.1 := by
  cases x with
  | earlyInit =>
    simp only [Controller.run, alone, Action.focus_apply, earlyInit_apply]
    exact h.frame _ _ (privSecurity_gated c) (zbcSave_gated c)
  | initSoftware => exact (setup_initSoftware c l).coherent h
  | removeSupport => exact coherent_of_none rfl rfl rfl
  | engine x => exact h.frame _ _ rfl rfl

theorem Setup.privSecurity {c : Controller H B} {l : L} {o : Outcome (Controller H B × L) Unit}
    (s : Setup c l o) :
    o.state.1.capabilities.privSecurity = c.capabilities.privSecurity := by
  cases s with
  | unused vacant unit => exact privSecurity_gated c
  | _ => rfl

theorem privSecurity_run (c : Controller H B) (x : Step) (l : L) :
    (run x (c, l)).state.1.capabilities.privSecurity = c.capabilities.privSecurity := by
  cases x with
  | earlyInit =>
    simp only [Controller.run, alone, Action.focus_apply, earlyInit_apply]
    exact privSecurity_gated c
  | initSoftware => exact (setup_initSoftware c l).privSecurity
  | removeSupport => rfl
  | engine x => rfl

theorem Coherent.act {s : Controller H B × L} (h : Coherent s.1) (m : Move H L) :
    Coherent (m.act s).state.1 := by
  cases m with
  | step x => exact h.run x s.2
  | hardware f => exact h.frame _ _ rfl rfl
  | loader f => exact h

theorem privSecurity_act (m : Move H L) (s : Controller H B × L) :
    (m.act s).state.1.capabilities.privSecurity = s.1.capabilities.privSecurity := by
  cases m with
  | step x => exact privSecurity_run s.1 x s.2
  | hardware f => rfl
  | loader f => rfl

theorem Coherent.play (hardware : H) (k : Capabilities) (l : L) (ms : List (Move H L)) :
    Coherent (play ms (new hardware k, l)).state.1 := by
  apply play_preserves (P := fun s => Coherent s.1)
  · intro m _ s h
    exact h.act m
  · exact coherent_of_none rfl rfl rfl

theorem privSecurity_play (hardware : H) (k : Capabilities) (l : L) (ms : List (Move H L)) :
    (play ms (new hardware k, l)).state.1.capabilities.privSecurity = k.privSecurity := by
  apply play_preserves (P := fun s => s.1.capabilities.privSecurity = k.privSecurity)
  · intro m _ s h
    exact (privSecurity_act m s).trans h
  · rfl

/-- The firmware loaded, the interface published, the capability that the firmware sets and the
counter agree between the steps of every run. -/
theorem coherent_after (hardware : H) (k : Capabilities) (l : L) (ms : List (Move H L)) :
    Coherent (play ms (new hardware k, l)).state.1 ∧
      (play ms (new hardware k, l)).state.1.capabilities.privSecurity = k.privSecurity :=
  ⟨Coherent.play hardware k l ms, privSecurity_play hardware k l ms⟩

end FalconPmu.Controller
