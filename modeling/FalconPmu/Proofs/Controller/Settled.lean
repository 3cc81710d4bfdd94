import FalconPmu.Engine.Board
import FalconPmu.Firmware.Shelf
import FalconPmu.Proofs.Controller.Waning

namespace FalconPmu.Controller

open Loader (Traced)

variable {H L B : Type}

def Settled (c : Controller H B) : Prop := c.firmware.isSome = true ∨ c.capabilities.lsPmu = false

variable [Hardware H]

theorem gated_of_lost {c : Controller H B} (lost : c.capabilities.lsPmu = false) : c.gated = c := by
  simp [gated, remaining, lost]

theorem Settled.not_usable {c : Controller H B} (h : c.Settled) (vacant : c.firmware = none) :
    c.usable = false := by
  obtain held | lost := h
  · rw [vacant] at held
    cases held
  · rw [usable, lost, Bool.false_and]

variable [Blob B] [Loader L B]

theorem Setup.settled {c : Controller H B} {l : L} {o : Outcome (Controller H B × L) Unit}
    (s : Setup c l o) (succeeded : o.result = .ok ()) : o.state.1.Settled := by
  cases s with
  | @skipped f held => exact .inl (by rw [held]; rfl)
  | unused vacant unit => exact .inr ((lsPmu_gated c).trans unit)
  | refused vacant unit fetched failed => cases succeeded
  | loaded vacant unit fetched => exact .inl rfl

theorem Settled.setup {c : Controller H B} {l : L} {o : Outcome (Controller H B × L) Unit}
    (h : c.Settled) (s : Setup c l o) : o.result = .ok () ∧ o.state = (c, l) := by
  cases s with
  | skipped held => exact ⟨rfl, rfl⟩
  | unused vacant unit =>
    obtain held | lost := h
    · rw [vacant] at held
      cases held
    · exact ⟨rfl, by rw [gated_of_lost lost]⟩
  | refused vacant unit fetched failed =>
    rw [h.not_usable vacant] at unit
    cases unit
  | loaded vacant unit fetched =>
    rw [h.not_usable vacant] at unit
    cases unit

theorem isSome_firmware_act {m : Move H L} (kept : m ≠ .step .removeSupport)
    {s : Controller H B × L} (held : s.1.firmware.isSome = true) :
    (m.act s).state.1.firmware.isSome = true := by
  cases m with
  | step x =>
    cases x with
    | earlyInit =>
      rw [Move.act, run_earlyInit]
      exact held
    | initSoftware =>
      have settled : s.1.Settled := .inl held
      have state := (settled.setup (setup_initSoftware s.1 s.2)).2
      change (initSoftware s).state.1.firmware.isSome = true
      rw [state]
      exact held
    | removeSupport => exact absurd rfl kept
    | engine x => exact held
  | hardware f => exact held
  | loader f => exact held

theorem Settled.act {m : Move H L} (kept : m ≠ .step .removeSupport) {s : Controller H B × L}
    (h : s.1.Settled) : (m.act s).state.1.Settled := by
  obtain held | lost := h
  · exact .inl (isSome_firmware_act kept held)
  · exact .inr (lsPmu_act lost)

/-- After a setup that succeeded, every other one does until support is removed. It leaves all as it is,
also the record of a loader, whatever has happened to the hardware and the loader meanwhile. -/
theorem settled_play (c : Controller H B) (l : Traced L B)
    (succeeded : (initSoftware (c, l)).result = .ok ()) (ms : List (Move H (Traced L B)))
    (kept : .step .removeSupport ∉ ms) :
    let s := (play ms (initSoftware (c, l)).state).state
    s.1.Settled ∧ (initSoftware s).result = .ok () ∧ (initSoftware s).state = s := by
  intro s
  have settled : s.1.Settled := by
    apply play_preserves (P := fun s => s.1.Settled)
    · intro m hm s h
      exact h.act fun removes => kept (removes ▸ hm)
    · exact (setup_initSoftware c l).settled succeeded
  exact ⟨settled, settled.setup (setup_initSoftware s.1 s.2)⟩

set_option maxRecDepth 4000 in
theorem settled_play_too_late :
    let board (supported : Bool) : Board :=
      ⟨false, supported, .always none, .always none, .always none, .always none⟩
    let k : Capabilities := ⟨true, false, true, true, true, true, false, true⟩
    let shelf (entries : List (String × Bytes)) : Traced Shelf NumberedBlob := ⟨⟨entries, 0⟩, []⟩
    let entries := [("gpmu_ucode.bin", Firmware.bare 20490253)]
    let meanwhile (supported : Bool) (entries : List (String × Bytes)) :
        List (Move Board (Traced Shelf NumberedBlob)) :=
      [.hardware fun b => { b with supported := supported },
        .loader fun t => { t with loader := ⟨entries, 1⟩ }, .step .earlyInit, .step (.engine .reset)]
    let loaded := initSoftware (new (board true) k, shelf entries)
    let absent := initSoftware (new (board false) k, shelf [])
    let s := (play (meanwhile false []) loaded.state).state
    let s' := (play (meanwhile true entries) absent.state).state
    (loaded.result = .ok () ∧ s.1.firmware.isSome = true ∧ s.1.capabilities.lsPmu = false ∧
      (initSoftware s).result = .ok () ∧ (initSoftware s).state = s) ∧
    (absent.result = .ok () ∧ s'.1.firmware.isSome = false ∧
      Hardware.supported s'.1.engine.hardware = true ∧
      (initSoftware s').result = .ok () ∧ (initSoftware s').state = s') := by
  intro board k shelf entries meanwhile loaded absent s s'
  have hloaded : loaded.result = .ok () := by rfl
  have habsent : absent.result = .ok () := by rfl
  have kept (supported entries) : .step .removeSupport ∉ meanwhile supported entries := by
    simp [meanwhile]
  exact ⟨⟨hloaded, by rfl, by rfl, (settled_play _ _ hloaded _ (kept false [])).2⟩,
    habsent, by rfl, by rfl, (settled_play _ _ habsent _ (kept true entries)).2⟩

end FalconPmu.Controller
