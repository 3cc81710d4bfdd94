import FalconPmu.Engine.Board
import FalconPmu.Firmware.Shelf
import FalconPmu.Proofs.Controller.Custody
import FalconPmu.Proofs.Firmware.Refusal

namespace FalconPmu.Controller

open Firmware (Refusal refund)
open Loader (Traced)

variable {H L B : Type} [Hardware H] [Blob B] [Loader L B]

theorem Setup.of_error {c : Controller H B} {l : L} {o : Outcome (Controller H B × L) Unit}
    {e : Fault} (s : Setup c l o) (failed : o.result = .error e) :
    c.firmware = none ∧ c.usable = true ∧ o.state.1 = c ∧
      (Firmware.fetch c.capabilities.privSecurity l).1.result = .error e := by
  cases s with
  | skipped held => cases failed
  | unused vacant unit => cases failed
  | refused vacant unit fetched hresult =>
    cases failed
    rw [fetched]
    exact ⟨vacant, unit, rfl, hresult⟩
  | loaded vacant unit fetched => cases failed

/-- What a setup on `l` that failed with `e` has come to, given the parts it acquired and the one it
missed. A loader that records what it sees serves the same setup. -/
structure RolledBack (c : Controller H B) (l : L) (e : Fault) (acquired : List (Part × B))
    (absent : Option Part) : Prop where
  vacant : c.firmware = none
  restored : (initSoftware (c, l)).state.1 = c
  recorded : initSoftware (c, (⟨l, []⟩ : Traced L B)) =
    ⟨.error e, (c, ⟨(initSoftware (c, l)).state.2, refund acquired absent⟩),
      (initSoftware (c, l)).journal⟩
  refusal : Refusal c.capabilities.privSecurity acquired absent e

theorem rolledBack_initSoftware (c : Controller H B) (l : L) {e : Fault}
    (failed : (initSoftware (c, l)).result = .error e) :
    (∃ acquired absent, RolledBack c l e acquired absent) ∧
      ∀ f : Firmware B, (adopt f c).result = .ok () := by
  obtain ⟨vacant, unit, restored, hresult⟩ := (setup_initSoftware c l).of_error failed
  have adopts (f : Firmware B) : (adopt f c).result = .ok () := by rw [adopt_apply]
  refine ⟨⟨_, _, vacant, restored, ?_, Firmware.refusal_of_fetch hresult⟩, adopts⟩
  have hevents : events .initSoftware c l = (Firmware.fetch c.capabilities.privSecurity l).1.events := by
    simp [events, vacant, unit]
  have recorded : initSoftware (c, (⟨l, []⟩ : Traced L B)) =
      ⟨(initSoftware (c, l)).result, ((initSoftware (c, l)).state.1,
        ⟨(initSoftware (c, l)).state.2, events .initSoftware c l⟩), (initSoftware (c, l)).journal⟩ :=
    run_traced .initSoftware c ⟨l, []⟩
  rwa [failed, restored, hevents, Firmware.Course.events_of_error hresult] at recorded

theorem rolledBack_initSoftware_unsigned :
    let board : Board := ⟨true, true, .always none, .always none, .always none, .always none⟩
    let c : Controller Board NumberedBlob := new board ⟨true, true, true, true, true, true, false, true⟩
    let shelf : Shelf := ⟨[("gpmu_ucode_image.bin", [1, 2]), ("gpmu_ucode_desc.bin", [3])], 0⟩
    let o := initSoftware (c, shelf)
    let recorded := initSoftware (c, (⟨shelf, []⟩ : Traced Shelf NumberedBlob))
    o.result = .error (.firmwareLoad "pmu_sig.bin") ∧ o.state.1 = c ∧
      recorded.state.2.events = [
        .handedOut "gpmu_ucode_image.bin" ⟨"gpmu_ucode_image.bin", 1, [1, 2]⟩,
        .handedOut "gpmu_ucode_desc.bin" ⟨"gpmu_ucode_desc.bin", 2, [3]⟩,
        .missing "pmu_sig.bin",
        .returned ⟨"gpmu_ucode_desc.bin", 2, [3]⟩,
        .returned ⟨"gpmu_ucode_image.bin", 1, [1, 2]⟩] := by
  intro board c shelf o recorded
  have failed : o.result = .error (.firmwareLoad "pmu_sig.bin") := by rfl
  obtain ⟨⟨acquired, absent, rolledBack⟩, -⟩ := rolledBack_initSoftware c shelf failed
  exact ⟨failed, rolledBack.restored, by rfl⟩

end FalconPmu.Controller
