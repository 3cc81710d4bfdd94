import FalconPmu.Firmware.Shelf
import FalconPmu.Engine.Board
import FalconPmu.Proofs.Controller.Likeness
import FalconPmu.Proofs.Controller.Waning
import FalconPmu.Proofs.Engine.Run

namespace FalconPmu

namespace Engine

variable {H : Type} [Hardware H]

structure Alike (e e' : Engine H) : Prop where
  hardware : e.hardware = e'.hardware
  manageInterrupt : e.manageInterrupt = e'.manageInterrupt

theorem enable_alike {e e' : Engine H} (h : Alike e e') : (enable e).Alike Alike (enable e') := by
  rw [enable_apply, enable_apply, h.hardware]
  exact ⟨rfl, rfl, rfl, h.manageInterrupt⟩

theorem disable_alike {e e' : Engine H} (h : Alike e e') : (disable e).Alike Alike (disable e') := by
  rw [disable_apply, disable_apply, h.hardware, h.manageInterrupt]
  exact ⟨rfl, rfl, rfl, h.manageInterrupt⟩

theorem run_alike (x : Step) {e e' : Engine H} (h : Alike e e') :
    (run x e).Alike Alike (run x e') := by
  cases x with
  | enable => exact enable_alike h
  | disable => exact disable_alike h
  | reset =>
    refine Action.bind_alike (Action.note_alike _ h) fun _ _ _ h => ?_
    refine Action.bind_alike (disable_alike h) fun _ _ _ h => ?_
    refine Action.bind_alike (enable_alike h) fun _ _ _ h => ?_
    exact Action.note_alike _ h

end Engine

namespace Controller

open Loader (Traced Twins)

variable {H L B L' B' : Type} {same : L → L' → Prop} {twin : B → B' → Prop} [Hardware H]

structure Resembling (same : L → L' → Prop) (twin : B → B' → Prop) (s : Controller H B × L)
    (s' : Controller H B' × L') : Prop extends Alike same twin s s' where
  engine : s.1.engine.Alike s'.1.engine

theorem resembling_withdrawn {c : Controller H B}
    (managed : c.engine.manageInterrupt = c.capabilities.manageInterrupt) {l : L} {l' : L'}
    (h : same l l') : Resembling same twin (c.withdrawn, l)
      ((new c.engine.hardware c.capabilities : Controller H B'), l') where
  capabilities := rfl
  interface := rfl
  firmware := .none
  counter := rfl
  supported := rfl
  loader := h
  engine := ⟨rfl, managed⟩

variable [Blob B] [Blob B'] [Loader L B] [Loader L' B']

theorem run_resembling (twins : Twins same twin) (x : Step) {s : Controller H B × L}
    {s' : Controller H B' × L'} (h : Resembling same twin s s') :
    (run x s).Alike (Resembling same twin) (run x s') := by
  have quietly (quiet : x.engine? = none) : (run x s).Alike (Resembling same twin) (run x s') := by
    obtain ⟨result, journal, state⟩ := run_alike twins quiet h.toAlike
    refine ⟨result, journal, state, ?_⟩
    rw [engine_run quiet, engine_run quiet]
    exact h.engine
  cases x with
  | engine y =>
    obtain ⟨result, journal, state⟩ := Engine.run_alike y h.engine
    exact ⟨result, journal, h.withEngine (congrArg Hardware.supported state.hardware), state⟩
  | _ => exact quietly rfl

theorem act_resembling (twins : Twins same twin) {m : Move H L} {m' : Move H L'}
    (hm : m.Twin same m') {s : Controller H B × L} {s' : Controller H B' × L'}
    (h : Resembling same twin s s') : (m.act s).Alike (Resembling same twin) (m'.act s') := by
  cases hm with
  | step x => exact (run_resembling twins x h).transcript x
  | hardware f =>
    have hardware := congrArg f h.engine.hardware
    exact ⟨rfl, h.withEngine (congrArg Hardware.supported hardware), hardware, h.engine.manageInterrupt⟩
  | loader hf => exact ⟨rfl, { h.toAlike with loader := hf _ _ h.loader }, h.engine⟩

theorem play_resembling (twins : Twins same twin) {ms : List (Move H L)} {ms' : List (Move H L')}
    (hms : List.Forall₂ (Move.Twin same) ms ms') {s : Controller H B × L} {s' : Controller H B' × L'}
    (h : Resembling same twin s s') : (play ms s).Alike (Resembling same twin) (play ms' s') :=
  transcribe_alike (fun _ _ hm _ _ h => act_resembling twins hm h) hms h

theorem manageInterrupt_play (hardware : H) (k : Capabilities) (l : L) (ms : List (Move H L)) :
    (play ms ((new hardware k : Controller H B), l)).state.1.engine.manageInterrupt =
      (play ms ((new hardware k : Controller H B), l)).state.1.capabilities.manageInterrupt := by
  apply play_preserves
    (P := fun s => s.1.engine.manageInterrupt = s.1.capabilities.manageInterrupt)
  · intro m _ s h
    rw [(shift_act m s).wanes.manageInterrupt, ← h]
    cases m with
    | step x =>
      cases x with
      | engine y =>
        change (Engine.run y s.1.engine).state.manageInterrupt = _
        rw [Engine.run_state]
      | _ => exact congrArg Engine.manageInterrupt (engine_run rfl s)
    | hardware f => rfl
    | loader f => rfl
  · rfl

/-- No run tells the controllers apart, whatever happens in it. Their loaders hand out the same contents;
what they do is recorded from the start. -/
def Interchangeable (c c' : Controller H B) : Prop :=
  ∀ (L L' : Type) [Loader L B] [Loader L' B] (same : L → L' → Prop) (twin : B → B → Prop),
    Twins same twin → ∀ l l', same l l' → ∀ ms ms', List.Forall₂ (Move.Twin same) ms ms' →
      (play (ms.map Move.recorded) (c, (⟨l, []⟩ : Traced L B))).Alike
        (Resembling (Traced.Twin same twin) twin)
        (play (ms'.map Move.recorded) (c', (⟨l', []⟩ : Traced L' B)))

theorem renewed_play (hardware : H) (k : Capabilities) (l : Traced L B)
    (ms : List (Move H (Traced L B))) :
    let s : Controller H B × Traced L B := (play ms (new hardware k, l)).state
    let removed := removeSupport s
    let fresh : Controller H B := new s.1.engine.hardware s.1.capabilities
    (removed.result = .ok () ∧ removed.state.1 = { fresh with engine := s.1.engine }) ∧
      removeSupport removed.state = ⟨.ok (), removed.state, []⟩ ∧
      Interchangeable removed.state.1 fresh := by
  intro s removed fresh
  refine ⟨⟨rfl, rfl⟩, rfl, ?_⟩
  intro L₁ L₂ _ _ same twin twins l₁ l₂ hl ns₁ ns₂ hns
  have recorded : List.Forall₂ (Move.Twin (Traced.Twin same twin)) (ns₁.map Move.recorded)
      (ns₂.map Move.recorded) := by
    rw [List.forall₂_map_left_iff, List.forall₂_map_right_iff]
    exact hns.imp fun _ _ h => h.recorded
  apply play_resembling twins.traced recorded
  exact resembling_withdrawn (manageInterrupt_play hardware k l ms) ⟨hl, .nil⟩

theorem twins_shelf : Twins (fun s s' : Shelf => s.entries = s'.entries)
    (fun b b' : NumberedBlob => b.name = b'.name ∧ b.content = b'.content) where
  requested {s s'} h name := by
    simp only [Loader.request, Shelf.request, h]
    cases s'.entries.lookup name with
    | none => exact .none
    | some content => exact .some ⟨rfl, rfl⟩
  request {s s'} h name := by
    simp only [Loader.request, Shelf.request, h]
    cases s'.entries.lookup name with
    | none => exact h
    | some content => rfl
  release h _ := h
  bytes hb := hb.2

set_option maxRecDepth 4000 in
theorem renewed_play_renumbered :
    let board : Board := ⟨true, true, .always none, .always none, .always none, .always none⟩
    let k : Capabilities := ⟨true, false, true, true, true, true, false, true⟩
    let shelf (number : Nat) : Traced Shelf NumberedBlob :=
      ⟨⟨[("gpmu_ucode.bin", Firmware.bare 20490253)], number⟩, []⟩
    let s : Controller Board NumberedBlob × Traced Shelf NumberedBlob :=
      (play [.step (.engine .enable), .step .initSoftware] (new board k, shelf 0)).state
    let c := (removeSupport s).state.1
    let fresh : Controller Board NumberedBlob := new s.1.engine.hardware s.1.capabilities
    let setup : List (Move Board Shelf) := [.step .initSoftware]
    let again := play (setup.map Move.recorded) (c, shelf 1)
    let first := play (setup.map Move.recorded) (fresh, shelf 0)
    c.engine.state = .enabled ∧ fresh.engine.state = .disabled ∧
      again.reports = first.reports ∧
      again.state.2.events =
        [.handedOut "gpmu_ucode.bin" ⟨"gpmu_ucode.bin", 2, Firmware.bare 20490253⟩] ∧
      first.state.2.events =
        [.handedOut "gpmu_ucode.bin" ⟨"gpmu_ucode.bin", 1, Firmware.bare 20490253⟩] := by
  intro board k shelf s c fresh setup again first
  obtain ⟨-, -, interchangeable⟩ := renewed_play board k (shelf 0)
    [.step (.engine .enable), .step .initSoftware]
  have alike := interchangeable Shelf Shelf _ _ twins_shelf (shelf 1).loader (shelf 0).loader rfl
    setup setup (.cons (.step _) .nil)
  exact ⟨by rfl, by rfl, alike.reports, by rfl, by rfl⟩

end Controller

end FalconPmu
