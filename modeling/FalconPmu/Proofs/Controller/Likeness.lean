import FalconPmu.Proofs.Controller.Custody
import FalconPmu.Proofs.Firmware.Twin

/-!
What a step that does not concern the engine depends on. It sees of the hardware whether there is a usable
unit, and of the loader what it hands out; from controllers alike in this it makes controllers alike.
-/

namespace FalconPmu.Controller

open Loader (Traced Twins)

variable {H L B H' L' B' : Type} {same : L → L' → Prop} {twin : B → B' → Prop}

inductive Move.Twin (same : L → L' → Prop) : Move H L → Move H L' → Prop
  | step (x) : Twin same (.step x) (.step x)
  | hardware (f) : Twin same (.hardware f) (.hardware f)
  | loader {f f'} (h : ∀ l l', same l l' → same (f l) (f' l')) : Twin same (.loader f) (.loader f')

theorem Move.twin_eq (m : Move H L) : m.Twin Eq m := by
  cases m with
  | step x => exact .step x
  | hardware f => exact .hardware f
  | loader f => exact .loader fun _ _ h => congrArg f h

theorem Move.Twin.recorded {m : Move H L} {m' : Move H L'} (h : m.Twin same m') :
    (m.recorded : Move H (Traced L B)).Twin (Traced.Twin same twin)
      (m'.recorded : Move H (Traced L' B')) := by
  cases h with
  | step x => exact .step x
  | hardware f => exact .hardware f
  | loader h => exact .loader fun t t' ht => ⟨h _ _ ht.loader, ht.events⟩

variable [Hardware H] [Hardware H']

/-- Alike in all but the engine; of its hardware only the answer whether there is a unit counts. -/
structure Alike (same : L → L' → Prop) (twin : B → B' → Prop) (s : Controller H B × L)
    (s' : Controller H' B' × L') : Prop where
  capabilities : s.1.capabilities = s'.1.capabilities
  interface : s.1.interface = s'.1.interface
  firmware : Option.Rel (Firmware.Twin twin) s.1.firmware s'.1.firmware
  counter : s.1.counter = s'.1.counter
  supported : Hardware.supported s.1.engine.hardware = Hardware.supported s'.1.engine.hardware
  loader : same s.2 s'.2

section Alike

theorem Alike.refl (s : Controller H B × L) : Alike Eq Eq s s where
  capabilities := rfl
  interface := rfl
  firmware := by
    cases s.1.firmware with
    | none => exact .none
    | some f => exact .some (.refl f)
  counter := rfl
  supported := rfl
  loader := rfl

variable {c : Controller H B} {c' : Controller H' B'} {l : L} {l' : L'}

theorem Alike.eq {c c' : Controller H B} {l l' : L} (h : Alike Eq Eq (c, l) (c', l')) :
    c = { c' with engine := c.engine } ∧ l = l' := by
  obtain ⟨k, i, e, f, b⟩ := c
  obtain ⟨k', i', e', f', b'⟩ := c'
  obtain ⟨hk, hi, hf, hb, -, hl⟩ := h
  cases hk
  cases hi
  cases hb
  refine ⟨?_, hl⟩
  cases hf with
  | none => rfl
  | some hf => rw [hf.eq]

theorem Alike.vacant (h : Alike same twin (c, l) (c', l')) (vacant : c.firmware = none) :
    c'.firmware = none := by
  have hf := h.firmware
  rw [vacant] at hf
  generalize c'.firmware = f' at hf ⊢
  cases hf
  rfl

theorem Alike.held (h : Alike same twin (c, l) (c', l')) {f : Firmware B}
    (held : c.firmware = some f) : ∃ f', c'.firmware = some f' ∧ f.Twin twin f' := by
  have hf := h.firmware
  rw [held] at hf
  generalize c'.firmware = f' at hf ⊢
  cases hf with
  | some hf => exact ⟨_, rfl, hf⟩

theorem Alike.usable (h : Alike same twin (c, l) (c', l')) : c.usable = c'.usable := by
  rw [Controller.usable, Controller.usable, h.capabilities, h.supported]

theorem Alike.gated (h : Alike same twin (c, l) (c', l')) :
    Alike same twin (c.gated, l) (c'.gated, l') where
  capabilities := by
    change c.remaining = c'.remaining
    rw [remaining, remaining, h.capabilities, h.supported]
  interface := h.interface
  firmware := h.firmware
  counter := h.counter
  supported := h.supported
  loader := h.loader

theorem Alike.gateNotices (h : Alike same twin (c, l) (c', l')) : c.gateNotices = c'.gateNotices := by
  rw [Controller.gateNotices, Controller.gateNotices, h.capabilities, h.supported]

theorem Alike.withdrawn (h : Alike same twin (c, l) (c', l')) {l₁ : L} {l₁' : L'} (h₁ : same l₁ l₁') :
    Alike same twin (c.withdrawn, l₁) (c'.withdrawn, l₁') where
  capabilities := h.capabilities
  interface := rfl
  firmware := .none
  counter := rfl
  supported := h.supported
  loader := h₁

theorem Alike.adopted (h : Alike same twin (c, l) (c', l')) {f : Firmware B} {f' : Firmware B'}
    (hf : f.Twin twin f') {l₁ : L} {l₁' : L'} (h₁ : same l₁ l₁') :
    Alike same twin (c.adopted f, l₁) (c'.adopted f', l₁') where
  capabilities := by
    rw [Controller.adopted, Controller.adopted, h.capabilities, hf.bundle]
  interface := by
    rw [Controller.adopted, Controller.adopted, hf.bundle]
  firmware := .some hf
  counter := by
    rw [Controller.adopted, Controller.adopted, h.counter, hf.bundle]
  supported := h.supported
  loader := h₁

theorem Alike.withEngine (h : Alike same twin (c, l) (c', l')) {e : Engine H} {e' : Engine H'}
    (supported : Hardware.supported e.hardware = Hardware.supported e'.hardware) :
    Alike same twin ({ c with engine := e }, l) ({ c' with engine := e' }, l') :=
  { h with supported := supported }

end Alike

variable [Blob B] [Blob B'] [Loader L B] [Loader L' B']

theorem Setup.engine {c : Controller H B} {l : L} {o : Outcome (Controller H B × L) Unit}
    (s : Setup c l o) : o.state.1.engine = c.engine := by
  cases s <;> rfl

theorem engine_run {x : Step} (quiet : x.engine? = none) (s : Controller H B × L) :
    (run x s).state.1.engine = s.1.engine := by
  cases x with
  | earlyInit =>
    rw [run_earlyInit]
    rfl
  | initSoftware => exact (setup_initSoftware s.1 s.2).engine
  | removeSupport => rfl
  | engine x => cases quiet

theorem Setup.alike (twins : Twins same twin) {c : Controller H B} {c' : Controller H' B'} {l : L}
    {l' : L'} {o : Outcome (Controller H B × L) Unit} (s : Setup c l o)
    (h : Alike same twin (c, l) (c', l')) :
    ∃ o', Setup c' l' o' ∧ o.Alike (Alike same twin) o' := by
  -- The other fetch is named before the cases: two of them need it, and only the first is given with one.
  have hfetch := Firmware.fetch_twins twins c.capabilities.privSecurity h.loader
  cases hfetched : Firmware.fetch c.capabilities.privSecurity l' with
  | mk course' l₁' =>
    have fetched' := hfetched
    rw [h.capabilities] at fetched'
    cases s with
    | skipped held =>
      obtain ⟨f', held', -⟩ := h.held held
      exact ⟨_, .skipped held', rfl, rfl, h⟩
    | unused vacant unit =>
      have unit' : c'.usable = false := h.usable ▸ unit
      exact ⟨_, .unused (h.vacant vacant) unit', rfl, h.gateNotices, h.gated⟩
    | refused vacant unit fetched failed =>
      have unit' : c'.usable = true := h.usable ▸ unit
      rw [fetched, hfetched] at hfetch
      obtain ⟨failed', notices⟩ := hfetch.1.of_error failed
      exact ⟨_, .refused (h.vacant vacant) unit' fetched' failed', rfl, notices,
        { h with loader := hfetch.2 }⟩
    | loaded vacant unit fetched =>
      have unit' : c'.usable = true := h.usable ▸ unit
      rw [fetched, hfetched] at hfetch
      obtain ⟨f', rfl, hf⟩ := hfetch.1.of_loaded
      refine ⟨_, .loaded (h.vacant vacant) unit' fetched', rfl, ?_, h.adopted hf hfetch.2⟩
      rw [hf.notices, hf.bundle]

theorem run_alike (twins : Twins same twin) {x : Step} (quiet : x.engine? = none)
    {s : Controller H B × L} {s' : Controller H' B' × L'} (h : Alike same twin s s') :
    (run x s).Alike (Alike same twin) (run x s') := by
  obtain ⟨c, l⟩ := s
  obtain ⟨c', l'⟩ := s'
  cases x with
  | earlyInit =>
    rw [run_earlyInit, run_earlyInit]
    exact ⟨rfl, h.gateNotices, h.gated⟩
  | initSoftware =>
    obtain ⟨o', setup', alike⟩ := (setup_initSoftware c l).alike twins h
    change (initSoftware (c, l)).Alike (Alike same twin) (initSoftware (c', l'))
    rwa [(setup_initSoftware c' l').unique setup']
  | removeSupport =>
    refine ⟨rfl, rfl, h.withdrawn ?_⟩
    cases hf : c.firmware with
    | none =>
      rw [h.vacant hf]
      exact h.loader
    | some f =>
      obtain ⟨f', hf', hblobs⟩ := h.held hf
      rw [hf']
      exact Firmware.releaseAll_twins twins hblobs.blobs.newestFirst h.loader
  | engine x => cases quiet

theorem act_alike (twins : Twins same twin) {m : Move H L} {m' : Move H L'} (hm : m.Twin same m')
    (quiet : m.engine? = none) {s : Controller H B × L} {s' : Controller H B' × L'}
    (h : Alike same twin s s') : (m.act s).Alike (Alike same twin) (m'.act s') := by
  cases hm with
  | step x => exact (run_alike twins (Option.map_eq_none_iff.1 quiet) h).transcript x
  | hardware f => cases quiet
  | loader hf => exact ⟨rfl, { h with loader := hf _ _ h.loader }⟩

end FalconPmu.Controller
