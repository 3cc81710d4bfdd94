import FalconPmu.Proofs.Controller.Custody

namespace FalconPmu

inductive Feature where
  | lsPmu
  | perfmon
  | canElpg
  | elpgEnabled
  | aelpgEnabled

namespace Capabilities

def has (k : Capabilities) : Feature → Bool
  | .lsPmu => k.lsPmu
  | .perfmon => k.perfmon
  | .canElpg => k.canElpg
  | .elpgEnabled => k.elpgEnabled
  | .aelpgEnabled => k.aelpgEnabled

theorem has_withoutUnit (k : Capabilities) (f : Feature) : k.withoutUnit.has f = false := by
  cases f <;> rfl

structure Wanes (k k' : Capabilities) : Prop where
  privSecurity : k'.privSecurity = k.privSecurity
  manageInterrupt : k'.manageInterrupt = k.manageInterrupt
  features : k'.has = k.has ∨ ∀ f, k'.has f = false

variable {k k' k'' : Capabilities}

theorem Wanes.refl (k : Capabilities) : Wanes k k := ⟨rfl, rfl, .inl rfl⟩

theorem Wanes.trans (h : Wanes k k') (h' : Wanes k' k'') : Wanes k k'' where
  privSecurity := h'.privSecurity.trans h.privSecurity
  manageInterrupt := h'.manageInterrupt.trans h.manageInterrupt
  features := by
    obtain same' | lost' := h'.features
    · rw [same']
      exact h.features
    · exact .inr lost'

theorem Wanes.falling (h : Wanes k k') {f : Feature} (has : k'.has f = true) : k.has f = true := by
  obtain same | lost := h.features
  · rwa [← same]
  · rw [lost f] at has
    cases has

theorem Wanes.gone (h : Wanes k k') {f : Feature} (lost : k.has f = false) : k'.has f = false := by
  by_contra kept
  have has : k.has f = true := h.falling (eq_true_of_ne_false kept)
  rw [lost] at has
  cases has

theorem Wanes.lost (h : Wanes k k') {f : Feature} (changed : k'.has f ≠ k.has f) (g : Feature) :
    k'.has g = false := by
  obtain same | lost := h.features
  · exact absurd (congrFun same f) changed
  · exact lost g

end Capabilities

namespace Loader

variable {B : Type}

def Event.requested? : Event B → Option String
  | missing name | handedOut name _ => some name
  | returned _ => none

def requests (es : List (Event B)) : List String := es.filterMap Event.requested?

theorem requests_append (es ds : List (Event B)) : requests (es ++ ds) = requests es ++ requests ds :=
  List.filterMap_append

theorem requests_returned (blobs : List B) : requests (blobs.map .returned) = [] := by
  simp [requests, Event.requested?]

end Loader

namespace Controller

open Loader (Traced requests requests_append requests_returned)

variable {H L B : Type}

inductive Shift (m : Move H L) (c c' : Controller H B) : Prop
  | kept (capabilities : c'.capabilities = c.capabilities)
  | lost (capabilities : c'.capabilities = c.capabilities.withoutUnit)
  | loaded {f} (setup : m = .step .initSoftware) (vacant : c.firmware = none)
      (held : c'.firmware = some f)
      (capabilities : c'.capabilities = { c.capabilities with zbcSave := f.bundle.zbcSave })

theorem Shift.wanes {m : Move H L} {c c' : Controller H B} (h : Shift m c c') :
    c.capabilities.Wanes c'.capabilities := by
  cases h with
  | kept capabilities =>
    rw [capabilities]
    exact .refl _
  | lost capabilities =>
    rw [capabilities]
    exact ⟨rfl, rfl, .inr c.capabilities.has_withoutUnit⟩
  | loaded setup vacant held capabilities =>
    rw [capabilities]
    refine ⟨rfl, rfl, .inl ?_⟩
    funext f
    cases f <;> rfl

theorem Shift.loads {m : Move H L} {c c' : Controller H B} (h : Shift m c c')
    (changed : c'.capabilities.zbcSave ≠ c.capabilities.zbcSave) :
    m = .step .initSoftware ∧ c.firmware = none ∧
      ∃ f, c'.firmware = some f ∧ c'.capabilities.zbcSave = f.bundle.zbcSave := by
  cases h with
  | kept capabilities =>
    rw [capabilities] at changed
    exact absurd rfl changed
  | lost capabilities =>
    rw [capabilities] at changed
    exact absurd rfl changed
  | @loaded f setup vacant held capabilities =>
    rw [capabilities]
    exact ⟨setup, vacant, f, held, rfl⟩

variable [Hardware H]

theorem shift_gated (m : Move H L) (c : Controller H B) : Shift m c c.gated := by
  cases h : c.capabilities.lsPmu && !Hardware.supported c.engine.hardware with
  | false => exact .kept (by simp [gated, remaining, h])
  | true => exact .lost (by simp [gated, remaining, h])

variable [Blob B] [Loader L B]

theorem Setup.shift {c : Controller H B} {l : L} {o : Outcome (Controller H B × L) Unit}
    (s : Setup c l o) : Shift (.step .initSoftware : Move H L) c o.state.1 := by
  cases s with
  | skipped held => exact .kept rfl
  | unused vacant unit => exact shift_gated _ c
  | refused vacant unit fetched failed => exact .kept rfl
  | loaded vacant unit fetched => exact .loaded rfl vacant rfl rfl

theorem shift_act (m : Move H L) (s : Controller H B × L) : Shift m s.1 (m.act s).state.1 := by
  cases m with
  | step x =>
    cases x with
    | earlyInit =>
      rw [Move.act, run_earlyInit]
      exact shift_gated _ s.1
    | initSoftware => exact (setup_initSoftware s.1 s.2).shift
    | removeSupport => exact .kept rfl
    | engine x => exact .kept rfl
  | hardware f => exact .kept rfl
  | loader f => exact .kept rfl

theorem wanes_play (ms : List (Move H L)) (s : Controller H B × L) :
    s.1.capabilities.Wanes (play ms s).state.1.capabilities := by
  apply play_preserves (P := fun s' => s.1.capabilities.Wanes s'.1.capabilities)
  · intro m _ s' h
    exact h.trans (shift_act m s').wanes
  · exact .refl _

theorem requests_act {m : Move H L} {s : Controller H B × Traced L B}
    (asked : requests (m.recorded.act s).state.2.events ≠ requests s.2.events) :
    m = .step .initSoftware ∧ s.1.firmware = none ∧ s.1.usable = true := by
  obtain ⟨c, t⟩ := s
  cases m with
  | hardware f => exact absurd rfl asked
  | loader f => exact absurd rfl asked
  | step x =>
    simp only [Move.recorded, Move.act, Outcome.transcript, run_traced, requests_append] at asked
    cases x with
    | earlyInit => simp [events, requests] at asked
    | engine x => simp [events, requests] at asked
    | removeSupport => simp [events, requests_returned] at asked
    | initSoftware =>
      by_cases loads : (c.firmware.isNone && c.usable) = true
      · simpa using loads
      · simp [events, loads, requests] at asked

theorem lsPmu_act {m : Move H L} {s : Controller H B × L} (lost : s.1.capabilities.lsPmu = false) :
    (m.act s).state.1.capabilities.lsPmu = false :=
  (shift_act m s).wanes.gone (f := .lsPmu) lost

theorem requests_reached (ms : List (Move H L)) {s : Controller H B × Traced L B}
    (lost : s.1.capabilities.lsPmu = false) :
    requests (reached ms s).2.events = requests s.2.events := by
  -- Only both together are preserved: what is not requested depends on the unit being lost.
  have still : (reached ms s).1.capabilities.lsPmu = false ∧
      requests (reached ms s).2.events = requests s.2.events := by
    apply reached_preserves
      (P := fun s' => s'.1.capabilities.lsPmu = false ∧ requests s'.2.events = requests s.2.events)
    · intro m s' h
      refine ⟨lsPmu_act h.1, ?_⟩
      by_contra asked
      have unit := (requests_act fun same => asked (same.trans h.2)).2.2
      rw [usable, h.1] at unit
      cases unit
    · exact ⟨lost, rfl⟩
  exact still.2

/-- What a run makes of the capabilities, and when it asks for blobs. Points of the run are given by the
moves before them. -/
structure Waning (ms : List (Move H L)) (s : Controller H B × Traced L B) : Prop where
  privSecurity : (reached ms s).1.capabilities.privSecurity = s.1.capabilities.privSecurity
  manageInterrupt : (reached ms s).1.capabilities.manageInterrupt = s.1.capabilities.manageInterrupt
  falling : ∀ before later, ms = before ++ later → ∀ f,
    (reached ms s).1.capabilities.has f = true → (reached before s).1.capabilities.has f = true
  lost : ∀ before later, ms = before ++ later →
    (∃ f, (reached before s).1.capabilities.has f ≠ s.1.capabilities.has f) →
    ∀ f, (reached ms s).1.capabilities.has f = false
  zbcSave : ∀ before m later, ms = before ++ m :: later →
    (reached (before ++ [m]) s).1.capabilities.zbcSave ≠ (reached before s).1.capabilities.zbcSave →
    m = .step .initSoftware ∧ (reached before s).1.firmware = none ∧
      ∃ f, (reached (before ++ [m]) s).1.firmware = some f ∧
        (reached (before ++ [m]) s).1.capabilities.zbcSave = f.bundle.zbcSave
  requests : ∀ before m later, ms = before ++ m :: later →
    Loader.requests (reached (before ++ [m]) s).2.events ≠
      Loader.requests (reached before s).2.events →
    m = .step .initSoftware ∧ (reached before s).1.firmware = none ∧
      (reached before s).1.capabilities.lsPmu = true ∧
      Hardware.supported (reached before s).1.engine.hardware = true
  silent : ∀ before later, ms = before ++ later →
    (reached before s).1.capabilities.lsPmu = false →
    Loader.requests (reached ms s).2.events = Loader.requests (reached before s).2.events

theorem waning_play (ms : List (Move H L)) (s : Controller H B × Traced L B) : Waning ms s where
  privSecurity := (wanes_play _ s).privSecurity
  manageInterrupt := (wanes_play _ s).manageInterrupt
  falling := by
    rintro before later rfl f has
    rw [reached_append] at has
    exact (wanes_play _ (reached before s)).falling has
  lost := by
    rintro before later rfl ⟨f, changed⟩ g
    have lost := (wanes_play _ s).lost changed g
    rw [reached_append]
    exact (wanes_play _ (reached before s)).gone lost
  zbcSave := by
    rintro before m later rfl changed
    rw [reached_append] at changed ⊢
    obtain ⟨setup, vacant, loaded⟩ := (shift_act m.recorded (reached before s)).loads changed
    exact ⟨Move.eq_step_of_recorded setup, vacant, loaded⟩
  requests := by
    rintro before m later rfl asked
    rw [reached_append] at asked
    obtain ⟨setup, vacant, unit⟩ := requests_act asked
    rw [usable, Bool.and_eq_true] at unit
    exact ⟨setup, vacant, unit⟩
  silent := by
    rintro before later rfl lost
    rw [reached_append]
    exact requests_reached later lost

end Controller

end FalconPmu
