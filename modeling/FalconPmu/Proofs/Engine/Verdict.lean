import FalconPmu.Proofs.Engine.Recorded

namespace FalconPmu.Engine

open Hardware (Event Traced)

variable {H : Type}

def recording (e : Engine H) : Engine (Traced H) := ⟨⟨e.hardware, []⟩, e.state, e.manageInterrupt⟩

namespace Course

variable (mask : Bool) (c : Course)

theorem result_eq_ok_iff : c.result = .ok () ↔ ∀ ev ∈ c.events mask, ev.result = .ok () := by
  cases c with
  | resetRefused e => cases mask <;> simp [result, events, masking]
  | putInReset => cases mask <;> simp [result, events, masking]
  | _ => simp [result, events, opening]

variable {c}

theorem result_eq_error_iff_of_up (hc : c.isUp = true) (x : Fault) :
    c.result = .error x ↔ ⟨.release true, .error x⟩ ∈ c.events mask ∨
      (x = .scrubTimeout ∧ ∃ y, ⟨.awaitScrub, .error y⟩ ∈ c.events mask) ∨
      (x = .enableTimeout ∧ ∃ y, ⟨.awaitIdle, .error y⟩ ∈ c.events mask) := by
  cases c with
  | releaseRefused e => simp [result, events, eq_comm]
  | scrubFailed e r => simp [result, events, opening, eq_comm]
  | idleFailed e => simp [result, events, opening, eq_comm]
  | enabled => simp [result, events, opening]
  | _ => cases hc

theorem result_eq_error_iff_of_down (hc : c.isUp = false) (x : Fault) :
    c.result = .error x ↔ ⟨.release false, .error x⟩ ∈ c.events mask := by
  cases c with
  | alreadyInReset => simp [result, events]
  | resetRefused e => cases mask <;> simp [result, events, masking, eq_comm]
  | putInReset => cases mask <;> simp [result, events, masking]
  | _ => cases hc

theorem written_of_released {x : Fault} (h : ⟨.release true, .error x⟩ ∈ c.events mask) :
    c.written = none := by
  cases c with
  | releaseRefused e => rfl
  | resetRefused e => rfl
  | putInReset => cases mask <;> simp [events, masking] at h
  | _ => simp [events, opening] at h

theorem written_of_error_of_down (hc : c.isUp = false) {x : Fault} (h : c.result = .error x) :
    c.written = none := by
  cases c with
  | resetRefused e => rfl
  | alreadyInReset => cases h
  | putInReset => cases h
  | _ => cases hc

theorem written_of_ok (h : c.result = .ok ()) :
    c.written = some (if c.isUp then .enabled else .inReset) := by
  cases c with
  | enabled => rfl
  | alreadyInReset => rfl
  | putInReset => rfl
  | _ => cases h

theorem line_of_ok (h : c.result = .ok ()) (b : Bool) : c.line b = !c.isUp := by
  cases c with
  | enabled => rfl
  | alreadyInReset => rfl
  | putInReset => rfl
  | _ => cases h

end Course

variable [Hardware H]

def calls (s : Step) (e : Engine H) : List Event := (run s e.recording).state.hardware.events

theorem calls_enable (e : Engine H) :
    calls .enable e = (up e.hardware).1.events e.manageInterrupt :=
  (enable_traced e.recording).2

theorem calls_disable (e : Engine H) :
    calls .disable e = (down e.manageInterrupt e.hardware).1.events e.manageInterrupt :=
  (disable_traced e.recording).2

theorem run_reset_result (e : Engine H) :
    (run .reset e).result = match (disable e).result with
      | .ok () => (enable (disable e).state).result
      | .error x => .error x := by
  simp only [run, reset, Action.bind_apply, Action.note_apply]
  rcases disable e with ⟨_ | _, e', js⟩
  · rfl
  · simp only
    rcases enable e' with ⟨_ | _, e'', js'⟩ <;> rfl

theorem calls_reset (e : Engine H) :
    calls .reset e = match (disable e).result with
      | .ok () => calls .disable e ++ calls .enable (disable e).state
      | .error _ => calls .disable e := by
  obtain ⟨hstate, hresult⟩ := disable_unrecorded e.recording
  change (disable e).state = _ at hstate
  change (disable e).result = _ at hresult
  rw [calls, run_reset_state, ← hresult]
  cases (disable e).result with
  | error x => rfl
  | ok u =>
    rw [calls_enable, hstate]
    exact (enable_traced (disable e.recording).state).2

theorem enable_unrecorded_result (e : Engine (Traced H)) :
    (enable e.unrecorded).result = (enable e).result := by
  rw [enable_apply, enable_apply, up_traced e.manageInterrupt]
  rfl

theorem run_recording (s : Step) (e : Engine H) :
    (run s e.recording).result = (run s e).result ∧
      (run s e.recording).state.unrecorded = (run s e).state := by
  refine ⟨?_, (run_unrecorded s e.recording).symm⟩
  cases s with
  | enable => exact (enable_unrecorded_result e.recording).symm
  | disable => exact (disable_unrecorded e.recording).2.symm
  | reset =>
    obtain ⟨hstate, hresult⟩ := disable_unrecorded e.recording
    change (disable e).state = _ at hstate
    change (disable e).result = _ at hresult
    rw [run_reset_result, run_reset_result, hresult, hstate, enable_unrecorded_result]

theorem run_result_eq_ok_iff (s : Step) (e : Engine H) :
    (run s e).result = .ok () ↔ ∀ ev ∈ calls s e, ev.result = .ok () := by
  have enabled (e : Engine H) :
      (enable e).result = .ok () ↔ ∀ ev ∈ calls .enable e, ev.result = .ok () := by
    rw [calls_enable, enable_apply]
    exact Course.result_eq_ok_iff _ _
  have disabled : (disable e).result = .ok () ↔ ∀ ev ∈ calls .disable e, ev.result = .ok () := by
    rw [calls_disable, disable_apply]
    exact Course.result_eq_ok_iff _ _
  cases s with
  | enable => exact enabled e
  | disable => exact disabled
  | reset =>
    rw [run_reset_result, calls_reset]
    cases hr : (disable e).result with
    | error x =>
      rw [hr] at disabled
      exact iff_of_false (by simp) (disabled.not.1 (by simp))
    | ok u =>
      simp only [List.forall_mem_append]
      rw [enabled, and_iff_right (disabled.1 hr)]

def Unmoved (e e' : Engine H) : Prop :=
  e'.state = e.state ∧ Hardware.inReset e'.hardware = Hardware.inReset e.hardware

theorem faithful_run (s : Step) (e : Engine H) :
    (run s e.recording).state.hardware.Faithful e.hardware := by
  have start : e.recording.hardware.Faithful e.hardware := ⟨rfl, Hardware.throughout_nil⟩
  cases s with
  | enable => exact faithful_enable start
  | disable => exact faithful_disable start
  | reset =>
    rw [run_reset_state]
    split
    · exact faithful_enable (faithful_disable start)
    · exact faithful_disable start

theorem unmoved_follow {e : Engine H} {p : Course × H}
    (hline : Hardware.inReset p.2 = p.1.line (Hardware.inReset e.hardware))
    (h : p.1.written = none) : Unmoved e (e.follow p) := by
  refine ⟨?_, ?_⟩
  · rw [follow, h]
    rfl
  · change Hardware.inReset p.2 = _
    rw [hline, Course.line_of_not_written (by simp [h])]

theorem disable_of_inReset {e : Engine H} (h : Hardware.inReset e.hardware = true) :
    (disable e).result = .ok () ∧ calls .disable e = [] := by
  rw [calls_disable, disable_apply, down, if_pos h]
  exact ⟨rfl, rfl⟩

section Lawful

variable [LawfulHardware H] {e : Engine H}

theorem enable_of_ok (h : (enable e).result = .ok ()) :
    (enable e).state.state = .enabled ∧ Hardware.inReset (enable e).state.hardware = false := by
  rw [enable_apply] at h ⊢
  have hup := isUp_up e.hardware
  refine ⟨?_, ?_⟩
  · simp [follow, Course.written_of_ok h, hup]
  · simp [follow, inReset_up, Course.line_of_ok h, hup]

theorem disable_of_ok (h : (disable e).result = .ok ()) :
    (disable e).state.state = .inReset ∧ Hardware.inReset (disable e).state.hardware = true := by
  rw [disable_apply] at h ⊢
  have hdown := isUp_down e.manageInterrupt e.hardware
  refine ⟨?_, ?_⟩
  · simp [follow, Course.written_of_ok h, hdown]
  · simp [follow, inReset_down, Course.line_of_ok h, hdown]

theorem run_of_ok {s : Step} (hs : s ≠ .disable) (h : (run s e).result = .ok ()) :
    (run s e).state.state = .enabled ∧ Hardware.inReset (run s e).state.hardware = false := by
  cases s with
  | enable => exact enable_of_ok h
  | disable => exact absurd rfl hs
  | reset =>
    rw [run_reset_result] at h
    rw [run_reset_state]
    cases hr : (disable e).result with
    | error x => simp [hr] at h
    | ok u =>
      rw [hr] at h
      exact enable_of_ok h

end Lawful

structure Verdict (e : Engine H) : Prop where
  recorded : ∀ s, (run s e.recording).result = (run s e).result ∧
    (run s e.recording).state.unrecorded = (run s e).state ∧
    (run s e.recording).state.hardware.Faithful e.hardware
  succeeds : ∀ s, (run s e).result = .ok () ↔ ∀ ev ∈ calls s e, ev.result = .ok ()
  raised : ∀ s, s ≠ .disable → (run s e).result = .ok () →
    (run s e).state.state = .enabled ∧ Hardware.inReset (run s e).state.hardware = false
  lowered : (run .disable e).result = .ok () →
    (run .disable e).state.state = .inReset ∧
      Hardware.inReset (run .disable e).state.hardware = true
  already : Hardware.inReset e.hardware = true →
    (run .disable e).result = .ok () ∧ calls .disable e = []
  disableFails : ∀ x, (run .disable e).result = .error x ↔
    ⟨.release false, .error x⟩ ∈ calls .disable e
  disableUnmoved : ∀ x, (run .disable e).result = .error x → Unmoved e (run .disable e).state
  enableFails : ∀ x, (run .enable e).result = .error x ↔
    ⟨.release true, .error x⟩ ∈ calls .enable e ∨
      (x = .scrubTimeout ∧ ∃ y, ⟨.awaitScrub, .error y⟩ ∈ calls .enable e) ∨
      (x = .enableTimeout ∧ ∃ y, ⟨.awaitIdle, .error y⟩ ∈ calls .enable e)
  enableUnmoved : ∀ x, ⟨.release true, .error x⟩ ∈ calls .enable e →
    Unmoved e (run .enable e).state

/-- From whatever state, and wherever the reset line is, the operations report what the hardware did and
leave the engine where they say. -/
theorem verdict_run [LawfulHardware H] (e : Engine H) : Verdict e where
  recorded := by
    intro s
    obtain ⟨hresult, hstate⟩ := run_recording s e
    exact ⟨hresult, hstate, faithful_run s e⟩
  succeeds := fun s => run_result_eq_ok_iff s e
  raised := fun _ hs h => run_of_ok hs h
  lowered := disable_of_ok
  already := disable_of_inReset
  disableFails := by
    intro x
    rw [run, calls_disable, disable_apply]
    exact Course.result_eq_error_iff_of_down _ (isUp_down _ _) x
  disableUnmoved := by
    intro x h
    rw [run, disable_apply] at h ⊢
    exact unmoved_follow (inReset_down _ _) (Course.written_of_error_of_down (isUp_down _ _) h)
  enableFails := by
    intro x
    rw [run, calls_enable, enable_apply]
    exact Course.result_eq_error_iff_of_up _ (isUp_up _) x
  enableUnmoved := by
    intro x h
    rw [calls_enable] at h
    rw [run, enable_apply]
    exact unmoved_follow (inReset_up _) (Course.written_of_released _ h)

theorem verdict_run_stuck :
    let e : Engine Board := ⟨stuckBoard, .inReset, true⟩
    (run .enable e).result = .error .scrubTimeout ∧
      (run .disable e).result = .error (.hardware (-5)) ∧ Unmoved e (run .disable e).state ∧
      (run .reset e).result ≠ .ok () := by
  intro e
  have verdict := verdict_run e
  have up : calls .enable e = Course.opening ++
      [⟨.awaitScrub, .error (.hardware (-110))⟩, ⟨.release false, .error (.hardware (-5))⟩] := rfl
  have down : calls .disable e =
      [⟨.setInterrupt false, .ok ()⟩, ⟨.release false, .error (.hardware (-5))⟩] := rfl
  have failed : (run .disable e).result = .error (.hardware (-5)) := by
    rw [verdict.disableFails, down]
    simp
  refine ⟨?_, failed, verdict.disableUnmoved _ failed, ?_⟩
  · rw [verdict.enableFails, up]
    exact .inr (.inl ⟨rfl, .hardware (-110), by simp⟩)
  · have first : calls .reset e = calls .disable e := rfl
    rw [Ne, verdict.succeeds, first, down]
    simp

end FalconPmu.Engine
