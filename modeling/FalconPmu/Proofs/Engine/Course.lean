import FalconPmu.Engine.Sequence

namespace FalconPmu.Engine

variable {H : Type}

/-- The first three are courses of `enable` that fail, the last three courses of `disable`. -/
inductive Course where
  | releaseRefused (e : Fault)
  | scrubFailed (e : Fault) (recovery : Except Fault Unit)
  | idleFailed (e : Fault)
  | enabled
  | alreadyInReset
  | resetRefused (e : Fault)
  | putInReset

namespace Course

def written : Course → Option State
  | releaseRefused _ | resetRefused _ => none
  | scrubFailed _ _ | alreadyInReset | putInReset => some .inReset
  | idleFailed _ => some .scrubbing
  | enabled => some .enabled

def result : Course → Except Fault Unit
  | releaseRefused e | resetRefused e => .error e
  | scrubFailed _ _ => .error .scrubTimeout
  | idleFailed _ => .error .enableTimeout
  | enabled | alreadyInReset | putInReset => .ok ()

def notices : Course → List Notice
  | releaseRefused e => [.engineEnabling, .resetReleaseFailed e]
  | scrubFailed _ (.ok ()) => [.engineEnabling, .scrubTimedOut]
  | scrubFailed _ (.error e) => [.engineEnabling, .scrubTimedOut, .resetRecoveryFailed e]
  | idleFailed _ => [.engineEnabling, .idleTimedOut]
  | enabled => [.engineEnabling, .engineEnabled]
  | alreadyInReset => [.engineDisabling, .alreadyInReset]
  | resetRefused e => [.engineDisabling, .resetFailed e]
  | putInReset => [.engineDisabling]

def line : Course → Bool → Bool
  | releaseRefused _, before | resetRefused _, before => before
  | scrubFailed _ (.ok ()), _ | alreadyInReset, _ | putInReset, _ => true
  | scrubFailed _ (.error _), _ | idleFailed _, _ | enabled, _ => false

open Hardware in
def opening : List Event :=
  [⟨.release true, .ok ()⟩, ⟨.loadSecondLevelGating, .ok ()⟩, ⟨.loadBlockLevelGating, .ok ()⟩]

open Hardware in
def masking (mask : Bool) : List Event := if mask then [⟨.setInterrupt false, .ok ()⟩] else []

open Hardware in
/-- The calls made in a course; `mask` is whether the interrupt is managed. -/
def events (mask : Bool) : Course → List Event
  | releaseRefused e => [⟨.release true, .error e⟩]
  | scrubFailed e r => opening ++ [⟨.awaitScrub, .error e⟩, ⟨.release false, r⟩]
  | idleFailed e => opening ++ [⟨.awaitScrub, .ok ()⟩, ⟨.awaitIdle, .error e⟩]
  | enabled => opening ++ [⟨.awaitScrub, .ok ()⟩, ⟨.awaitIdle, .ok ()⟩]
  | alreadyInReset => []
  | resetRefused e => masking mask ++ [⟨.release false, .error e⟩]
  | putInReset => masking mask ++ [⟨.release false, .ok ()⟩]

end Course

variable [Hardware H]

def up (h : H) : Course × H :=
  match Hardware.release true h with
  | (.error e, h) => (.releaseRefused e, h)
  | (.ok (), h) =>
    match Hardware.awaitScrub (Hardware.loadBlockLevelGating (Hardware.loadSecondLevelGating h)) with
    | (.error e, h) => (.scrubFailed e (Hardware.release false h).1, (Hardware.release false h).2)
    | (.ok (), h) =>
      match Hardware.awaitIdle h with
      | (.error e, h) => (.idleFailed e, h)
      | (.ok (), h) => (.enabled, h)

def down (mask : Bool) (h : H) : Course × H :=
  if Hardware.inReset h then
    (.alreadyInReset, h)
  else
    match Hardware.release false (if mask then Hardware.setInterrupt false h else h) with
    | (.error e, h) => (.resetRefused e, h)
    | (.ok (), h) => (.putInReset, h)

def follow (e : Engine H) (p : Course × H) : Engine H :=
  { e with hardware := p.2, state := p.1.written.getD e.state }

theorem recover_apply (e : Engine H) :
    recover e = ⟨.ok (),
      { e with hardware := (Hardware.release false e.hardware).2, state := .inReset },
      match (Hardware.release false e.hardware).1 with
        | .ok () => []
        | .error e => [.resetRecoveryFailed e]⟩ := by
  obtain ⟨h, s, mask⟩ := e
  simp only [recover, call, setState, Action.bind_apply, Action.attempt_apply, Action.external_apply]
  cases (Hardware.release false h).1 with
  | ok => rfl
  | error e => rfl

theorem enable_apply (e : Engine H) :
    enable e = ⟨(up e.hardware).1.result, e.follow (up e.hardware), (up e.hardware).1.notices⟩ := by
  obtain ⟨h, s, mask⟩ := e
  simp only [enable, call, perform, setState, Action.noteFailure, Action.bind_apply,
    Action.note_apply, Action.attempt_apply, Action.external_apply, Action.modify_apply, up]
  rcases Hardware.release true h with ⟨_ | _, h⟩
  · rfl
  simp only [Action.pure_apply]
  rcases Hardware.awaitScrub (Hardware.loadBlockLevelGating (Hardware.loadSecondLevelGating h))
    with ⟨_ | _, h⟩
  · simp only [Action.bind_apply, Action.note_apply, Action.fail_apply, recover_apply]
    cases (Hardware.release false h).1 with
    | ok => rfl
    | error e => rfl
  · simp only [Action.bind_apply, Action.attempt_apply, Action.external_apply]
    rcases Hardware.awaitIdle h with ⟨_ | _, h⟩
    · rfl
    · rfl

theorem disable_apply (e : Engine H) :
    disable e = ⟨(down e.manageInterrupt e.hardware).1.result,
      e.follow (down e.manageInterrupt e.hardware),
      (down e.manageInterrupt e.hardware).1.notices⟩ := by
  obtain ⟨h, s, mask⟩ := e
  simp only [disable, Action.bind_apply, Action.note_apply, Action.get_apply, down]
  by_cases hreset : Hardware.inReset h = true
  · rw [if_pos hreset, if_pos hreset]
    rfl
  · rw [if_neg hreset, if_neg hreset]
    cases mask with
    | false =>
      simp only [Action.noteFailure, call, setState, Action.bind_apply, Action.attempt_apply,
        Action.external_apply, Bool.false_eq_true, if_false]
      rcases Hardware.release false h with ⟨_ | _, h⟩ <;> rfl
    | true =>
      simp only [Action.noteFailure, call, perform, setState, Action.bind_apply,
        Action.attempt_apply, Action.external_apply, Action.modify_apply, if_true]
      rcases Hardware.release false (Hardware.setInterrupt false h) with ⟨_ | _, h⟩ <;> rfl

section Line

variable [LawfulHardware H]

theorem inReset_of_release_ok {on : Bool} {h h' : H}
    (hr : Hardware.release on h = (.ok (), h')) : Hardware.inReset h' = !on := by
  simpa only [hr] using LawfulHardware.inReset_release on h

theorem inReset_of_release_error {on : Bool} {h h' : H} {e : Fault}
    (hr : Hardware.release on h = (.error e, h')) : Hardware.inReset h' = Hardware.inReset h := by
  simpa only [hr] using LawfulHardware.inReset_release on h

theorem inReset_of_awaitScrub {h h' : H} {r : Except Fault Unit}
    (hs : Hardware.awaitScrub h = (r, h')) : Hardware.inReset h' = Hardware.inReset h := by
  simpa only [hs] using LawfulHardware.inReset_awaitScrub h

theorem inReset_of_awaitIdle {h h' : H} {r : Except Fault Unit}
    (hi : Hardware.awaitIdle h = (r, h')) : Hardware.inReset h' = Hardware.inReset h := by
  simpa only [hi] using LawfulHardware.inReset_awaitIdle h

theorem inReset_up (h : H) :
    Hardware.inReset (up h).2 = (up h).1.line (Hardware.inReset h) := by
  rcases hr : Hardware.release true h with ⟨e | _, h₁⟩
  · simpa only [up, hr, Course.line] using inReset_of_release_error hr
  rcases hs : Hardware.awaitScrub
    (Hardware.loadBlockLevelGating (Hardware.loadSecondLevelGating h₁)) with ⟨e | _, h₂⟩ <;>
    have hout : Hardware.inReset h₂ = false := by
      rw [inReset_of_awaitScrub hs]
      simpa using inReset_of_release_ok hr
  · rcases hrec : Hardware.release false h₂ with ⟨e' | _, h₃⟩
    · simpa only [up, hr, hs, hrec, Course.line] using (inReset_of_release_error hrec).trans hout
    · simpa only [up, hr, hs, hrec, Course.line, Bool.not_false] using inReset_of_release_ok hrec
  · rcases hi : Hardware.awaitIdle h₂ with ⟨e | _, h₃⟩ <;>
      simpa only [up, hr, hs, hi, Course.line] using (inReset_of_awaitIdle hi).trans hout

theorem inReset_down (mask : Bool) (h : H) :
    Hardware.inReset (down mask h).2 = (down mask h).1.line (Hardware.inReset h) := by
  by_cases hreset : Hardware.inReset h = true
  · simp only [down, if_pos hreset]
    exact hreset
  have hmask : Hardware.inReset (if mask then Hardware.setInterrupt false h else h) =
      Hardware.inReset h := by
    cases mask <;> simp
  rcases hr : Hardware.release false (if mask then Hardware.setInterrupt false h else h)
    with ⟨e | _, h₁⟩
  · simpa only [down, if_neg hreset, hr, Course.line] using
      (inReset_of_release_error hr).trans hmask
  · simpa only [down, if_neg hreset, hr, Course.line, Bool.not_false] using
      inReset_of_release_ok hr

end Line

open Hardware (Traced)

theorem up_traced (mask : Bool) (t : Traced H) :
    up t = ((up t.hardware).1, ⟨(up t.hardware).2, t.events ++ (up t.hardware).1.events mask⟩) := by
  obtain ⟨h, es⟩ := t
  simp only [up, Hardware.release, Hardware.loadSecondLevelGating, Hardware.loadBlockLevelGating,
    Hardware.awaitScrub, Hardware.awaitIdle, Traced.answer, Traced.effect]
  rcases Hardware.release true h with ⟨_ | _, h₁⟩
  · rfl
  simp only
  rcases Hardware.awaitScrub
    (Hardware.loadBlockLevelGating (Hardware.loadSecondLevelGating h₁)) with ⟨_ | _, h₂⟩
  · simp [Course.events, Course.opening]
  simp only
  rcases Hardware.awaitIdle h₂ with ⟨_ | _, h₃⟩ <;>
    simp [Course.events, Course.opening]

theorem down_traced (mask : Bool) (t : Traced H) :
    down mask t =
      ((down mask t.hardware).1,
        ⟨(down mask t.hardware).2, t.events ++ (down mask t.hardware).1.events mask⟩) := by
  obtain ⟨h, es⟩ := t
  simp only [down, Hardware.inReset, Hardware.release, Hardware.setInterrupt, Traced.answer,
    Traced.effect]
  by_cases hreset : Hardware.inReset h = true
  · simp [hreset, Course.events]
  rw [if_neg hreset, if_neg hreset]
  cases mask with
  | false =>
    simp only [Bool.false_eq_true, if_false]
    rcases Hardware.release false h with ⟨_ | _, h₁⟩ <;> simp [Course.events, Course.masking]
  | true =>
    simp only [if_true]
    rcases Hardware.release false (Hardware.setInterrupt false h) with ⟨_ | _, h₁⟩ <;>
      simp [Course.events, Course.masking]

end FalconPmu.Engine
